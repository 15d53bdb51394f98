/-!
# UTF-8

Texts as bytes. `encode` gives the bytes of a text. `repair` reads any bytes: each maximal stretch
that begins a character and cannot be completed counts as one U+FFFD, and so does each byte that
cannot begin one. `decode?` reads only what is well formed.
-/

namespace TypedMarkup.Text.Utf8

/-- A character whose first bytes have been read: how many bytes are still owed, the least and
greatest value of the next one, and the bits read so far. -/
structure Pending where
  owed : Nat
  least : Nat
  greatest : Nat
  bits : Nat
  deriving Repr, DecidableEq

/-- What a byte at the start of a character can be. -/
inductive Lead where
  | single (c : Char)
  | opening (p : Pending)
  | invalid
  deriving Repr, DecidableEq

/-- Reads the first byte of a character. The bounds on the second byte leave out forms longer than
needed, surrogates and all beyond U+10FFFF. -/
def lead (b : Nat) : Lead :=
  if b < 0x80 then .single (Char.ofNat b)
  else if b < 0xC2 then .invalid
  else if b < 0xE0 then .opening ⟨1, 0x80, 0xBF, b % 0x20⟩
  else if b = 0xE0 then .opening ⟨2, 0xA0, 0xBF, 0⟩
  else if b = 0xED then .opening ⟨2, 0x80, 0x9F, 0xD⟩
  else if b < 0xF0 then .opening ⟨2, 0x80, 0xBF, b % 0x10⟩
  else if b = 0xF0 then .opening ⟨3, 0x90, 0xBF, 0⟩
  else if b < 0xF4 then .opening ⟨3, 0x80, 0xBF, b % 8⟩
  else if b = 0xF4 then .opening ⟨3, 0x80, 0x8F, 4⟩
  else .invalid

/-- Stands for what could not be read. -/
def replacement : Char := Char.ofNat 0xFFFD

/-- Reads the bytes, after the first bytes of `pending` if there are any; `none` in the result
stands for a stretch that is not well formed. -/
def scan : (pending : Option Pending) → List UInt8 → List (Option Char)
  | none, [] => []
  | some _, [] => [none]
  | none, b :: bs =>
    match lead b.toNat with
    | .single c => some c :: scan none bs
    | .opening p => scan (some p) bs
    | .invalid => none :: scan none bs
  | some p, b :: bs =>
    if p.least ≤ b.toNat ∧ b.toNat ≤ p.greatest then
      let bits := p.bits * 0x40 + b.toNat % 0x40
      if p.owed ≤ 1 then some (Char.ofNat bits) :: scan none bs
      else scan (some ⟨p.owed - 1, 0x80, 0xBF, bits⟩) bs
    else
      none ::
        match lead b.toNat with
        | .single c => some c :: scan none bs
        | .opening q => scan (some q) bs
        | .invalid => none :: scan none bs

/-- The text of any bytes, with U+FFFD for each stretch that is not well formed. -/
def repair (bytes : List UInt8) : String :=
  String.ofList ((scan none bytes).map fun c => c.getD replacement)

/-- The text of well formed bytes. -/
def decode? (bytes : List UInt8) : Option String :=
  ((scan none bytes).mapM id).map String.ofList

/-- The bytes of a character. -/
def encodeChar (c : Char) : List UInt8 :=
  let n := c.toNat
  if n < 0x80 then [n.toUInt8]
  else if n < 0x800 then [(0xC0 + n / 0x40).toUInt8, (0x80 + n % 0x40).toUInt8]
  else if n < 0x10000 then
    [(0xE0 + n / 0x1000).toUInt8, (0x80 + n / 0x40 % 0x40).toUInt8, (0x80 + n % 0x40).toUInt8]
  else
    [(0xF0 + n / 0x40000).toUInt8, (0x80 + n / 0x1000 % 0x40).toUInt8,
      (0x80 + n / 0x40 % 0x40).toUInt8, (0x80 + n % 0x40).toUInt8]

/-- The bytes of a text. -/
def encode (s : String) : List UInt8 :=
  s.toList.flatMap encodeChar

end TypedMarkup.Text.Utf8
