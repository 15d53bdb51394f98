import TypedMarkup.Proofs.Store.Moves

/-!
# Runs of the store

A run starts from the empty store and performs operations in any order, on any of the nodes there
are, whether they succeed or fail (`Reached`). Main statements:

* `links_of_reached`: in every store that a run reaches, parents own children, the two directions
  of the links agree, and no node is listed twice, but for nodes that were to go in front of
  themselves: only those may point to a parent that does not list them;
* `failed_move_keeps_links_iff`: a failed move of one node leaves all links as they were exactly
  when the node was not a child that was to go in front of itself.
-/

namespace TypedMarkup.Store

/-- An operation on the store. -/
inductive Operation where
  | create (body : Body)
  | setAttributes (n : NodeId) (pairs : List (String × Value))
  | removeAttribute (n : NodeId) (name : String)
  | append (p c : NodeId)
  | insertBefore (p c : NodeId) (reference : Option NodeId)
  | remove (p c : NodeId)
  | addContent (p : NodeId) (content : List (Option NodeId))

namespace Operation

/-- The nodes that an operation names. -/
def nodes : Operation → List NodeId
  | create _ => []
  | setAttributes n _ | removeAttribute n _ => [n]
  | append p c | remove p c => [p, c]
  | insertBefore p c reference => p :: c :: reference.toList
  | addContent p content => p :: content.filterMap id

/-- Performs an operation; only elements have attributes. -/
def run (s : Store) : Operation → Outcome
  | create body => ⟨(s.create body).2, none⟩
  | setAttributes n pairs =>
    if s.isElement n then ⟨s.setAttributes n pairs, none⟩ else ⟨s, some .noSuchMember⟩
  | removeAttribute n name =>
    if s.isElement n then ⟨(s.removeAttribute n name).2, none⟩ else ⟨s, some .noSuchMember⟩
  | append p c => s.appendChild p c
  | insertBefore p c reference => s.insertBefore p c reference
  | remove p c => s.removeChild p c
  | addContent p content => s.addContent p content

/-- Whether the operation moves one node. -/
def movesOne : Operation → Bool
  | append .. | insertBefore .. | remove .. => true
  | create _ | setAttributes .. | removeAttribute .. | addContent .. => false

end Operation

/-- The operations of a run with the faults they ended in, in order. -/
abbrev History := List (Operation × Option Fault)

/-- A run with this history leads from the empty store to `s`. -/
inductive Reached : History → Store → Prop where
  | start : Reached [] empty
  | step {h : History} {s : Store} (op : Operation) : Reached h s → (∀ n ∈ op.nodes, n < s.size) →
      Reached (h ++ [(op, (op.run s).fault)]) (op.run s).store

variable {s t u : Store}

/-! ## Operations that leave no node behind -/

/-- `t` is sound, has the nodes of `s`, and its strays are strays of `s`. -/
structure NoNewStray (s t : Store) : Prop where
  sound : Sound t
  size : t.size = s.size
  stray : ∀ {x p : NodeId}, Stray t x p → Stray s x p

theorem NoNewStray.refl (hs : Sound s) : NoNewStray s s :=
  ⟨hs, rfl, id⟩

theorem NoNewStray.trans (h : NoNewStray s t) (k : NoNewStray t u) : NoNewStray s u :=
  ⟨k.sound, k.size.trans h.size, fun hx => h.stray (k.stray hx)⟩

theorem NoNewStray.of_sameLinks (hs : Sound s) (h : SameLinks s t) : NoNewStray s t :=
  ⟨hs.of_sameLinks h, h.size, h.stray_iff.mp⟩

theorem Placed.noNewStray {c p : NodeId} {l : List NodeId} (h : Placed c p l s t)
    (hl : l.Perm (c :: (s.children p).erase c)) (hs : Sound s) (hp : s.isContainer p = true) :
    NoNewStray s t :=
  ⟨h.sound hl hs hp, h.size, h.stray hl⟩

theorem Removed.noNewStray {c : NodeId} (h : Removed c s t) (hs : Sound s) : NoNewStray s t :=
  ⟨h.sound hs, h.size, h.stray⟩

theorem appendChild_noNewStray (hs : Sound s) (p : NodeId) {c : NodeId} (hc : c < s.size) :
    NoNewStray s (s.appendChild p c).store := by
  rcases appendChild_cases hs p hc with ⟨f, hf⟩ | ⟨t, ht, hp, hpl⟩
  · rw [hf]; exact .refl hs
  · rw [ht]; exact hpl.noNewStray (List.perm_append_singleton ..) hs hp

theorem Sound.appendChild (hs : Sound s) (p : NodeId) {c : NodeId} (hc : c < s.size) :
    Sound (s.appendChild p c).store :=
  (appendChild_noNewStray hs p hc).sound

/-- By induction on the nodes to add: each is appended to what the one before has left. -/
theorem appendAll_noNewStray (hs : Sound s) (p : NodeId) {content : List (Option NodeId)}
    (hc : ∀ c, some c ∈ content → c < s.size) : NoNewStray s (s.appendAll p content).store := by
  induction content generalizing s with
  | nil => exact .refl hs
  | cons c content ih =>
    cases c with
    | none => exact ih hs fun c h => hc c (List.mem_cons_of_mem _ h)
    | some c =>
      have h := appendChild_noNewStray hs p (hc c List.mem_cons_self)
      unfold appendAll
      cases ho : s.appendChild p c with
      | mk t f =>
        rw [ho] at h
        cases f with
        | some f => exact h
        | none =>
          exact h.trans (ih h.sound fun c hm => h.size ▸ hc c (List.mem_cons_of_mem _ hm))

theorem addContent_noNewStray (hs : Sound s) (p : NodeId) {content : List (Option NodeId)}
    (hc : ∀ c, some c ∈ content → c < s.size) : NoNewStray s (s.addContent p content).store := by
  unfold addContent
  split
  · exact .refl hs
  · exact appendAll_noNewStray hs p hc

/-! ## What one operation preserves -/

/-- An operation keeps the links sound, and a node becomes a stray only by going in front of
itself. -/
theorem Operation.run_links (hs : Sound s) (op : Operation) (hn : ∀ n ∈ op.nodes, n < s.size) :
    Sound (op.run s).store ∧ ∀ x p, Stray (op.run s).store x p → Stray s x p ∨
      op = .insertBefore p x (some x) ∧ ∃ d, (op.run s).fault = some (.notInList d) := by
  have keep {t : Store} {f : Option Fault} (h : NoNewStray s t) :
      Sound t ∧ ∀ x p, Stray t x p → Stray s x p ∨
        op = .insertBefore p x (some x) ∧ ∃ d, f = some (.notInList d) :=
    ⟨h.sound, fun _ _ hx => .inl (h.stray hx)⟩
  cases op with
  | create body =>
    simp only [run, Stray, parent?_create, children_create]
    exact ⟨hs.create body, fun x p hx => .inl hx⟩
  | setAttributes n pairs =>
    by_cases he : s.isElement n = true <;> simp only [run, he, if_true, Bool.false_eq_true, if_false]
    · exact keep (.of_sameLinks hs (sameLinks_setAttributes s n pairs))
    · exact keep (.refl hs)
  | removeAttribute n name =>
    by_cases he : s.isElement n = true <;> simp only [run, he, if_true, Bool.false_eq_true, if_false]
    · exact keep (.of_sameLinks hs (sameLinks_removeAttribute s n name))
    · exact keep (.refl hs)
  | append p c => exact keep (appendChild_noNewStray hs p (hn c (by simp [nodes])))
  | insertBefore p c r =>
    rcases insertBefore_cases hs p (hn c (by simp [nodes])) r with
      ⟨f, hf, -⟩ | ⟨t, l, ht, hp, hl, hpl⟩ | ⟨rfl, hm, t, ht, hlost⟩
    · simp only [run, hf]; exact keep (.refl hs)
    · simp only [run, ht]; exact keep (hpl.noNewStray hl hs hp)
    · simp only [run, ht]
      refine ⟨hlost.sound hs, fun x q hx => ?_⟩
      rcases hlost.stray hx with hold | ⟨e, hq⟩
      · exact .inl hold
      · rw [hs.parent? hm, Option.some.injEq] at hq
        exact .inr ⟨by rw [e, hq], _, rfl⟩
  | remove p c =>
    rcases removeChild_cases hs p c with ⟨f, hf⟩ | ⟨t, ht, hr⟩
    · simp only [run, hf]; exact keep (.refl hs)
    · simp only [run, ht]; exact keep (hr.noNewStray hs)
  | addContent p content =>
    exact keep (addContent_noNewStray hs p fun c hc => hn c (by simp [nodes, hc]))

/-- A move of one node fails and changes nothing, or succeeds, or loses a child that is to go in
front of itself. -/
theorem Operation.run_move_cases (hs : Sound s) (op : Operation) (one : op.movesOne = true)
    (hn : ∀ n ∈ op.nodes, n < s.size) :
    (∃ f, op.run s = ⟨s, some f⟩ ∧ ∀ p x, op = .insertBefore p x (some x) → x ∉ s.children p) ∨
      (op.run s).fault = none ∨
      ∃ p x, op = .insertBefore p x (some x) ∧ x ∈ s.children p ∧
        ∃ t, op.run s = ⟨t, some (.notInList (s.describe x))⟩ ∧ Lost x s t := by
  cases op with
  | create | setAttributes | removeAttribute | addContent => simp [movesOne] at one
  | append p c =>
    rcases appendChild_cases hs p (hn c (by simp [nodes])) with ⟨f, hf⟩ | ⟨t, ht, -⟩
    · exact .inl ⟨f, hf, by simp⟩
    · exact .inr (.inl (congrArg Outcome.fault ht))
  | insertBefore p c r =>
    rcases insertBefore_cases hs p (hn c (by simp [nodes])) r with
      ⟨f, hf, hself⟩ | ⟨t, l, ht, -⟩ | ⟨rfl, hm, hlost⟩
    · refine .inl ⟨f, hf, fun q x e => ?_⟩
      obtain ⟨rfl, rfl, e⟩ := insertBefore.inj e
      exact hself e
    · exact .inr (.inl (congrArg Outcome.fault ht))
    · exact .inr (.inr ⟨p, c, rfl, hm, hlost⟩)
  | remove p c =>
    rcases removeChild_cases hs p c with ⟨f, hf⟩ | ⟨t, ht, -⟩
    · exact .inl ⟨f, hf, by simp⟩
    · exact .inr (.inl (congrArg Outcome.fault ht))

/-- The state of a run: its links are sound, and it has a stray only where an operation that put the
node in front of itself has failed. -/
theorem Reached.links {h : History} (run : Reached h s) :
    Sound s ∧ ∀ x p, Stray s x p →
      ∃ d, (Operation.insertBefore p x (some x), some (Fault.notInList d)) ∈ h := by
  induction run with
  | start => exact ⟨sound_empty, fun x p hx => by simp [Stray, parent?, empty] at hx⟩
  | @step h s op _ hn ih =>
    obtain ⟨hs, hx⟩ := op.run_links ih.1 hn
    refine ⟨hs, fun x p hxp => ?_⟩
    rcases hx x p hxp with hold | ⟨rfl, d, hd⟩
    · exact (ih.2 x p hold).imp fun d hd => List.mem_append_left _ hd
    · exact ⟨d, List.mem_append_right _ (by simp [hd])⟩

/-! ## Main statements -/

/-- In every store that a run reaches: a node points to no parent or to one that owns children; a
listed node points to the node that lists it; no node is listed twice, in one list or in two; and a
node that its parent does not list was to go in front of itself earlier in the run, which failed. -/
theorem links_of_reached {h : History} (run : Reached h s) :
    (∀ x p, s.parent? x = some p → s.isContainer p = true) ∧
    (∀ p x, x ∈ s.children p → s.isContainer p = true ∧ s.parent? x = some p) ∧
    (∀ p, (s.children p).Nodup) ∧
    (∀ p q x, x ∈ s.children p → x ∈ s.children q → p = q) ∧
    (∀ x p, s.parent? x = some p → x ∉ s.children p →
      ∃ d, (Operation.insertBefore p x (some x), some (Fault.notInList d)) ∈ h) := by
  obtain ⟨hs, hx⟩ := run.links
  refine ⟨fun x p hp => hs.isContainer hp, fun p x hm => ?_, hs.nodup, fun p q x hp hq => ?_,
    fun x p hp hm => hx x p ⟨hp, hm⟩⟩
  · exact ⟨hs.isContainer (hs.parent? hm), hs.parent? hm⟩
  · exact Option.some.inj ((hs.parent? hp).symm.trans (hs.parent? hq))

/-- A text is put into a container, the container into itself, and the text in front of itself. -/
def twisting : List Operation :=
  [.create (.element (.standard .blockContainer) "div" []), .create (.text "x"), .append 0 1,
    .append 0 0, .insertBefore 0 1 (some 1)]

/-- The store that `twisting` leaves. -/
def twisted : Store :=
  twisting.foldl (fun s op => (op.run s).store) empty

theorem reached_twisted : ∃ h, Reached h twisted :=
  ⟨_, ((((Reached.start.step (.create _) (by decide)).step (.create _) (by decide)).step
    (.append 0 1) (by decide)).step (.append 0 0) (by decide)).step (.insertBefore 0 1 (some 1))
      (by decide)⟩

theorem links_of_reached_twisted :
    ∃ h, Reached h twisted ∧ twisted.parent? 1 = some 0 ∧ 1 ∉ twisted.children 0 ∧
      ∃ d, (Operation.insertBefore 0 1 (some 1), some (Fault.notInList d)) ∈ h := by
  obtain ⟨h, run⟩ := reached_twisted
  have stray : twisted.parent? 1 = some 0 ∧ 1 ∉ twisted.children 0 := by decide
  exact ⟨h, run, stray.1, stray.2, (links_of_reached run).2.2.2.2 1 0 stray.1 stray.2⟩

/-- A move of one node that fails keeps every parent and every list of children exactly when the node
was not a child that was to go in front of itself. Such a child leaves the list of its parent, but
still points to it, and no other link changes. -/
theorem failed_move_keeps_links_iff {h : History} (run : Reached h s) {op : Operation}
    (one : op.movesOne = true) (there : ∀ n ∈ op.nodes, n < s.size) {f : Fault}
    (fails : (op.run s).fault = some f) :
    (((∀ n, (op.run s).store.parent? n = s.parent? n) ∧
        ∀ n, (op.run s).store.children n = s.children n) ↔
      ∀ p x, op = .insertBefore p x (some x) → x ∉ s.children p) ∧
    ∀ p x, op = .insertBefore p x (some x) → x ∈ s.children p →
      f = .notInList (s.describe x) ∧ (∀ n, (op.run s).store.parent? n = s.parent? n) ∧
      ∀ n, (op.run s).store.children n = (s.children n).erase x := by
  have hs := run.links.1
  rcases op.run_move_cases hs one there with ⟨g, hg, hself⟩ | hok | ⟨p, x, rfl, hm, t, ht, hlost⟩
  · -- nothing has changed, and the node was no child in front of itself
    rw [hg]
    exact ⟨⟨fun _ => hself, fun _ => ⟨fun _ => rfl, fun _ => rfl⟩⟩,
      fun p x e hm => absurd hm (hself p x e)⟩
  · simp [hok] at fails
  · have hf : f = .notInList (s.describe x) := by
      rw [ht] at fails
      exact (Option.some.inj fails).symm
    rw [ht]
    refine ⟨⟨fun same => ?_, fun hself => absurd hm (hself p x rfl)⟩, fun q y e _ => ?_⟩
    · -- the list has lost the node, so it cannot be the same
      refine absurd hm ?_
      rw [← same.2 p, hlost.children]
      exact (hs.nodup p).not_mem_erase
    · obtain ⟨-, rfl, -⟩ := Operation.insertBefore.inj e
      exact ⟨hf, hlost.parent?, hlost.children⟩

/-- A text in a container that is to go in front of itself is lost. -/
theorem failed_move_keeps_links_iff_self :
    ∃ h s f, Reached h s ∧ ((Operation.insertBefore 0 1 (some 1)).run s).fault = some f ∧
      s.children 0 = [1] ∧ ((Operation.insertBefore 0 1 (some 1)).run s).store.children 0 = [] ∧
      ¬ ((∀ n, ((Operation.insertBefore 0 1 (some 1)).run s).store.parent? n = s.parent? n) ∧
        ∀ n, ((Operation.insertBefore 0 1 (some 1)).run s).store.children n = s.children n) := by
  have run := ((Reached.start.step (.create (.element (.standard .blockContainer) "div" []))
    (by decide)).step (.create (.text "x")) (by decide)).step (.append 0 1) (by decide)
  let op := Operation.insertBefore 0 1 (some 1)
  have condition := (failed_move_keeps_links_iff run (show op.movesOne = true from rfl)
    (by decide) rfl).1
  exact ⟨_, _, _, run, rfl, rfl, rfl, fun same => condition.mp same 0 1 rfl (by decide)⟩

end TypedMarkup.Store
