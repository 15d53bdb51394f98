import TypedMarkup.Html.Tree.Formatting

/-!
# Text in a tree

Where text, white space, comments and the document type go in each mode. Modes that stand for a
part of the document which may be left out put that part in and read the token again.
-/

namespace TypedMarkup.Html.Builder

/-! ## Parts that may be left out -/

/-- Goes on without a document type. -/
def leaveInitial (b : Builder) : Builder :=
  { b with lenient := true, mode := .beforeHtml }

/-- Opens the outermost element. -/
def openRoot (b : Builder) : Builder :=
  let (n, draft) := b.draft.create (.element .html "html" [])
  { b with draft := draft.append Draft.root n, opened := [n], mode := .beforeHead }

/-- Opens the head. -/
def openHead (b : Builder) (tag : Tag) : Builder :=
  let b := b.openTag tag
  { b with head := some b.current, mode := .inHead }

/-- Closes the head. -/
def closeHead (b : Builder) : Builder :=
  b.pop.setMode .afterHead

/-- Closes an element of the head that holds what is shown without scripts. -/
def closeNoscript (b : Builder) : Builder :=
  b.pop.setMode .inHead

/-- Opens a body that no tag stands for. -/
def openBody (b : Builder) : Builder :=
  { b.openName "body" with mode := .inBody, framesetAllowed := true }

/-- Closes a group of columns, unless none is open. -/
def closeColumnGroup (b : Builder) : Step :=
  if b.currentName = "html" then b.done else (b.pop.setMode .inTable).retry

/-! ## Text -/

/-- Whether a text has more than white space in it. -/
def isInked (data : String) : Bool :=
  data.toList.any fun c => !isSpace c

/-- Adds text to a body. A null alone is left out. -/
def addBodyText (b : Builder) (data : String) : Builder :=
  if data = "\x00" then b
  else
    let b := b.reopen.addText data
    { b with framesetAllowed := b.framesetAllowed && !isInked data }

/-- Adds white space to a body, without a line feed at the start where that is dropped. -/
def addBodySpaces (b : Builder) (data : String) : Builder :=
  let drops := b.dropsLineFeed && ["pre", "listing", "textarea"].contains b.currentName &&
    (b.draft.children b.current).isEmpty
  let data :=
    match drops, data.toList with
    | true, '\n' :: rest => String.ofList rest
    | _, _ => data
  if b.dropsLineFeed && data.isEmpty then { b with dropsLineFeed := false }
  else { b with dropsLineFeed := false }.reopen.addText data

/-- Puts the text that waits between the parts of a table in its place: white space stays in the
table, other text goes in front of it. -/
def flushTableText (b : Builder) : Builder :=
  let data := b.tableText
  let b := { b with tableText := "", mode := b.modeAfterTableText }
  if isInked data then b.whileFostering fun b => b.addBodyText data
  else if data.isEmpty then b
  else b.addText data

/-- Begins to gather text between the parts of a table. -/
def gatherTableText (b : Builder) (data : String) : Builder :=
  { b with mode := .inTableText, modeAfterTableText := b.mode, tableText := data }

/-- The text without a null that stands alone. -/
def withoutNull (data : String) : String :=
  if data = "\x00" then "" else data

/-- Reads text. -/
def readText (b : Builder) (data : String) : Step :=
  match b.mode with
  | .initial => b.leaveInitial.retry
  | .beforeHtml => b.openRoot.retry
  | .beforeHead => (b.openHead (Tag.named "head")).retry
  | .inHead => b.closeHead.retry
  | .inHeadNoscript => b.closeNoscript.retry
  | .afterHead => b.openBody.retry
  | .inBody | .inCaption | .inCell => (b.addBodyText data).done
  | .text => (b.addText data).done
  | .inTable | .inTableBody | .inRow => (b.gatherTableText (withoutNull data)).done
  | .inTableText => { b with tableText := b.tableText ++ withoutNull data }.done
  | .inColumnGroup => b.closeColumnGroup
  | .inSelect | .inSelectInTable =>
    if data = "\x00" then b.done else (b.addText data).done
  | .afterBody | .afterAfterBody => (b.setMode .inBody).retry
  | .inFrameset | .afterFrameset | .afterAfterFrameset => b.done

/-- Reads white space. -/
def readSpaces (b : Builder) (data : String) : Step :=
  match b.mode with
  | .initial | .beforeHtml | .beforeHead => b.done
  | .inBody | .afterAfterBody | .afterAfterFrameset => (b.addBodySpaces data).done
  | .inTable | .inTableBody | .inRow => (b.gatherTableText data).done
  | .inTableText => { b with tableText := b.tableText ++ data }.done
  | _ => (b.addText data).done

/-! ## Comments and document types -/

/-- Reads a comment. -/
def readComment (b : Builder) (data : String) : Step :=
  match b.mode with
  | .initial | .beforeHtml | .afterAfterBody | .afterAfterFrameset =>
    (b.addComment Draft.root data).done
  | .afterBody => (b.addComment b.outermost data).done
  | .inTableText => b.flushTableText.retry
  | _ => (b.addComment b.current data).done

/-- What public identifiers say of the versions of markup that let a table stand in a
paragraph. -/
def lenientVersions : List String := [
  "dtd html", "dtd html 2.0", "dtd html 2.0 level 1", "dtd html 2.0 level 2",
  "dtd html 2.0 strict", "dtd html 2.0 strict level 1", "dtd html 2.0 strict level 2",
  "dtd html 2.1e", "dtd html 3", "dtd html 3 1995-03-24", "dtd html 3.0", "dtd html 3.2",
  "dtd html 3.2 draft", "dtd html 3.2 final", "dtd html 3.2s draft", "dtd html 4.0 frameset",
  "dtd html 4.0 transitional", "dtd html experimental 19960712", "dtd html experimental 970421",
  "dtd html level 0", "dtd html level 1", "dtd html level 2", "dtd html level 3",
  "dtd html strict", "dtd html strict level 0", "dtd html strict level 1",
  "dtd html strict level 2", "dtd html strict level 3", "dtd w3 html", "dtd w3 html 3.0",
  "dtd w3 html strict 3.0"]

/-- The versions of the same kind when there is no system identifier. -/
def bareLenientVersions : List String := ["dtd html 4.01 frameset", "dtd html 4.01 transitional"]

/-- What a public identifier says of the version of markup, in small letters: the part behind the
owner's name. -/
def version? (publicId : String) : Option String :=
  match publicId.splitOn "//" with
  | _ :: _ :: version :: _ :: _ => some (String.ofList (version.toList.map Char.toLower))
  | _ => none

/-- Whether a document type lets a table stand in a paragraph. -/
def isLenient (d : Doctype) : Bool :=
  !d.correct || d.name != "html" ||
    (match d.publicId.bind version? with
      | some version =>
        lenientVersions.contains version ||
          (bareLenientVersions.contains version && d.systemId.isNone)
      | none => false)

/-- The text that a document type is kept as. -/
def doctypeText (d : Doctype) : String :=
  match d.publicId, d.systemId with
  | some p, some s => d.name ++ " PUBLIC \"" ++ p ++ "\" \"" ++ s ++ "\""
  | some p, none => d.name ++ " PUBLIC \"" ++ p ++ "\""
  | none, some s => d.name ++ " SYSTEM \"" ++ s ++ "\""
  | none, none => d.name

/-- Reads a document type. It counts at the start of a document only. -/
def readDoctype (b : Builder) (d : Doctype) : Step :=
  match b.mode with
  | .initial =>
    let b := b.addString Draft.root .doctype (doctypeText d)
    { b with lenient := isLenient d, mode := .beforeHtml }.done
  | _ => b.done

end TypedMarkup.Html.Builder
