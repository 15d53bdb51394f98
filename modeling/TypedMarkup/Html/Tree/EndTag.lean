import TypedMarkup.Html.Tree.Text

/-!
# End tags in a tree

What an end tag closes. In a body it closes the innermost open element of its name together with
what is open inside, within the bounds of a scope; in a table it goes by the parts of the table.
`readEndTag` chooses by the mode.
-/

namespace TypedMarkup.Html.Builder

/-! ## In a body -/

/-- Closes the open paragraph. -/
def closeParagraph (b : Builder) : Builder :=
  (b.closeImplied (some "p")).popThroughName "p"

/-- Closes a paragraph if one is open. -/
def closeParagraphIfOpen (b : Builder) : Builder :=
  if b.inScope "p" .button then b.closeParagraph else b

/-- Ends a paragraph; where none is open, an empty one is added. -/
def endParagraph (b : Builder) : Builder :=
  if b.inScope "p" .button then b.closeParagraph else (b.openName "p").closeParagraph

/-- Ends an element of no special kind. A special element in between keeps it open. -/
def endOrdinary (b : Builder) (name : String) : Builder :=
  match b.opened.find? fun n => b.name n == name || isSpecial (b.space n) (b.name n) with
  | some n =>
    if b.name n == name then (b.closeImplied (some name)).popThrough (· == n) else b
  | none => b

/-- Ends an element together with all that is open in it. -/
def endBlock (b : Builder) (name : String) : Builder :=
  if b.inScope name .general then (b.closeImplied none).popThroughName name else b

/-- Ends an item of a list. -/
def endItem (b : Builder) (name : String) : Builder :=
  if b.inScope name (if name = "li" then .list else .general) then
    (b.closeImplied (some name)).popThroughName name
  else b

/-- Ends a heading, of whatever level the open one is. -/
def endHeading (b : Builder) : Builder :=
  if Vocabulary.headings.any fun name => b.inScope name .general then
    (b.closeImplied none).popThrough fun n => Vocabulary.headings.contains (b.name n)
  else b

/-- Ends an element that holds a document or plug-in of its own. -/
def endContainer (b : Builder) (name : String) : Builder :=
  if b.inScope name .general then ((b.closeImplied none).popThroughName name).clearToMark else b

/-- Ends a form. What is open in it stays open. -/
def endForm (b : Builder) : Builder :=
  let form := b.form
  let b := { b with form := none }
  match form with
  | none => b
  | some n => if b.inScopeWhere .general (· == n) then (b.closeImplied none).unopen n else b

/-- The outermost special element that is open inside a formatting element. -/
def blockInside? (b : Builder) (n : Nat) : Option Nat :=
  (b.opened.takeWhile (· != n)).reverse.find? fun m => isSpecial (b.space m) (b.name m)

/-- Ends a formatting element, in at most this many rounds of rearranging the tree. -/
def endFormattingWithin (name : String) : (rounds : Nat) → Builder → Builder
  | 0, b => b
  | rounds + 1, b =>
    match b.formatting? name with
    | none => b.endOrdinary name
    | some n =>
      if !b.opened.contains n then b.unformat n
      else if !b.inScope name .general then b.endOrdinary name
      else
        match b.blockInside? n with
        | none => (b.popThrough (· == n)).unformat n
        | some block => endFormattingWithin name rounds (b.rearrange n block)

/-- Ends a formatting element. -/
def endFormatting (b : Builder) (name : String) : Builder :=
  endFormattingWithin name 8 b

/-- Reads an end tag in a body. -/
def endInBody (b : Builder) (name : String) : Step :=
  if name = "body" then
    (if b.inScope "body" .general then b.setMode .afterBody else b).done
  else if name = "html" then
    if b.inScope "body" .general then (b.setMode .afterBody).retry else b.done
  else if name = "p" then b.endParagraph.done
  else if name = "pre" then { b with dropsLineFeed := false }.endBlock name |>.done
  else if name = "form" then b.endForm.done
  else if name = "br" then (b.reopen.addEmpty (Tag.named "br")).done
  else if Vocabulary.closedBlocks.contains name then (b.endBlock name).done
  else if ["dd", "dt", "li"].contains name then (b.endItem name).done
  else if Vocabulary.headings.contains name then b.endHeading.done
  else if Vocabulary.formatting.contains name || name = "a" || name = "nobr" then
    (b.endFormatting name).done
  else if Vocabulary.containers.contains name then (b.endContainer name).done
  else (b.endOrdinary name).done

/-! ## In a table -/

/-- Ends a table. -/
def endTable (b : Builder) : Builder :=
  if b.inScope "table" .table then ((b.closeImplied none).popThroughName "table").resetMode else b

/-- Whether an end tag counts for nothing between the parts of a table. -/
def isIdleInTable (name : String) : Bool :=
  name = "body" || name = "html" || Vocabulary.tableParts.contains name

/-- Reads an end tag between the parts of a table. -/
def endInTable (b : Builder) (name : String) : Step :=
  if name = "table" then b.endTable.done
  else if isIdleInTable name then b.done
  else (b.whileFostering fun b => (b.endInBody name).builder).done

/-- Closes the open caption. -/
def closeCaption (b : Builder) : Builder :=
  if b.inScope "caption" .table then
    ((b.closeImplied none).popThroughName "caption").clearToMark.setMode .inTable
  else b

/-- Closes the open caption and reads the token again, unless no caption is open. -/
def leaveCaption (b : Builder) : Step :=
  if b.inScope "caption" .table then b.closeCaption.retry else b.done

/-- Reads an end tag in a caption. -/
def endInCaption (b : Builder) (name : String) : Step :=
  if name = "caption" then b.closeCaption.done
  else if name = "table" then b.leaveCaption
  else if isIdleInTable name then b.done
  else b.endInBody name

/-- Reads an end tag in a group of columns. -/
def endInColumnGroup (b : Builder) (name : String) : Step :=
  if name = "col" then b.done
  else if name = "colgroup" then b.closeColumnGroup.builder.done
  else b.closeColumnGroup

/-- Closes what is open in a group of rows. -/
def clearToRowGroup (b : Builder) : Builder :=
  b.popTo (Vocabulary.rowGroups ++ ["html"])

/-- Closes a group of rows. -/
def closeRowGroup (b : Builder) : Builder :=
  b.clearToRowGroup.pop.setMode .inTable

/-- Closes the open group of rows and reads the token again, unless none is open. -/
def leaveRowGroup (b : Builder) : Step :=
  if Vocabulary.rowGroups.any fun name => b.inScope name .table then b.closeRowGroup.retry
  else b.done

/-- Reads an end tag in a group of rows. -/
def endInTableBody (b : Builder) (name : String) : Step :=
  if Vocabulary.rowGroups.contains name then
    (if b.inScope name .table then b.closeRowGroup else b).done
  else if name = "table" then b.leaveRowGroup
  else if isIdleInTable name then b.done
  else b.endInTable name

/-- Closes what is open in a row. -/
def clearToRow (b : Builder) : Builder :=
  b.popTo ["tr", "html"]

/-- Closes the open row. -/
def closeRow (b : Builder) : Builder :=
  if b.inScope "tr" .table then b.clearToRow.pop.setMode .inTableBody else b

/-- Closes the open row and reads the token again, unless no row is open. -/
def leaveRow (b : Builder) : Step :=
  if b.inScope "tr" .table then b.closeRow.retry else b.done

/-- Reads an end tag in a row. -/
def endInRow (b : Builder) (name : String) : Step :=
  if name = "tr" then b.closeRow.done
  else if name = "table" then b.leaveRow
  else if Vocabulary.rowGroups.contains name then
    if b.inScope name .table then b.closeRow.retry else b.done
  else if isIdleInTable name then b.done
  else b.endInTable name

/-- Ends a cell of this name. -/
def endCell (b : Builder) (name : String) : Builder :=
  if b.inScope name .table then
    ((b.closeImplied (some name)).popThroughName name).clearToMark.setMode .inRow
  else b

/-- Closes the open cell. -/
def closeCell (b : Builder) : Builder :=
  if b.inScope "td" .table then b.endCell "td" else b.endCell "th"

/-- Reads an end tag in a cell. -/
def endInCell (b : Builder) (name : String) : Step :=
  if Vocabulary.cells.contains name then (b.endCell name).done
  else if ["body", "caption", "col", "colgroup", "html"].contains name then b.done
  else if Vocabulary.tableContexts.contains name then
    if b.inScope name .table then b.closeCell.retry else b.done
  else b.endInBody name

/-! ## In a selection -/

/-- Ends a selection. -/
def endSelect (b : Builder) : Builder :=
  if b.inScope "select" .select then (b.popThroughName "select").resetMode else b

/-- Reads an end tag in a selection. -/
def endInSelect (b : Builder) (name : String) : Step :=
  match name with
  | "option" => (if b.currentName = "option" then b.pop else b).done
  | "optgroup" =>
    let outer := (b.opened[1]?.map b.name).getD ""
    let b := if b.currentName = "option" && outer = "optgroup" then b.pop else b
    (if b.currentName = "optgroup" then b.pop else b).done
  | "select" => b.endSelect.done
  | _ => b.done

/-- The parts of a table that end a selection in it. -/
def endsSelect (name : String) : Bool :=
  Vocabulary.tableContexts.contains name || Vocabulary.cells.contains name || name = "caption"

/-- Reads an end tag in a selection in a table. -/
def endInSelectInTable (b : Builder) (name : String) : Step :=
  if endsSelect name then
    if b.inScope name .table then b.endSelect.retry else b.done
  else b.endInSelect name

/-! ## In all modes -/

/-- The end tags that call for the parts of a document which may be left out. -/
def callsForParts (name : String) : Bool :=
  ["head", "body", "html", "br"].contains name

/-- Reads an end tag in a frameset. -/
def endInFrameset (b : Builder) (name : String) : Step :=
  if name = "frameset" then
    let b := if b.currentName = "html" then b else b.pop
    (if b.currentName = "frameset" then b else b.setMode .afterFrameset).done
  else b.done

/-- Reads an end tag. -/
def readEndTag (b : Builder) (name : String) : Step :=
  match b.mode with
  | .initial => b.leaveInitial.retry
  | .beforeHtml => if callsForParts name then b.openRoot.retry else b.done
  | .beforeHead => if callsForParts name then (b.openHead (Tag.named "head")).retry else b.done
  | .inHead =>
    if name = "head" then b.closeHead.done
    else if callsForParts name then b.closeHead.retry
    else b.done
  | .inHeadNoscript =>
    if name = "noscript" then b.closeNoscript.done
    else if name = "br" then b.closeNoscript.retry
    else b.done
  | .afterHead =>
    if name != "head" && callsForParts name then b.openBody.retry else b.done
  | .inBody => b.endInBody name
  | .text => (b.pop.setMode b.modeAfterText).done
  | .inTable => b.endInTable name
  | .inTableText => b.flushTableText.retry
  | .inCaption => b.endInCaption name
  | .inColumnGroup => b.endInColumnGroup name
  | .inTableBody => b.endInTableBody name
  | .inRow => b.endInRow name
  | .inCell => b.endInCell name
  | .inSelect => b.endInSelect name
  | .inSelectInTable => b.endInSelectInTable name
  | .afterBody =>
    if name = "html" then (b.setMode .afterAfterBody).done else (b.setMode .inBody).retry
  | .inFrameset => b.endInFrameset name
  | .afterFrameset => if name = "html" then (b.setMode .afterAfterFrameset).done else b.done
  | .afterAfterBody => (b.setMode .inBody).retry
  | .afterAfterFrameset => b.done

end TypedMarkup.Html.Builder
