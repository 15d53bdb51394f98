import TypedMarkup.Html.Tree.EndTag

/-!
# Start tags in a tree

What a start tag opens, and what it closes before that: in a body the elements whose end tag may be
left out, in a table the parts that cannot hold the new one. A start tag between the parts of a
table brings in those that are missing. `readStartTag` chooses by the mode.
-/

namespace TypedMarkup.Html.Builder

/-- Reads another start tag of the outermost element. -/
def startRoot (b : Builder) (tag : Tag) : Builder :=
  b.mergeAttributes b.outermost tag

/-! ## In the head -/

/-- Opens an element whose characters are no markup at all. -/
def openRaw (b : Builder) (tag : Tag) : Builder :=
  b.openText tag (.raw tag.name)

/-- Reads a start tag in the head. -/
def startInHead (b : Builder) (tag : Tag) : Step :=
  match tag.name with
  | "html" => (b.startRoot tag).done
  | "title" => (b.openText tag (.references tag.name)).done
  | "noframes" | "style" => (b.openRaw tag).done
  | "noscript" => ((b.openTag tag).setMode .inHeadNoscript).done
  | "script" => (b.openText tag .script).done
  | "base" | "basefont" | "bgsound" | "command" | "link" | "meta" => (b.addEmpty tag).done
  | "head" => b.done
  | _ => b.closeHead.retry

/-- Reads a start tag in an element of the head that holds what is shown without scripts. -/
def startInHeadNoscript (b : Builder) (tag : Tag) : Step :=
  match tag.name with
  | "html" => (b.startRoot tag).done
  | "basefont" | "bgsound" | "link" | "meta" | "noframes" | "style" => b.startInHead tag
  | "head" | "noscript" => b.done
  | _ => b.closeNoscript.retry

/-- Closes the innermost head, wherever it stands among the open elements. -/
def unopenHead (b : Builder) : Builder :=
  match b.opened.find? fun n => b.name n == "head" with
  | some n => b.unopen n
  | none => b

/-- Adds an element to the head that is closed already. -/
def startLateMetadata (b : Builder) (tag : Tag) : Builder :=
  let b := { b with opened := b.head.toList ++ b.opened }
  (b.startInHead tag).builder.unopenHead

/-- Reads a start tag between the head and the body. -/
def startAfterHead (b : Builder) (tag : Tag) : Step :=
  if tag.name = "html" then (b.startRoot tag).done
  else if tag.name = "body" then
    { b.openTag tag with framesetAllowed := false, mode := .inBody }.done
  else if tag.name = "frameset" then ((b.openTag tag).setMode .inFrameset).done
  else if Vocabulary.lateMetadata.contains tag.name then (b.startLateMetadata tag).done
  else if tag.name = "head" then b.done
  else b.openBody.retry

/-! ## In a body -/

/-- From here on no frameset takes the place of the body. -/
def refuseFrameset (b : Builder) : Builder :=
  { b with framesetAllowed := false }

/-- Reads another start tag of the body. -/
def startBody (b : Builder) (tag : Tag) : Builder :=
  match b.body? with
  | some n => b.refuseFrameset.mergeAttributes n tag
  | none => b

/-- Puts a frameset in the place of the body, if nothing speaks against it. -/
def startFrameset (b : Builder) (tag : Tag) : Builder :=
  match b.body?, b.framesetAllowed with
  | some n, true =>
    let b := { b with draft := b.draft.detach n }
    ((b.popTo ["html"]).openTag tag).setMode .inFrameset
  | _, _ => b

/-- Opens a heading; headings do not stand in each other. -/
def startHeading (b : Builder) (tag : Tag) : Builder :=
  let b := b.closeParagraphIfOpen
  let b := if Vocabulary.headings.contains b.currentName then b.pop else b
  b.openTag tag

/-- Opens an element of written text, whose first line feed is left out. -/
def startPreformatted (b : Builder) (tag : Tag) : Builder :=
  { b.closeParagraphIfOpen.openTag tag with framesetAllowed := false, dropsLineFeed := true }

/-- Opens a form, unless one is open. -/
def startForm (b : Builder) (tag : Tag) : Builder :=
  match b.form with
  | some _ => b
  | none =>
    let b := b.closeParagraphIfOpen.openTag tag
    { b with form := some b.current }

/-- The items of lists that an item of this name closes. -/
def closedItems (name : String) : List String :=
  if name = "li" then ["li"] else ["dt", "dd"]

/-- Opens an item of a list and closes the one before it. -/
def startItem (b : Builder) (tag : Tag) : Builder :=
  let b := b.refuseFrameset
  let closed := closedItems tag.name
  let bounds := fun n =>
    isSpecial (b.space n) (b.name n) && !(["address", "div", "p"].contains (b.name n))
  let b :=
    match b.opened.find? fun n => closed.contains (b.name n) || bounds n with
    | some n => if closed.contains (b.name n) then (b.readEndTag (b.name n)).builder else b
    | none => b
  let b := if b.inScope "p" .button then (b.readEndTag "p").builder else b
  b.openTag tag

/-- Opens a link; links do not stand in each other. -/
def startLink (b : Builder) (tag : Tag) : Builder :=
  let b :=
    match b.formatting? "a" with
    | some n => ((b.endFormatting "a").unopen n).unformat n
    | none => b
  b.reopen.openFormatting tag

/-- Opens an element that keeps its text in one line; these do not stand in each other. -/
def startUnbroken (b : Builder) (tag : Tag) : Builder :=
  let b := b.reopen
  let b := if b.inScope tag.name .general then (b.endFormatting tag.name).reopen else b
  b.openFormatting tag

/-- Opens a button, once the open one is closed. -/
def startButton (b : Builder) (tag : Tag) : Step :=
  if b.inScope "button" .general then (b.endBlock "button").retry
  else (b.reopen.openTag tag).refuseFrameset.done

/-- Opens a table. -/
def startTable (b : Builder) (tag : Tag) : Builder :=
  let b := if b.lenient then b else b.closeParagraphIfOpen
  (b.openTag tag).refuseFrameset.setMode .inTable

/-- Whether the tag is an input that is not shown. -/
def isHiddenInput (tag : Tag) : Bool :=
  match Entries.find? "type" tag.attributes with
  | some type => type.toList.map Char.toLower == "hidden".toList
  | none => false

/-- Adds an input. -/
def startInput (b : Builder) (tag : Tag) : Builder :=
  let allowed := b.framesetAllowed
  let b := (b.reopen.addEmpty tag).refuseFrameset
  if isHiddenInput tag then { b with framesetAllowed := allowed } else b

/-- Adds a rule. -/
def startRule (b : Builder) (tag : Tag) : Builder :=
  (b.closeParagraphIfOpen.addEmpty tag).refuseFrameset

/-- The attributes of the input in a search form. -/
def searchAttributes (attributes : Entries String) : Entries String :=
  Entries.put "name" "isindex" ((attributes.erase "action").erase "prompt")

/-- Adds a search form, as an old element for it asks for. -/
def startSearch (b : Builder) (tag : Tag) : Builder :=
  match b.form with
  | some _ => b
  | none =>
    let action := (Entries.find? "action" tag.attributes).map fun v => ("action", v)
    let b := b.startForm ⟨"form", action.toList, false⟩
    let b := (b.startRule (Tag.named "hr")).reopen.openName "label"
    let b := b.addBodyText ((Entries.find? "prompt" tag.attributes).getD
      "This is a searchable index. Enter search keywords: ")
    let b := b.startInput ⟨"input", searchAttributes tag.attributes, tag.selfClosing⟩
    ((b.endOrdinary "label").startRule (Tag.named "hr")).endForm

/-- Opens a field for text of several lines, whose first line feed is left out. -/
def startField (b : Builder) (tag : Tag) : Builder :=
  { b.openTag tag with
    content := .references tag.name, dropsLineFeed := true, framesetAllowed := false }

/-- Whether the mode stands for a part of a table. -/
def isTableMode : Mode → Bool
  | .inTable | .inCaption | .inColumnGroup | .inTableBody | .inRow | .inCell => true
  | _ => false

/-- Opens a selection. -/
def startSelect (b : Builder) (tag : Tag) : Builder :=
  (b.reopen.openTag tag).refuseFrameset.setMode
    (if isTableMode b.mode then .inSelectInTable else .inSelect)

/-- Opens an option or a group of options and closes the option before it. -/
def startOption (b : Builder) (tag : Tag) : Builder :=
  let b := if b.currentName = "option" then (b.readEndTag "option").builder else b
  b.reopen.openTag tag

/-- Opens an annotation of ruby text and closes the one before it. -/
def startRuby (b : Builder) (tag : Tag) : Builder :=
  (if b.inScope "ruby" .general then b.closeImplied none else b).openTag tag

/-- Opens the outermost element of foreign markup. -/
def startForeign (b : Builder) (space : Namespace) (tag : Tag) : Builder :=
  let b := b.reopen.openIn space tag
  if tag.selfClosing then b.pop else b

/-- Reads a start tag in a body. -/
def startInBody (b : Builder) (tag : Tag) : Step :=
  let name := tag.name
  if name = "html" then (b.startRoot tag).done
  else if Vocabulary.metadata.contains name then b.startInHead tag
  else if name = "body" then (b.startBody tag).done
  else if name = "frameset" then (b.startFrameset tag).done
  else if Vocabulary.blocks.contains name then (b.closeParagraphIfOpen.openTag tag).done
  else if Vocabulary.headings.contains name then (b.startHeading tag).done
  else if name = "pre" || name = "listing" then (b.startPreformatted tag).done
  else if name = "form" then (b.startForm tag).done
  else if ["li", "dd", "dt"].contains name then (b.startItem tag).done
  else if name = "plaintext" then
    { b.closeParagraphIfOpen.openTag tag with content := .plain }.done
  else if name = "a" then (b.startLink tag).done
  else if Vocabulary.formatting.contains name then (b.reopen.openFormatting tag).done
  else if name = "nobr" then (b.startUnbroken tag).done
  else if name = "button" then b.startButton tag
  else if Vocabulary.containers.contains name then (b.reopen.openTag tag).mark.refuseFrameset.done
  else if name = "xmp" then (b.closeParagraphIfOpen.reopen.refuseFrameset.openRaw tag).done
  else if name = "table" then (b.startTable tag).done
  else if Vocabulary.emptyInline.contains name then (b.reopen.addEmpty tag).refuseFrameset.done
  else if name = "image" then (b.reopen.addEmpty { tag with name := "img" }).refuseFrameset.done
  else if ["param", "source", "track"].contains name then (b.addEmpty tag).done
  else if name = "input" then (b.startInput tag).done
  else if name = "hr" then (b.startRule tag).done
  else if name = "isindex" then (b.startSearch tag).done
  else if name = "textarea" then (b.startField tag).done
  else if name = "iframe" then (b.refuseFrameset.openRaw tag).done
  else if name = "noembed" || name = "noframes" then (b.openRaw tag).done
  else if name = "select" then (b.startSelect tag).done
  else if name = "rp" || name = "rt" then (b.startRuby tag).done
  else if name = "option" || name = "optgroup" then (b.startOption tag).done
  else if name = "math" then (b.startForeign .math (Foreign.math tag)).done
  else if name = "svg" then (b.startForeign .svg (Foreign.drawing tag)).done
  else if Vocabulary.misplaced.contains name then b.done
  else (b.reopen.openTag tag).done

/-! ## In a table -/

/-- Closes what is open in a table. -/
def clearToTable (b : Builder) : Builder :=
  b.popTo ["table", "html"]

/-- Reads a start tag between the parts of a table that is for none of them. -/
def startBesideTable (b : Builder) (tag : Tag) : Step :=
  (b.whileFostering fun b => (b.startInBody tag).builder).done

/-- Reads a start tag between the parts of a table. -/
def startInTable (b : Builder) (tag : Tag) : Step :=
  match tag.name with
  | "html" => (b.startRoot tag).done
  | "caption" => (b.clearToTable.mark.openTag tag |>.setMode .inCaption).done
  | "colgroup" => (b.clearToTable.openTag tag |>.setMode .inColumnGroup).done
  | "col" => (b.clearToTable.openName "colgroup" |>.setMode .inColumnGroup).retry
  | "tbody" | "tfoot" | "thead" => (b.clearToTable.openTag tag |>.setMode .inTableBody).done
  | "td" | "th" | "tr" => (b.clearToTable.openName "tbody" |>.setMode .inTableBody).retry
  | "table" => (b.readEndTag "table").builder.retry
  | "style" | "script" => b.startInHead tag
  | "input" => if isHiddenInput tag then (b.addEmpty tag).done else b.startBesideTable tag
  | "form" =>
    match b.form with
    | some _ => b.done
    | none =>
      let b := b.openTag tag
      { b.pop with form := some b.current }.done
  | _ => b.startBesideTable tag

/-- Reads a start tag in a caption. -/
def startInCaption (b : Builder) (tag : Tag) : Step :=
  if Vocabulary.tableParts.contains tag.name then b.leaveCaption else b.startInBody tag

/-- Reads a start tag in a group of columns. -/
def startInColumnGroup (b : Builder) (tag : Tag) : Step :=
  match tag.name with
  | "html" => (b.startRoot tag).done
  | "col" => (b.addEmpty tag).done
  | _ => b.closeColumnGroup

/-- Reads a start tag in a group of rows. -/
def startInTableBody (b : Builder) (tag : Tag) : Step :=
  match tag.name with
  | "html" => (b.startRoot tag).done
  | "tr" => ((b.clearToRowGroup.openTag tag).setMode .inRow).done
  | "td" | "th" => ((b.clearToRowGroup.openName "tr").setMode .inRow).retry
  | "caption" | "col" | "colgroup" | "tbody" | "tfoot" | "thead" => b.leaveRowGroup
  | _ => b.startInTable tag

/-- Reads a start tag in a row. -/
def startInRow (b : Builder) (tag : Tag) : Step :=
  match tag.name with
  | "html" => (b.startRoot tag).done
  | "td" | "th" => ((b.clearToRow.openTag tag).setMode .inCell).mark.done
  | "caption" | "col" | "colgroup" | "tbody" | "tfoot" | "thead" | "tr" => b.leaveRow
  | _ => b.startInTable tag

/-- Reads a start tag in a cell. -/
def startInCell (b : Builder) (tag : Tag) : Step :=
  if Vocabulary.tableParts.contains tag.name then
    if b.inScope "td" .table || b.inScope "th" .table then b.closeCell.retry else b.done
  else b.startInBody tag

/-! ## In a selection -/

/-- Closes the open option. -/
def closeOption (b : Builder) : Builder :=
  if b.currentName = "option" then b.pop else b

/-- Reads a start tag in a selection. -/
def startInSelect (b : Builder) (tag : Tag) : Step :=
  match tag.name with
  | "html" => (b.startRoot tag).done
  | "option" => (b.closeOption.openTag tag).done
  | "optgroup" =>
    let b := b.closeOption
    let b := if b.currentName = "optgroup" then b.pop else b
    (b.openTag tag).done
  | "select" => b.endSelect.done
  | "input" | "keygen" | "textarea" =>
    if b.inScope "select" .select then b.endSelect.retry else b.done
  | "script" => b.startInHead tag
  | _ => b.done

/-- Reads a start tag in a selection in a table. -/
def startInSelectInTable (b : Builder) (tag : Tag) : Step :=
  if endsSelect tag.name then b.endSelect.retry else b.startInSelect tag

/-! ## In all modes -/

/-- Reads a start tag in a frameset. -/
def startInFrameset (b : Builder) (tag : Tag) : Step :=
  match tag.name with
  | "html" => (b.startRoot tag).done
  | "frameset" => (b.openTag tag).done
  | "frame" => (b.addEmpty tag).done
  | "noframes" => b.startInBody tag
  | _ => b.done

/-- Reads a start tag behind a frameset. -/
def startAfterFrameset (b : Builder) (tag : Tag) : Step :=
  match tag.name with
  | "html" => (b.startRoot tag).done
  | "noframes" => b.startInHead tag
  | _ => b.done

/-- Reads a start tag. -/
def readStartTag (b : Builder) (tag : Tag) : Step :=
  match b.mode with
  | .initial => b.leaveInitial.retry
  | .beforeHtml => b.openRoot.retry
  | .beforeHead =>
    if tag.name = "html" then (b.startRoot tag).done
    else if tag.name = "head" then (b.openHead tag).done
    else (b.openHead (Tag.named "head")).retry
  | .inHead => b.startInHead tag
  | .inHeadNoscript => b.startInHeadNoscript tag
  | .afterHead => b.startAfterHead tag
  | .inBody => b.startInBody tag
  | .text => b.done
  | .inTable => b.startInTable tag
  | .inTableText => b.flushTableText.retry
  | .inCaption => b.startInCaption tag
  | .inColumnGroup => b.startInColumnGroup tag
  | .inTableBody => b.startInTableBody tag
  | .inRow => b.startInRow tag
  | .inCell => b.startInCell tag
  | .inSelect => b.startInSelect tag
  | .inSelectInTable => b.startInSelectInTable tag
  | .afterBody | .afterAfterBody =>
    if tag.name = "html" then (b.startRoot tag).done else (b.setMode .inBody).retry
  | .inFrameset => b.startInFrameset tag
  | .afterFrameset | .afterAfterFrameset => b.startAfterFrameset tag

end TypedMarkup.Html.Builder
