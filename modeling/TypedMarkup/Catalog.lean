import TypedMarkup.Entries
import TypedMarkup.Text.Case

/-!
# The catalog of standard elements

Every standard tag with the way its element relates to its content and the layout it has by
default. `classify?` looks a tag up in any case; `resolve` treats a tag that is not standard as a
block container.
-/

namespace TypedMarkup

/-- How an element relates to its content. -/
inductive ContentModel where
  | container
  | void
  | rawText
  | escapableText
  deriving Repr, DecidableEq

/-- The default layout of an element. -/
inductive Layout where
  | block
  | inline
  | inlineBlock
  deriving Repr, DecidableEq

/-- The classification of a tag. -/
structure ElementInfo where
  content : ContentModel
  layout : Layout
  deriving Repr, DecidableEq

/-- The name of a content model. -/
def ContentModel.name : ContentModel → String
  | container => "container"
  | void => "void"
  | rawText => "raw_text"
  | escapableText => "escapable_raw_text"

/-- The content model with this name. -/
def ContentModel.ofName? (s : String) : Option ContentModel :=
  [container, void, rawText, escapableText].find? fun m => m.name == s

/-- Whether the output element of this content model owns children. -/
def ContentModel.isContainerLike : ContentModel → Bool
  | void => false
  | container | rawText | escapableText => true

/-- The name of a layout. -/
def Layout.name : Layout → String
  | block => "block"
  | inline => "inline"
  | inlineBlock => "inline_block"

/-- The layout with this name. -/
def Layout.ofName? (s : String) : Option Layout :=
  [block, inline, inlineBlock].find? fun l => l.name == s

namespace Catalog

/-- The standard elements by tag, in small letters. -/
def standardElements : Entries ElementInfo := [
  -- Document and metadata
  ("html", ⟨.container, .block⟩), ("head", ⟨.container, .block⟩), ("body", ⟨.container, .block⟩),
  ("title", ⟨.escapableText, .block⟩), ("base", ⟨.void, .block⟩), ("link", ⟨.void, .block⟩),
  ("meta", ⟨.void, .block⟩), ("style", ⟨.rawText, .block⟩), ("script", ⟨.rawText, .block⟩),
  ("noscript", ⟨.container, .block⟩), ("template", ⟨.container, .block⟩),
  -- Sections
  ("address", ⟨.container, .block⟩), ("article", ⟨.container, .block⟩),
  ("aside", ⟨.container, .block⟩), ("footer", ⟨.container, .block⟩),
  ("header", ⟨.container, .block⟩), ("h1", ⟨.container, .block⟩), ("h2", ⟨.container, .block⟩),
  ("h3", ⟨.container, .block⟩), ("h4", ⟨.container, .block⟩), ("h5", ⟨.container, .block⟩),
  ("h6", ⟨.container, .block⟩), ("hgroup", ⟨.container, .block⟩), ("main", ⟨.container, .block⟩),
  ("nav", ⟨.container, .block⟩), ("section", ⟨.container, .block⟩),
  ("search", ⟨.container, .block⟩),
  -- Grouping content
  ("blockquote", ⟨.container, .block⟩), ("dd", ⟨.container, .block⟩),
  ("div", ⟨.container, .block⟩), ("dl", ⟨.container, .block⟩), ("dt", ⟨.container, .block⟩),
  ("figcaption", ⟨.container, .block⟩), ("figure", ⟨.container, .block⟩), ("hr", ⟨.void, .block⟩),
  ("li", ⟨.container, .block⟩), ("menu", ⟨.container, .block⟩), ("ol", ⟨.container, .block⟩),
  ("p", ⟨.container, .block⟩), ("pre", ⟨.container, .block⟩), ("ul", ⟨.container, .block⟩),
  -- Text-level semantics
  ("a", ⟨.container, .inline⟩), ("abbr", ⟨.container, .inline⟩), ("b", ⟨.container, .inline⟩),
  ("bdi", ⟨.container, .inline⟩), ("bdo", ⟨.container, .inline⟩), ("br", ⟨.void, .inline⟩),
  ("cite", ⟨.container, .inline⟩), ("code", ⟨.container, .inline⟩),
  ("data", ⟨.container, .inline⟩), ("dfn", ⟨.container, .inline⟩), ("em", ⟨.container, .inline⟩),
  ("i", ⟨.container, .inline⟩), ("kbd", ⟨.container, .inline⟩), ("mark", ⟨.container, .inline⟩),
  ("q", ⟨.container, .inline⟩), ("rp", ⟨.container, .inline⟩), ("rt", ⟨.container, .inline⟩),
  ("ruby", ⟨.container, .inline⟩), ("s", ⟨.container, .inline⟩), ("samp", ⟨.container, .inline⟩),
  ("small", ⟨.container, .inline⟩), ("span", ⟨.container, .inline⟩),
  ("strong", ⟨.container, .inline⟩), ("sub", ⟨.container, .inline⟩),
  ("sup", ⟨.container, .inline⟩), ("time", ⟨.container, .inline⟩), ("u", ⟨.container, .inline⟩),
  ("var", ⟨.container, .inline⟩), ("wbr", ⟨.void, .inline⟩),
  -- Edits
  ("del", ⟨.container, .inline⟩), ("ins", ⟨.container, .inline⟩),
  -- Embedded content
  ("area", ⟨.void, .inline⟩), ("audio", ⟨.container, .inlineBlock⟩),
  ("canvas", ⟨.container, .inlineBlock⟩), ("embed", ⟨.void, .inlineBlock⟩),
  ("iframe", ⟨.container, .inlineBlock⟩), ("img", ⟨.void, .inline⟩),
  ("map", ⟨.container, .inline⟩), ("math", ⟨.container, .inline⟩),
  ("object", ⟨.container, .inlineBlock⟩), ("param", ⟨.void, .block⟩),
  ("picture", ⟨.container, .inline⟩), ("source", ⟨.void, .block⟩), ("svg", ⟨.container, .inline⟩),
  ("track", ⟨.void, .block⟩), ("video", ⟨.container, .inlineBlock⟩),
  -- Tables
  ("caption", ⟨.container, .block⟩), ("col", ⟨.void, .block⟩), ("colgroup", ⟨.container, .block⟩),
  ("table", ⟨.container, .block⟩), ("tbody", ⟨.container, .block⟩), ("td", ⟨.container, .block⟩),
  ("tfoot", ⟨.container, .block⟩), ("th", ⟨.container, .block⟩), ("thead", ⟨.container, .block⟩),
  ("tr", ⟨.container, .block⟩),
  -- Forms
  ("button", ⟨.container, .inlineBlock⟩), ("datalist", ⟨.container, .block⟩),
  ("fieldset", ⟨.container, .block⟩), ("form", ⟨.container, .block⟩),
  ("input", ⟨.void, .inlineBlock⟩), ("label", ⟨.container, .inline⟩),
  ("legend", ⟨.container, .block⟩), ("meter", ⟨.container, .inlineBlock⟩),
  ("optgroup", ⟨.container, .block⟩), ("option", ⟨.container, .block⟩),
  ("output", ⟨.container, .inline⟩), ("progress", ⟨.container, .inlineBlock⟩),
  ("select", ⟨.container, .inlineBlock⟩), ("textarea", ⟨.escapableText, .inlineBlock⟩),
  -- Interactive elements
  ("details", ⟨.container, .block⟩), ("dialog", ⟨.container, .block⟩),
  ("summary", ⟨.container, .block⟩),
  -- Web components
  ("slot", ⟨.container, .inline⟩)]

/-- The classification of tags that are not standard: most likely they are custom elements. -/
def fallback : ElementInfo :=
  ⟨.container, .block⟩

/-- The classification of a standard tag, in any case. -/
def classify? (tag : String) : Option ElementInfo :=
  if tag.isEmpty then none else Entries.find? (Text.lower tag) standardElements

/-- The classification of any tag. -/
def resolve (tag : String) : ElementInfo :=
  (classify? tag).getD fallback

/-- Whether a tag is standard, in any case. -/
def isStandard (tag : String) : Bool :=
  (classify? tag).isSome

/-- The standard tags. -/
def tagNames : List String :=
  Entries.names standardElements

end Catalog

end TypedMarkup
