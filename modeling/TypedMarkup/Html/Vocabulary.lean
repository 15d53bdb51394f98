/-!
# The vocabulary of markup

The groups of element names that the construction of trees refers to, as the standard for markup
lists them, and the namespaces that elements belong to.
-/

namespace TypedMarkup.Html

/-- The namespaces of elements. -/
inductive Namespace where
  | html
  | svg
  | math
  deriving Repr, DecidableEq

namespace Vocabulary

/-- The headings. -/
def headings : List String := ["h1", "h2", "h3", "h4", "h5", "h6"]

/-- Elements whose start ends a paragraph. -/
def blocks : List String := [
  "address", "article", "aside", "blockquote", "center", "details", "dir", "div", "dl", "fieldset",
  "figcaption", "figure", "footer", "header", "hgroup", "main", "menu", "nav", "ol", "p", "section",
  "summary", "ul"]

/-- Elements whose end tag ends all that is open in them. -/
def closedBlocks : List String := [
  "address", "article", "aside", "blockquote", "button", "center", "details", "dialog", "dir",
  "div", "dl", "fieldset", "figcaption", "figure", "footer", "header", "hgroup", "listing", "main",
  "menu", "nav", "ol", "pre", "section", "summary", "ul"]

/-- Elements that give text a form, and are opened anew when another element cuts them off. -/
def formatting : List String := [
  "b", "big", "code", "em", "font", "i", "s", "small", "strike", "strong", "tt", "u"]

/-- Elements of the text level without content. -/
def emptyInline : List String := ["area", "br", "embed", "img", "keygen", "wbr"]

/-- Elements that hold a document or plug-in of their own. -/
def containers : List String := ["applet", "marquee", "object"]

/-- Elements of the head that the body hands to it. -/
def metadata : List String := [
  "base", "basefont", "bgsound", "command", "link", "meta", "script", "style", "title"]

/-- Elements of the head that may still come behind its end. -/
def lateMetadata : List String := [
  "base", "basefont", "bgsound", "link", "meta", "noframes", "script", "style", "title"]

/-- The parts of a table apart from captions and columns. -/
def rowGroups : List String := ["tbody", "tfoot", "thead"]

/-- The cells of a table. -/
def cells : List String := ["td", "th"]

/-- The parts of a table. -/
def tableParts : List String := [
  "caption", "col", "colgroup", "tbody", "td", "tfoot", "th", "thead", "tr"]

/-- Start tags that count for nothing in a body. -/
def misplaced : List String := tableParts ++ ["frame", "head"]

/-- Elements in which content that is not for a table is moved in front of the table. -/
def tableContexts : List String := ["table", "tbody", "tfoot", "thead", "tr"]

/-- Elements whose end tag may be left out. -/
def impliedEnds : List String := ["dd", "dt", "li", "option", "optgroup", "p", "rp", "rt"]

/-- Special elements: end tags of others do not reach over them. -/
def special : List String := headings ++ [
  "address", "applet", "area", "article", "aside", "base", "basefont", "bgsound", "blockquote",
  "body", "br", "button", "caption", "center", "col", "colgroup", "command", "dd", "details", "dir",
  "div", "dl", "dt", "embed", "fieldset", "figure", "footer", "form", "frame", "frameset", "head",
  "header", "hr", "html", "iframe", "image", "img", "input", "isindex", "li", "link", "listing",
  "marquee", "menu", "meta", "nav", "noembed", "noframes", "noscript", "object", "ol", "p", "param",
  "plaintext", "pre", "script", "section", "select", "style", "table", "tbody", "td", "textarea",
  "tfoot", "th", "thead", "title", "tr", "ul", "wbr", "xmp"]

/-- Elements that bound a search among the open elements. -/
def scopes : List String := [
  "applet", "caption", "html", "marquee", "object", "table", "td", "th"]

/-- Elements of mathematics that hold text. -/
def mathText : List String := ["mi", "mn", "mo", "ms", "mtext"]

/-- Elements of drawings that hold markup. -/
def drawingMarkup : List String := ["foreignObject", "desc", "title"]

/-- Start tags that end all foreign elements. -/
def breakouts : List String := headings ++ [
  "b", "big", "blockquote", "body", "br", "center", "code", "dd", "div", "dl", "dt", "em", "embed",
  "head", "hr", "i", "img", "li", "listing", "menu", "meta", "nobr", "ol", "p", "pre", "ruby", "s",
  "small", "span", "strike", "strong", "sub", "sup", "table", "tt", "u", "ul", "var"]

end Vocabulary

/-- Whether an element is special. -/
def isSpecial (space : Namespace) (name : String) : Bool :=
  match space with
  | .html => Vocabulary.special.contains name
  | .svg => name == "foreignObject"
  | .math => false

/-- Whether an element bounds every search among the open elements. -/
def isScope (space : Namespace) (name : String) : Bool :=
  match space with
  | .html => Vocabulary.scopes.contains name
  | .svg => Vocabulary.drawingMarkup.contains name
  | .math => Vocabulary.mathText.contains name || name == "annotation-xml"

end TypedMarkup.Html
