import TypedMarkup.Html.Token

/-!
# Names in foreign markup

Tags are read in small letters. Drawings and mathematics have names with capitals, which are put
back here, and attributes with a namespace of their own, which come behind all others.
-/

namespace TypedMarkup.Html.Foreign

/-- The element names of drawings that have capitals. -/
def drawingTags : List String := [
  "altGlyph", "altGlyphDef", "altGlyphItem", "animateColor", "animateMotion", "animateTransform",
  "clipPath", "feBlend", "feColorMatrix", "feComponentTransfer", "feComposite", "feConvolveMatrix",
  "feDiffuseLighting", "feDisplacementMap", "feDistantLight", "feFlood", "feFuncA", "feFuncB",
  "feFuncG", "feFuncR", "feGaussianBlur", "feImage", "feMerge", "feMergeNode", "feMorphology",
  "feOffset", "fePointLight", "feSpecularLighting", "feSpotLight", "feTile", "feTurbulence",
  "foreignObject", "glyphRef", "linearGradient", "radialGradient", "textPath"]

/-- The attribute names of drawings that have capitals. -/
def drawingAttributes : List String := [
  "attributeName", "attributeType", "baseFrequency", "baseProfile", "calcMode", "clipPathUnits",
  "contentScriptType", "contentStyleType", "diffuseConstant", "edgeMode",
  "externalResourcesRequired", "filterRes", "filterUnits", "glyphRef", "gradientTransform",
  "gradientUnits", "kernelMatrix", "kernelUnitLength", "keyPoints", "keySplines", "keyTimes",
  "lengthAdjust", "limitingConeAngle", "markerHeight", "markerUnits", "markerWidth",
  "maskContentUnits", "maskUnits", "numOctaves", "pathLength", "patternContentUnits",
  "patternTransform", "patternUnits", "pointsAtX", "pointsAtY", "pointsAtZ", "preserveAlpha",
  "preserveAspectRatio", "primitiveUnits", "refX", "refY", "repeatCount", "repeatDur",
  "requiredExtensions", "requiredFeatures", "specularConstant", "specularExponent", "spreadMethod",
  "startOffset", "stdDeviation", "stitchTiles", "surfaceScale", "systemLanguage", "tableValues",
  "targetX", "targetY", "textLength", "viewBox", "viewTarget", "xChannelSelector",
  "yChannelSelector", "zoomAndPan"]

/-- The attribute names of mathematics that have capitals. -/
def mathAttributes : List String := ["definitionURL"]

/-- The attributes that have a namespace of their own. -/
def qualified : List String := [
  "xlink:actuate", "xlink:arcrole", "xlink:href", "xlink:role", "xlink:show", "xlink:title",
  "xlink:type", "xml:base", "xml:lang", "xml:space", "xmlns", "xmlns:xlink"]

/-- The name of the list that has these small letters, or the name as it is. -/
def restore (names : List String) (name : String) : String :=
  (names.find? fun n => String.ofList (n.toList.map Char.toLower) == name).getD name

/-- A tag whose attributes have their capitals back. -/
def restoreAttributes (names : List String) (tag : Tag) : Tag :=
  { tag with attributes := tag.attributes.map fun a => (restore names a.1, a.2) }

/-- A tag whose attributes with a namespace of their own come last. -/
def qualifiedLast (tag : Tag) : Tag :=
  let (own, rest) := tag.attributes.partition fun a => qualified.contains a.1
  { tag with attributes := rest ++ own }

/-- A tag of a drawing, but for its name. -/
def drawing (tag : Tag) : Tag :=
  qualifiedLast (restoreAttributes drawingAttributes tag)

/-- A tag of mathematics. -/
def math (tag : Tag) : Tag :=
  qualifiedLast (restoreAttributes mathAttributes tag)

end TypedMarkup.Html.Foreign
