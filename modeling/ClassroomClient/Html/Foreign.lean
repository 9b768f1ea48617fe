/-
# Elements of drawings and formulas

Drawings and formulas have vocabularies of their own. Their names keep capital letters that a
markup text may leave out, and some of their attributes belong to special groups.
-/

import ClassroomClient.Html.Document
import ClassroomClient.Html.Token

namespace ClassroomClient.Html

/-- Element names of drawings that hold capital letters. -/
def drawingElements : List String :=
  ["altGlyph", "altGlyphDef", "altGlyphItem", "animateColor", "animateMotion",
   "animateTransform", "clipPath", "feBlend", "feColorMatrix", "feComponentTransfer",
   "feComposite", "feConvolveMatrix", "feDiffuseLighting", "feDisplacementMap",
   "feDistantLight", "feDropShadow", "feFlood", "feFuncA", "feFuncB", "feFuncG", "feFuncR",
   "feGaussianBlur", "feImage", "feMerge", "feMergeNode", "feMorphology", "feOffset",
   "fePointLight", "feSpecularLighting", "feSpotLight", "feTile", "feTurbulence",
   "foreignObject", "glyphRef", "linearGradient", "radialGradient", "textPath"]

/-- Attribute names of drawings that hold capital letters. -/
def drawingAttributes : List String :=
  ["attributeName", "attributeType", "baseFrequency", "baseProfile", "calcMode",
   "clipPathUnits", "diffuseConstant", "edgeMode", "filterUnits", "glyphRef",
   "gradientTransform", "gradientUnits", "kernelMatrix", "kernelUnitLength", "keyPoints",
   "keySplines", "keyTimes", "lengthAdjust", "limitingConeAngle", "markerHeight",
   "markerUnits", "markerWidth", "maskContentUnits", "maskUnits", "numOctaves", "pathLength",
   "patternContentUnits", "patternTransform", "patternUnits", "pointsAtX", "pointsAtY",
   "pointsAtZ", "preserveAlpha", "preserveAspectRatio", "primitiveUnits", "refX", "refY",
   "repeatCount", "repeatDur", "requiredExtensions", "requiredFeatures", "specularConstant",
   "specularExponent", "spreadMethod", "startOffset", "stdDeviation", "stitchTiles",
   "surfaceScale", "systemLanguage", "tableValues", "targetX", "targetY", "textLength",
   "viewBox", "viewTarget", "xChannelSelector", "yChannelSelector", "zoomAndPan"]

/-- Attributes that belong to special groups. -/
def groupedAttributes : List (String × AttributeGroup × String) :=
  [("xlink:actuate", .link, "actuate"), ("xlink:arcrole", .link, "arcrole"),
   ("xlink:href", .link, "href"), ("xlink:role", .link, "role"), ("xlink:show", .link, "show"),
   ("xlink:title", .link, "title"), ("xlink:type", .link, "type"), ("xml:lang", .xml, "lang"),
   ("xml:space", .xml, "space"), ("xmlns", .declaration, "xmlns"),
   ("xmlns:xlink", .namedDeclaration, "xlink")]

/-- The spelling of a name that a list has with capital letters. -/
def spelledAs (names : List String) (name : String) : String :=
  (names.find? fun spelling => spelling.toLower == name).getD name

/-- The name of an attribute in a vocabulary. -/
def attributeSpelling (vocabulary : Vocabulary) (name : String) : String :=
  match vocabulary with
  | .html => name
  | .mathMl => spelledAs ["definitionURL"] name
  | .svg => spelledAs drawingAttributes name

/-- The attributes of a tag as those of an element of a vocabulary. -/
def attributesIn (vocabulary : Vocabulary) (attributes : List (String × String)) :
    List Attribute :=
  Attribute.ordered <| attributes.map fun (name, value) =>
    if vocabulary == .html then { name, value }
    else
      match groupedAttributes.lookup name with
      | some (group, name) => { group, name, value }
      | none => { name := attributeSpelling vocabulary name, value }

/-- The name of an element inside a drawing or a formula. -/
def elementSpelling (vocabulary : Vocabulary) (name : String) : String :=
  if vocabulary == .svg then spelledAs drawingElements name else name

/-- Start tags that end drawings and formulas. -/
def leavingTags : List String :=
  ["b", "big", "blockquote", "body", "br", "center", "code", "dd", "div", "dl", "dt", "em",
   "embed", "h1", "h2", "h3", "h4", "h5", "h6", "head", "hr", "i", "img", "li", "listing",
   "menu", "meta", "nobr", "ol", "p", "pre", "ruby", "s", "small", "span", "strong", "strike",
   "sub", "sup", "table", "tt", "u", "ul", "var"]

/-- Whether a start tag ends drawings and formulas. A font does so when it says how it looks. -/
def Tag.leavesForeign (tag : Tag) : Bool :=
  leavingTags.contains tag.name
    || (tag.name == "font"
      && ["color", "face", "size"].any fun name => (tag.attribute? name).isSome)

end ClassroomClient.Html
