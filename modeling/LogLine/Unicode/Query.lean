/-
  Unicode/Query.lean --- sets of characters by the names of their properties.

  A name may stand in any case, with spaces, hyphens and underscores, and with
  `is` before it.  A name alone is that of a binary property, of a general
  category or of a script; any other property is asked for with its value.
-/
import LogLine.Text.Basic
import LogLine.Unicode.Age
import LogLine.Unicode.Break

set_option autoImplicit false

namespace LogLine.Unicode

/-! ## Names -/

/-- A name without what does not count in it. -/
def plainName (name : Text) : Text :=
  Text.asciiLower (name.filter fun c => c.toNat < 128 && c != ' ' && c != '_' && c != '-')

/-- The name that is looked up: `is` at the beginning does not count.  The one
name that would be lost by that, `isc`, stays as it is. -/
def searchName (name : Text) : String :=
  match name with
  | i :: s :: rest =>
    if Text.asciiLower [i, s] = ['i', 's'] then
      if plainName rest = ['c'] then "isc" else String.ofList (plainName rest)
    else String.ofList (plainName name)
  | name => String.ofList (plainName name)

/-! ## Queries -/

/-- The characters that a name alone stands for: a binary property, or else a
category, or else a script. -/
def setOfName? (name : Text) : Option CharSet :=
  let name := searchName name
  ((Property.ofName? name).map Property.set).or
    (((Category.ofName? name).map Category.set).or ((Script.ofName? name).map Script.set))

/-- The properties that have values other than yes and no. -/
inductive ValuedProperty where
  | generalCategory
  | script
  | scriptExtensions
  | age
  | graphemeClusterBreak
  | wordBreak
  | sentenceBreak
deriving DecidableEq, Repr, Inhabited

namespace ValuedProperty

/-- The names of the properties, without case and punctuation. -/
def names : List (String × ValuedProperty) :=
  [("gc", .generalCategory), ("generalcategory", .generalCategory), ("sc", .script),
   ("script", .script), ("scx", .scriptExtensions), ("scriptextensions", .scriptExtensions),
   ("age", .age), ("gcb", .graphemeClusterBreak),
   ("graphemeclusterbreak", .graphemeClusterBreak), ("wb", .wordBreak),
   ("wordbreak", .wordBreak), ("sb", .sentenceBreak), ("sentencebreak", .sentenceBreak)]

/-- The property with this name. -/
def ofName? (name : String) : Option ValuedProperty := (names.find? (·.1 == name)).map (·.2)

/-- The characters for which a property has a value. -/
def setOf? (property : ValuedProperty) (value : String) : Option CharSet :=
  match property with
  | .generalCategory => (Category.ofName? value).map Category.set
  | .script => (Script.ofName? value).map Script.set
  | .scriptExtensions => (Script.ofName? value).map Script.extensions
  | .age => Version.charactersOf? value
  | .graphemeClusterBreak => graphemeBreak? value
  | .wordBreak => wordBreak? value
  | .sentenceBreak => sentenceBreak? value

end ValuedProperty

/-- The characters for which the property with this name has this value. -/
def setOfValue? (property value : Text) : Option CharSet :=
  (ValuedProperty.ofName? (searchName property)).bind fun property =>
    property.setOf? (searchName value)

end LogLine.Unicode
