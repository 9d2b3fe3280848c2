import DrawStyle.Unicode.Age
import DrawStyle.Unicode.ScriptExtension
import DrawStyle.Unicode.Segment

/-!
Sets of characters by the names of their properties.

A property is asked for by its name alone, or by its name and a value. Case, blanks, dashes and
underscores in names do not matter, nor does an `is` before them.
-/

namespace DrawStyle.Unicode

inductive Query where
  /-- For the characters that have a property, or are of a category or a script. -/
  | named (name : Text)
  | valued (property value : Text)
deriving DecidableEq, Repr

inductive QueryFault where
  | noProperty
  | noValue
deriving DecidableEq, Repr

def isSignificant (c : Char) : Bool := c.toNat < 128 && c != ' ' && c != '_' && c != '-'

/-- A name as it stands in the tables. An `is` in front of it is left out; where only a single
`c` would be left, which is a category, the name is that of a comment of the standard. -/
def plainName (name : Text) : Text :=
  let plain (name : Text) : Text := (name.filter isSignificant).map Char.toLower
  if (name.take 2).map Char.toLower = "is".toList then
    let rest := plain (name.drop 2)
    if rest = ['c'] then "isc".toList else rest
  else plain name

/-- The names of categories and scripts that have no characters of their own. -/
def emptyNames : String := "cs surrogate hrkt katakanaorhiragana unknown zzzz"

def isProperty (name : Text) : Bool :=
  (properties.map Prod.fst ++ otherProperties).any fun names => hasName names name

def namedSet (name : Text) : Except QueryFault CharSet :=
  match (properties.set? name).or ((categories.set? name).or (scripts.set? name)) with
  | some set => .ok set
  | none => .error (if hasName emptyNames name then .noValue else .noProperty)

def valuedSet (property value : Text) : Except QueryFault CharSet :=
  let answer (set : Option CharSet) : Except QueryFault CharSet :=
    match set with
    | some set => .ok set
    | none => .error .noValue
  if hasName "gc generalcategory" property then answer (categories.set? value)
  else if hasName "sc script" property then answer (scripts.set? value)
  else if hasName "scx scriptextensions" property then answer (scriptExtension? value)
  else if hasName "age" property then answer (version? value)
  else if hasName "gcb graphemeclusterbreak" property then answer (characterClasses.set? value)
  else if hasName "wb wordbreak" property then answer (wordClasses.set? value)
  else if hasName "sb sentencebreak" property then answer (sentenceClasses.set? value)
  else .error (if isProperty property then .noValue else .noProperty)

def Query.set : Query → Except QueryFault CharSet
  | named name => namedSet (plainName name)
  | valued property value => valuedSet (plainName property) (plainName value)

end DrawStyle.Unicode
