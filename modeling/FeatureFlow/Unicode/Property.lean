import FeatureFlow.Unicode.Age
import FeatureFlow.Unicode.Break
import FeatureFlow.Unicode.Shared
import FeatureFlow.Text.Cut

/-! Sets of characters by the names of properties and their values. -/
namespace FeatureFlow.Unicode.Property

/-- Letter case, blanks, hyphens, low lines, a leading `is` and all that is not ASCII do not matter
in a name, but `isc` is not short for `c`. -/
def normalise (name : List Char) : String :=
  let isMarked := name.take 2 |>.map Char.toLower |> (· = ['i', 's'])
  let cs := (if isMarked then name.drop 2 else name).filter fun c =>
    c.toNat < 128 && c ≠ ' ' && c ≠ '_' && c ≠ '-'
  if isMarked && cs.map Char.toLower = ['c'] then "isc" else String.ofList (cs.map Char.toLower)

/-- A property, a category or a script by its name alone. -/
def named? (name : String) : Option CharSet :=
  Derived.named.find? name <|> Category.named.find? name <|> Script.named.find? name

def valued? (property value : String) : Option CharSet :=
  match property with
  | "generalcategory" | "gc" => Category.named.find? value
  | "script" | "sc" => Script.named.find? value
  | "scriptextensions" | "scx" => Script.users? value
  | "age" => Age.find? value
  | "graphemeclusterbreak" | "gcb" => Break.signs.find? value
  | "wordbreak" | "wb" => Break.words.find? value
  | "sentencebreak" | "sb" => Break.sentences.find? value
  | _ => none

/-- What stands between the braces of a class: a name, or a property and its value. Says also
whether the class is of the characters that do not have the value. -/
def query? (text : List Char) : Option (CharSet × Bool) :=
  match Text.cut ['!', '='] text with
  | some (p, v) => (valued? (normalise p) (normalise v)).map (·, true)
  | none => match Text.cut [':'] text <|> Text.cut ['='] text with
    | some (p, v) => (valued? (normalise p) (normalise v)).map (·, false)
    | none => (named? (normalise text)).map (·, false)

end FeatureFlow.Unicode.Property
