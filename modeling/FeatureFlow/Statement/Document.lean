import FeatureFlow.Expression.Document
import FeatureFlow.Json.Reader
import FeatureFlow.Statement.Basic

/-! Applications as JSON. Members that hold nothing are left out. -/
namespace FeatureFlow

namespace Target

def ofJson? (j : Json) : Option Target := do
  match ← j.members? ["name", "qualifier", "specifier"] 1 with
  | [name, qualifier, specifier] =>
    let name ← Json.required? Json.string? name
    let qualifier ← Json.optional? Json.string? qualifier
    return ⟨name, qualifier, ← Json.orElse? Specifier.ofJson? .whole specifier⟩
  | _ => none

def toJson (t : Target) : Json :=
  .object ([("name", .string t.name)] ++ Json.optionalMember "qualifier"
    (t.qualifier.map .string) ++
    t.specifier.member)

end Target

namespace Object

def ofJson? (j : Json) : Option Object := do
  match ← j.members? ["preposition", "source", "where"] 2 with
  | [preposition, source, filter] =>
    let preposition ← Json.required? (fun j => j.looseName?.bind Preposition.ofText?) preposition
    let source ← Json.required? Expression.ofLooseJson? source
    return ⟨preposition, source, ← Json.optional? Expression.ofLooseJson? filter⟩
  | _ => none

def toJson (o : Object) : Json :=
  .object ([("preposition", .string o.preposition.text), ("source", o.source.toJson)] ++
    Json.optionalMember "where" (o.filter.map Expression.toJson))

end Object

namespace Command

def ofJson? (j : Json) : Option Command := do
  match ← j.members? ["action", "result", "object", "when"] 3 with
  | [action, result, object, guard] =>
    let action ← Json.required? Json.string? action
    let result ← Json.required? Target.ofJson? result
    let object ← Json.required? Object.ofJson? object
    return ⟨action, result, object, ← Json.optional? Expression.ofLooseJson? guard⟩
  | _ => none

def members (c : Command) : List (String × Json) :=
  [("action", .string c.action), ("result", c.result.toJson), ("object", c.object.toJson)] ++
    Json.optionalMember "when" (c.guard.map Expression.toJson)

end Command

namespace Pattern

def float? : Json → Option Float
  | .number n => some n.toFloat
  | _ => none

def ofJson? (j : Json) : Option Pattern := do
  match ← j.variant? with
  | ("literal", body) => return .literal (.ofJson body)
  | ("range", body) => match ← body.members? ["low", "high"] 2 with
    | [low, high] => return .range (← Json.required? float? low) (← Json.required? float? high)
    | _ => none
  | ("regex", body) => match ← body.members? ["pattern"] 1 with
    | [text] => return .regex (← Json.required? Json.string? text)
    | _ => none
  | _ => none

def toJson : Pattern → Json
  | .literal v => .object [("literal", v.toJson)]
  | .range low high => .object [("range", .object [("low", .float low), ("high", .float high)])]
  | .regex text => .object [("regex", .object [("pattern", .string text)])]

end Pattern

namespace Statement

inductive Kind where
  | act
  | choose
  | forEach

def Kind.ofName? : String → Option Kind
  | "aro" => some act
  | "match" => some choose
  | "forEach" => some forEach
  | _ => none

def Kind.ofNumber? (n : Int64) : Option Kind :=
  if n = 0 then some act else if n = 1 then some choose else if n = 2 then some forEach else none

/-- Statements inside others may give their kind by its number. -/
def Kind.ofJson? (inner : Bool) : Json → Option Kind
  | .string s => ofName? s
  | .number (.int n) => if inner then ofNumber? n else none
  | _ => none

/-- The kind of a statement and its other members: a member that names the kind, or the first item.
-/
def split? (inner : Bool) : Json → Option (Kind × Json)
  | .object members => match members.filter (·.1 == "kind") with
    | [(_, j)] => (Kind.ofJson? inner j).map (·, .object (members.filter (·.1 != "kind")))
    | _ => none
  | .array (j :: items) => (Kind.ofJson? inner j).map (·, .array items)
  | _ => none

def caseOfJson? (statement? : Json → Option Statement) (j : Json) : Option (Case Statement) := do
  match ← j.members? ["pattern", "where", "body"] 3 with
  | [pattern, guard, body] =>
    let pattern ← Json.required? Pattern.ofJson? pattern
    let guard ← Json.optional? Expression.ofLooseJson? guard
    return ⟨pattern, guard, ← Json.required? (Json.list? statement?) body⟩
  | _ => none

/-- Reads a statement of at most the given nesting. -/
def read? (inner : Bool) : Nat → Json → Option Statement
  | 0, _ => none
  | nesting + 1, j => do
    match ← split? inner j with
    | (.act, body) => return .act (← Command.ofJson? body)
    | (.choose, body) => match ← body.members? ["subject", "cases", "otherwise"] 2 with
      | [subject, cases, otherwise] =>
        let subject ← Json.required? Expression.ofLooseJson? subject
        let cases ← Json.required? (Json.list? (caseOfJson? (read? true nesting))) cases
        return .choose subject cases (← Json.optional? (Json.list? (read? true nesting)) otherwise)
      | _ => none
    | (.forEach, body) =>
      match ← body.members? ["item", "index", "collection", "where", "body"] 5 with
      | [item, index, collection, filter, body] =>
        let item ← Json.required? Json.string? item
        let index ← Json.optional? Json.string? index
        let collection ← Json.required? Expression.ofLooseJson? collection
        let filter ← Json.optional? Expression.ofLooseJson? filter
        return .forEach item index collection filter
          (← Json.required? (Json.list? (read? true nesting)) body)
      | _ => none

def ofJson? (j : Json) : Option Statement := read? false (j.depth + 1) j

mutual

def toJson : Statement → Json
  | .act c => .object (("kind", .string "aro") :: c.members)
  | .choose subject cases otherwise =>
    .object ([("kind", .string "match"), ("subject", subject.toJson),
      ("cases", .array (toCases cases))] ++
      toOtherwise otherwise)
  | .forEach item index collection filter body =>
    .object ([("kind", .string "forEach"), ("item", .string item)] ++
      Json.optionalMember "index" (index.map .string) ++ [("collection", collection.toJson)] ++
      Json.optionalMember "where" (filter.map Expression.toJson) ++
        [("body", .array (toItems body))])

def toItems : List Statement → List Json
  | [] => []
  | s :: items => toJson s :: toItems items

def toCases : List (Case Statement) → List Json
  | [] => []
  | c :: cases => toCase c :: toCases cases

def toCase : Case Statement → Json
  | ⟨pattern, guard, body⟩ =>
    .object ([("pattern", pattern.toJson)] ++
      Json.optionalMember "where" (guard.map Expression.toJson) ++
        [("body", .array (toItems body))])

def toOtherwise : Option (List Statement) → List (String × Json)
  | none => []
  | some body => [("otherwise", .array (toItems body))]

end

end Statement

namespace FeatureSet

def ofJson? (j : Json) : Option FeatureSet := do
  match ← j.members? ["name", "businessActivity", "statements"] 1 with
  | [name, activity, statements] =>
    let name ← Json.required? Json.string? name
    let activity ← Json.orElse? Json.string? "" activity
    return ⟨name, activity, ← Json.orElse? (Json.list? Statement.ofJson?) [] statements⟩
  | _ => none

def toJson (f : FeatureSet) : Json :=
  .object [("name", .string f.name), ("businessActivity", .string f.activity),
    ("statements", .array (Statement.toItems f.statements))]

end FeatureSet

namespace Application

def ofJson? (j : Json) : Option Application := do
  match ← j.members? ["name", "featureSets"] 0 with
  | [name, featureSets] =>
    let name ← Json.orElse? Json.string? "" name
    return ⟨name, ← Json.orElse? (Json.list? FeatureSet.ofJson?) [] featureSets⟩
  | _ => none

def toJson (a : Application) : Json :=
  .object [("name", .string a.name), ("featureSets", .array (a.featureSets.map FeatureSet.toJson))]

def read? (text : String) : Option Application := (Json.document? text).bind ofJson?

end Application

end FeatureFlow
