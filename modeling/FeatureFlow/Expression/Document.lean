import FeatureFlow.Expression.Basic
import FeatureFlow.Json.Record
import FeatureFlow.Value.Json

/-! Expressions as JSON. Members that hold nothing are left out. -/
namespace FeatureFlow

def Specifier.ofJson? (j : Json) : Option Specifier := j.string?.bind Specifier.parse?

def Specifier.member (s : Specifier) : List (String × Json) :=
  if s.isWhole then [] else [("specifier", .string s.render)]

namespace Expression

/-- Reads an expression of at most the given nesting, with the given reader of operator names. -/
def read? (name? : Json → Option String) : Nat → Json → Option Expression
  | 0, _ => none
  | nesting + 1, j => do
    match ← j.variant? with
    | ("literal", body) => return .literal (.ofJson body)
    | ("variable", body) => match ← body.members? ["name", "path", "specifier"] 1 with
      | [name, path, specifier] =>
        let name ← Json.required? Json.string? name
        let path ← Json.orElse? (Json.list? Json.string?) [] path
        let specifier ← Json.orElse? Specifier.ofJson? .whole specifier
        return .reference name path specifier
      | _ => none
    | ("list", body) => return .list (← body.list? (read? name? nesting))
    | ("map", .object members) =>
      let entries ← members.mapM fun (name, j) => (read? name? nesting j).map (name, ·)
      return .map (KeyMap.ofList entries)
    | ("unary", body) => match ← body.members? ["op", "operand"] 2 with
      | [op, operand] =>
        let op ← Json.required? (fun j => (name? j).bind UnaryOp.ofSymbol?) op
        return .unary op (← Json.required? (read? name? nesting) operand)
      | _ => none
    | ("binary", body) => match ← body.members? ["op", "left", "right"] 3 with
      | [op, left, right] =>
        let op ← Json.required? (fun j => (name? j).bind BinaryOp.ofSymbol?) op
        let left ← Json.required? (read? name? nesting) left
        return .binary op left (← Json.required? (read? name? nesting) right)
      | _ => none
    | _ => none

def ofJson? (j : Json) : Option Expression := read? Json.name? (j.depth + 1) j

/-- Expressions inside statements may write operators more loosely. -/
def ofLooseJson? (j : Json) : Option Expression := read? Json.looseName? (j.depth + 1) j

mutual

def toJson : Expression → Json
  | .literal v => .object [("literal", v.toJson)]
  | .reference name path specifier =>
    .object [("variable", .object ([("name", .string name)] ++
      (if path.isEmpty then [] else [("path", .strings path)]) ++ specifier.member))]
  | .list items => .object [("list", .array (toItems items))]
  | .map entries => .object [("map", .object (toMembers entries))]
  | .unary op operand =>
    .object [("unary", .object [("op", .string op.symbol), ("operand", toJson operand)])]
  | .binary op left right =>
    .object [("binary",
      .object [("op", .string op.symbol), ("left", toJson left), ("right", toJson right)])]

def toItems : List Expression → List Json
  | [] => []
  | e :: items => toJson e :: toItems items

def toMembers : List (String × Expression) → List (String × Json)
  | [] => []
  | (name, e) :: entries => (name, toJson e) :: toMembers entries

end

end Expression

end FeatureFlow
