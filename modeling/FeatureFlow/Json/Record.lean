import FeatureFlow.Json.Basic

/-! Records, variants and names written as JSON. -/
namespace FeatureFlow.Json

/-- The members of a record in the declared order. An object may leave members out and may hold
others, but repeats none of the declared ones; an array gives at least the first `least` of them. -/
def members? (names : List String) (least : Nat) : Json → Option (List (Option Json))
  | .object members =>
    if names.all fun name => (members.filter (·.1 == name)).length ≤ 1 then
      some (names.map fun name => members.lookup name)
    else none
  | .array items =>
    if least ≤ items.length ∧ items.length ≤ names.length then
      some (items.map some ++ List.replicate (names.length - items.length) none)
    else none
  | _ => none

/-- An object with one member, which names a variant. -/
def variant? : Json → Option (String × Json)
  | .object [(name, body)] => some (name, body)
  | _ => none

/-- A variant without contents. -/
def name? : Json → Option String
  | .string s => some s
  | .object [(name, .null)] => some name
  | _ => none

/-- A variant without contents, where an empty object counts as none. -/
def looseName? : Json → Option String
  | .object [(name, .object [])] => some name
  | j => j.name?

def string? : Json → Option String
  | .string s => some s
  | _ => none

def bool? : Json → Option Bool
  | .bool b => some b
  | _ => none

def array? : Json → Option (List Json)
  | .array items => some items
  | _ => none

variable {α : Type}

def list? (item : Json → Option α) (j : Json) : Option (List α) := j.array?.bind (·.mapM item)

/-- A member that may be absent or null. -/
def optional? (item : Json → Option α) : Option Json → Option (Option α)
  | none | some .null => some none
  | some j => (item j).map some

/-- A member that may be absent and then has a default. -/
def orElse? (item : Json → Option α) (default : α) : Option Json → Option α
  | none => some default
  | some j => item j

def required? (item : Json → Option α) : Option Json → Option α
  | none => none
  | some j => item j

/-- A member of that name unless there is nothing to hold. -/
def optionalMember (name : String) : Option Json → List (String × Json)
  | some j => [(name, j)]
  | none => []

def strings (ss : List String) : Json := .array (ss.map .string)

end FeatureFlow.Json
