import FeatureFlow.Event
import FeatureFlow.Value.Order

/-! Repositories hold entities, which are maps known by their `id` field. -/
namespace FeatureFlow

structure Repositories where
  entities : KeyMap (List Value) := []
  /-- Repositories that fail every call. -/
  unreachable : List String := []

inductive RepositoryError where
  | rejected (repository type : String)
  | unreachable (repository : String)
  deriving Repr, DecidableEq

def RepositoryError.message : RepositoryError → String
  | rejected repository type =>
    s!"repository '{repository}' rejected the value: expected a map, got {type}"
  | unreachable repository => s!"backend '{repository}' is down"

structure Receipt where
  entityId : String
  kind : ChangeKind
  stored : Value
  previous : Option Value

namespace Repositories

/-- The text of an id that is there and not null. -/
def key? (entity : Value) : Option String :=
  ((entity.field? "id").filter fun id => !id.isNull).map Value.display

/-- A map filter asks for loosely equal fields; any other accepts everything. -/
def fits (filter entity : Value) : Bool :=
  match filter with
  | .map fields => fields.all fun (name, v) => (entity.field? name).any (·.looseEq v)
  | _ => true

def contents (r : Repositories) (name : String) : List Value := (r.entities.get? name).getD []

def find (r : Repositories) (name : String) (filter : Option Value) : List Value :=
  (r.contents name).filter fun entity => filter.all (fits · entity)

def retrieve (r : Repositories) (name : String) (filter : Option Value) :
    Except RepositoryError (List Value) :=
  if name ∈ r.unreachable then .error (.unreachable name) else .ok (r.find name filter)

/-- Replaces the first entity of that key, which is also returned, or adds a last one. -/
def upsert (key : String) (entity : Value) : List Value → List Value × Option Value
  | [] => ([entity], none)
  | e :: entities =>
    if key? e = some key then (entity :: entities, some e)
    else
      let (entities, previous) := upsert key entity entities
      (e :: entities, previous)

/-- Puts an entity in place without asking whether the repository can be reached. -/
def put (r : Repositories) (name key : String) (entity : Value) : Receipt × Repositories :=
  let (entities, previous) := upsert key entity (r.contents name)
  let kind := if previous.isSome then .updated else .created
  (⟨key, kind, entity, previous⟩, { r with entities := r.entities.insert name entities })

/-- An entity without an id is given the fresh one. -/
def identify (fresh : Uuid) (fields : KeyMap Value) : String × Value :=
  match key? (.map fields) with
  | some key => (key, .map fields)
  | none => (fresh.text, .map (fields.insert "id" (.string fresh.text)))

def store (r : Repositories) (fresh : Uuid) (name : String) (v : Value) :
    Except RepositoryError Receipt × Repositories :=
  if name ∈ r.unreachable then (.error (.unreachable name), r)
  else match v with
    | .map fields =>
      let (key, entity) := identify fresh fields
      let (receipt, r) := r.put name key entity
      (.ok receipt, r)
    | v => (.error (.rejected name v.typeName), r)

/-- A call that fails changes nothing. -/
theorem store_of_error {r : Repositories} {fresh : Uuid} {name : String} {v : Value}
    {e : RepositoryError} (h : (r.store fresh name v).1 = .error e) :
    (r.store fresh name v).2 = r := by
  unfold store at h ⊢
  split
  · rfl
  · split
    · simp_all
    · rfl

end Repositories

end FeatureFlow
