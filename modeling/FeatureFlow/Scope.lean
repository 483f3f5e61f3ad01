import FeatureFlow.Expression.Eval

/-! Scopes bind names in layers. A snapshot freezes a scope, and the scopes spawned from it see what
was bound then and nothing of one another. -/
namespace FeatureFlow

structure Layer where
  name : String
  bindings : KeyMap Value

structure Snapshot where
  top : Layer
  parents : List Layer

structure Scope where
  name : String
  bindings : KeyMap Value := []
  parents : List Layer := []
  /-- The last snapshot, as long as nothing was bound since; children made in a row share it. -/
  frozen : Option Snapshot := none
  frozen_eq : ∀ s, frozen = some s → s = ⟨⟨name, bindings⟩, parents⟩ := by nofun

namespace Scope

def bind (s : Scope) (name : String) (v : Value) : Scope :=
  { s with bindings := s.bindings.insert name v, frozen := none, frozen_eq := nofun }

def bindAll (s : Scope) (entries : List (String × Value)) : Scope :=
  entries.foldl (fun s e => s.bind e.1 e.2) s

def isLocal (s : Scope) (name : String) : Bool := s.bindings.contains name

/-- The innermost binding of a name. -/
def find? (s : Scope) (name : String) : Option Value :=
  s.bindings.get? name <|> s.parents.findSome? fun layer => layer.bindings.get? name

theorem find?_bind (s : Scope) (name other : String) (v : Value) :
    (s.bind name v).find? other = if name = other then some v else s.find? other := by
  unfold find? bind
  rw [KeyMap.get?_insert]
  split <;> rfl

/-- Published symbols are seen where the scope itself binds nothing. -/
def resolve (symbols : KeyMap Value) (s : Scope) (name : String) : Option Value :=
  s.find? name <|> symbols.get? name

def snapshot (s : Scope) : Snapshot × Scope :=
  match s.frozen with
  | some snapshot => (snapshot, s)
  | none =>
    let snapshot := ⟨⟨s.name, s.bindings⟩, s.parents⟩
    (snapshot, { s with frozen := some snapshot, frozen_eq := by rintro _ ⟨⟩; rfl })

theorem snapshot_eq (s : Scope) : s.snapshot.1 = ⟨⟨s.name, s.bindings⟩, s.parents⟩ := by
  unfold snapshot
  split
  · rename_i snapshot h
    exact s.frozen_eq snapshot h
  · rfl

end Scope

def Snapshot.name (s : Snapshot) : String := s.top.name

def Snapshot.spawn (s : Snapshot) (name : String) : Scope := { name, parents := s.top :: s.parents }

/-- A scope inside this one, and this one with its snapshot kept. -/
def Scope.child (s : Scope) (name : String) : Scope × Scope :=
  let (snapshot, s) := s.snapshot
  (snapshot.spawn name, s)

def Scope.eval (symbols : KeyMap Value) (s : Scope) (e : Expression) : Except EvalError Value :=
  e.eval (s.resolve symbols)

end FeatureFlow
