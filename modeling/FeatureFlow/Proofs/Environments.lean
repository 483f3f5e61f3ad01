import FeatureFlow.Contexts

/-! Contexts behave as if each had a flat environment of its own, of which children and spawned
contexts get a full copy. Layers and kept snapshots only save the copying. -/
namespace FeatureFlow

/-- What stands under a name, if anything. -/
abbrev Lookup (α : Type) := String → Option α

/-- The same with something else under one name. -/
def Lookup.set {α : Type} (l : Lookup α) (name : String) (a : α) : Lookup α :=
  fun other => if name = other then some a else l other

theorem Lookup.set_self {α : Type} {l : Lookup α} {name : String} {a : α} (h : l name = some a) :
    l.set name a = l := by
  funext other
  unfold set
  split
  · rename_i he
    rw [← he, h]
  · rfl

/-- What can be done with contexts. -/
inductive ContextOp where
  | create (key name : String) (timeout : Option Nat)
  | bind (key name : String) (v : Value)
  | snapshot (key made : String)
  | spawn (key made name : String)
  | child (key made name : String)
  | publish (name : String) (v : Value)

namespace ContextOp

/-- The context that is made or bound in. -/
def writes? : ContextOp → Option String
  | create key _ _ => some key
  | bind key _ _ => some key
  | spawn _ made _ => some made
  | child _ made _ => some made
  | _ => none

/-- The snapshot that is made. -/
def freezes? : ContextOp → Option String
  | snapshot _ made => some made
  | _ => none

end ContextOp

/-- Flat environments: those that can be written, the frozen ones, and the symbols. -/
structure Environments where
  contexts : Lookup (Lookup Value)
  frozen : Lookup (Lookup Value)
  symbols : Lookup Value

namespace Environments

/-- Symbols count where the environment has no entry. -/
def resolve (e : Environments) (key name : String) : Option Value :=
  (e.contexts key).bind fun env => env name <|> e.symbols name

def apply (e : Environments) : ContextOp → Environments
  | .create key _ _ => { e with contexts := e.contexts.set key fun _ => none }
  | .bind key name v => match e.contexts key with
    | some env => { e with contexts := e.contexts.set key (env.set name v) }
    | none => e
  | .snapshot key made => match e.contexts key with
    | some env => { e with frozen := e.frozen.set made env }
    | none => e
  | .spawn key made _ => match e.frozen key with
    | some env => { e with contexts := e.contexts.set made env }
    | none => e
  | .child key made _ => match e.contexts key with
    | some env => { e with contexts := e.contexts.set made env }
    | none => e
  | .publish name v => { e with symbols := e.symbols.set name v }

def applyAll (e : Environments) (ops : List ContextOp) : Environments := ops.foldl apply e

variable {e : Environments} {op : ContextOp} {ops : List ContextOp} {key : String}

/-- An environment changes only where it is written itself. -/
theorem contexts_apply (h : op.writes? ≠ some key) :
    (e.apply op).contexts key = e.contexts key := by
  cases op with
  | create made name timeout => exact if_neg fun he => h (congrArg some he)
  | bind made name v =>
    rw [apply]
    split
    · exact if_neg fun he => h (congrArg some he)
    · rfl
  | snapshot source made =>
    rw [apply]
    split <;> rfl
  | spawn source made name =>
    rw [apply]
    split
    · exact if_neg fun he => h (congrArg some he)
    · rfl
  | child source made name =>
    rw [apply]
    split
    · exact if_neg fun he => h (congrArg some he)
    · rfl
  | publish name v => rfl

theorem frozen_apply (h : op.freezes? ≠ some key) : (e.apply op).frozen key = e.frozen key := by
  cases op with
  | create made name timeout => rfl
  | snapshot source made =>
    rw [apply]
    split
    · exact if_neg fun he => h (congrArg some he)
    · rfl
  | publish name v => rfl
  | _ =>
    rw [apply]
    split <;> rfl

theorem contexts_applyAll (h : ∀ op ∈ ops, op.writes? ≠ some key) :
    (e.applyAll ops).contexts key = e.contexts key := by
  induction ops generalizing e with
  | nil => rfl
  | cons op ops ih =>
    obtain ⟨hop, hops⟩ := List.forall_mem_cons.mp h
    exact (ih hops).trans (contexts_apply hop)

theorem frozen_applyAll (h : ∀ op ∈ ops, op.freezes? ≠ some key) :
    (e.applyAll ops).frozen key = e.frozen key := by
  induction ops generalizing e with
  | nil => rfl
  | cons op ops ih =>
    obtain ⟨hop, hops⟩ := List.forall_mem_cons.mp h
    exact (ih hops).trans (frozen_apply hop)

end Environments

theorem KeyMap.get?_insert_eq_set {α : Type} (m : KeyMap α) (name : String) (a : α) :
    (m.insert name a).get? = Lookup.set m.get? name a :=
      funext fun other => get?_insert m name other a

/-- A snapshot binds what the scope bound that was frozen. -/
def Snapshot.find? (s : Snapshot) (name : String) : Option Value :=
  s.top.bindings.get? name <|> s.parents.findSome? fun layer => layer.bindings.get? name

namespace Scope

theorem find?_bind_eq_set (s : Scope) (name : String) (v : Value) :
    (s.bind name v).find? = Lookup.set s.find? name v :=
      funext fun other => find?_bind s name other v

theorem find?_snapshot (s : Scope) : s.snapshot.1.find? = s.find? := by
  rw [snapshot_eq]
  rfl

/-- Taking a snapshot changes no binding of the scope. -/
theorem find?_after_snapshot (s : Scope) : s.snapshot.2.find? = s.find? := by
  unfold snapshot
  split <;> rfl

theorem find?_spawn (s : Snapshot) (name : String) : (s.spawn name).find? = s.find? := by
  funext x
  unfold find? Snapshot.spawn Snapshot.find?
  rw [KeyMap.get?_nil, List.findSome?_cons]
  cases s.top.bindings.get? x <;> rfl

end Scope

namespace Contexts

def apply (c : Contexts) : ContextOp → Contexts
  | .create key name timeout => c.create key name timeout
  | .bind key name v => c.bind key name v
  | .snapshot key made => c.snapshot key made
  | .spawn key made name => c.spawn key made name
  | .child key made name => c.child key made name
  | .publish name v => c.publish name v

def applyAll (c : Contexts) (ops : List ContextOp) : Contexts := ops.foldl apply c

/-- The bindings of contexts, all layers of each taken together. -/
def environments (contexts : KeyMap Context) : Lookup (Lookup Value) :=
  fun key => (contexts.get? key).map (·.scope.find?)

/-- What is bound, without the layers that hold it. -/
def flatten (c : Contexts) : Environments where
  contexts := environments c.contexts
  frozen key := (c.snapshots.get? key).map Snapshot.find?
  symbols := c.services.symbols.get?

theorem resolve_flatten (c : Contexts) (key name : String) :
    c.resolve key name = c.flatten.resolve key name := by
  simp only [resolve, Environments.resolve, flatten, environments, get?]
  cases c.contexts.get? key <;> rfl

theorem environments_insert (contexts : KeyMap Context) (key : String) (ctx : Context) :
    environments (contexts.insert key ctx) = (environments contexts).set key ctx.scope.find? := by
  funext other
  rw [environments, KeyMap.get?_insert, Lookup.set]
  split <;> rfl

/-- Writing a context back with the bindings it had changes nothing. -/
theorem environments_insert_same {contexts : KeyMap Context} {key : String} {ctx : Context}
    (ctx' : Context) (h : contexts.get? key = some ctx) (hs : ctx'.scope.find? = ctx.scope.find?) :
    environments (contexts.insert key ctx') = environments contexts := by
  have henv : environments contexts key = some ctx.scope.find? := by rw [environments, h]; rfl
  rw [environments_insert, hs, Lookup.set_self henv]

variable (c : Contexts) (key made name : String)

theorem flatten_create (timeout : Option Nat) :
    (c.create key name timeout).flatten = c.flatten.apply (.create key name timeout) := by
  simp only [create, add, flatten, Environments.apply, environments_insert]
  rfl

theorem flatten_bind (v : Value) :
    (c.bind key name v).flatten = c.flatten.apply (.bind key name v) := by
  simp only [bind, update, get?, flatten, Environments.apply, environments]
  cases h : c.contexts.get? key with
  | none => rfl
  | some ctx =>
    have hbind := environments_insert c.contexts key { ctx with scope := ctx.scope.bind name v }
    rw [Scope.find?_bind_eq_set] at hbind
    exact congrArg (Environments.mk · _ _) hbind

theorem flatten_snapshot :
    (c.snapshot key made).flatten = c.flatten.apply (.snapshot key made) := by
  simp only [snapshot, get?, flatten, Environments.apply]
  cases h : c.contexts.get? key with
  | none => simp only [environments, h, Option.map_none]
  | some ctx =>
    have hkept := environments_insert_same { ctx with scope := ctx.scope.snapshot.2 } h
      ctx.scope.find?_after_snapshot
    have hmade :
      (fun k => ((c.snapshots.insert made ctx.scope.snapshot.1).get? k).map Snapshot.find?) =
        Lookup.set (fun k => (c.snapshots.get? k).map Snapshot.find?) made ctx.scope.find? := by
      funext k
      rw [KeyMap.get?_insert, Lookup.set, ← ctx.scope.find?_snapshot]
      split <;> rfl
    have henv : environments c.contexts key = some ctx.scope.find? := by rw [environments, h]; rfl
    simp only [hkept, hmade, henv]

theorem flatten_spawn :
    (c.spawn key made name).flatten = c.flatten.apply (.spawn key made name) := by
  simp only [spawn, flatten, Environments.apply]
  cases h : c.snapshots.get? key with
  | none => rfl
  | some snapshot =>
    simp only [add, environments_insert, Scope.find?_spawn, Option.map_some]

theorem flatten_child :
    (c.child key made name).flatten = c.flatten.apply (.child key made name) := by
  simp only [child, get?, flatten, Environments.apply]
  cases h : c.contexts.get? key with
  | none => simp only [environments, h, Option.map_none]
  | some ctx =>
    have hkept := environments_insert_same { ctx with scope := (ctx.scope.child name).2 } h
      ctx.scope.find?_after_snapshot
    have hchild : (ctx.scope.child name).1.find? = ctx.scope.find? := by
      rw [Scope.child, Scope.find?_spawn, Scope.find?_snapshot]
    have henv : environments c.contexts key = some ctx.scope.find? := by rw [environments, h]; rfl
    simp only [environments_insert _ made, hkept, hchild, henv]

theorem flatten_publish (v : Value) :
    (c.publish name v).flatten = c.flatten.apply (.publish name v) := by
  simp only [publish, Services.publish, flatten, Environments.apply, KeyMap.get?_insert_eq_set]

/-- One operation does to the layers what it does to the environments. -/
theorem flatten_apply (op : ContextOp) : (c.apply op).flatten = c.flatten.apply op := by
  cases op with
  | create key name timeout => exact c.flatten_create key name timeout
  | bind key name v => exact c.flatten_bind key name v
  | snapshot key made => exact c.flatten_snapshot key made
  | spawn key made name => exact c.flatten_spawn key made name
  | child key made name => exact c.flatten_child key made name
  | publish name v => exact c.flatten_publish name v

theorem flatten_applyAll (ops : List ContextOp) :
    (c.applyAll ops).flatten = c.flatten.applyAll ops := by
  induction ops generalizing c with
  | nil => rfl
  | cons op ops ih =>
    change ((c.apply op).applyAll ops).flatten = (c.flatten.apply op).applyAll ops
    rw [ih, flatten_apply]

/-- The bindings that a context has, its own and those it was made with. -/
def environment? (key : String) : Option (Lookup Value) := c.flatten.contexts key

variable {c key made name} {env : Lookup Value} {later : List ContextOp}

/-- A child keeps what its parent was bound to when the child was made. -/
theorem environment?_child (h : c.environment? key = some env)
    (hlater : ∀ op ∈ later, op.writes? ≠ some made) :
    ((c.child key made name).applyAll later).environment? made = some env := by
  have hkey : c.flatten.contexts key = some env := h
  rw [environment?, flatten_applyAll, Environments.contexts_applyAll hlater, flatten_child,
    Environments.apply, hkey]
  exact if_pos rfl

/-- A spawned context has what was bound when the snapshot was taken. -/
theorem environment?_spawn {snap : String} {between : List ContextOp}
    (h : c.environment? key = some env) (hbetween : ∀ op ∈ between, op.freezes? ≠ some snap)
    (hlater : ∀ op ∈ later, op.writes? ≠ some made) :
    ((((c.snapshot key snap).applyAll between).spawn snap made name).applyAll
      later).environment? made =
      some env := by
  have hkey : c.flatten.contexts key = some env := h
  have hsnap : ((c.snapshot key snap).applyAll between).flatten.frozen snap = some env := by
    rw [flatten_applyAll, Environments.frozen_applyAll hbetween, flatten_snapshot,
      Environments.apply, hkey]
    exact if_pos rfl
  rw [environment?, flatten_applyAll, Environments.contexts_applyAll hlater, flatten_spawn,
    Environments.apply, hsnap]
  exact if_pos rfl

end Contexts

/-- Whatever is done with contexts, a name resolves as if each of them had an environment of its
own, copied in full when its parent was frozen. A kept snapshot is never out of date, so a child
starts with what its parent has, and nothing but its own bindings changes that. -/
theorem contexts_own_their_environments (services : Services) (ops : List ContextOp) :
    let c := Contexts.applyAll { services } ops
    (∀ key name, c.resolve key name = Environments.resolve
      (.applyAll ⟨fun _ => none, fun _ => none, services.symbols.get?⟩ ops) key name) ∧
    (∀ key ctx, c.get? key = some ctx → ctx.scope.frozen = none ∨
      ctx.scope.frozen = some ⟨⟨ctx.scope.name, ctx.scope.bindings⟩, ctx.scope.parents⟩) ∧
    (∀ key made name env later, c.environment? key = some env →
      (∀ op ∈ later, op.writes? ≠ some made) →
      ((c.child key made name).applyAll later).environment? made = some env) ∧
    ∀ key snap made name env between later, c.environment? key = some env →
      (∀ op ∈ between, op.freezes? ≠ some snap) → (∀ op ∈ later, op.writes? ≠ some made) →
      ((((c.snapshot key snap).applyAll between).spawn snap made name).applyAll
        later).environment? made =
        some env := by
  intro c
  refine ⟨?_, ?_, ?_, ?_⟩
  · intro key name
    rw [Contexts.resolve_flatten, Contexts.flatten_applyAll]
    rfl
  · intro key ctx _
    cases hf : ctx.scope.frozen with
    | none => exact .inl rfl
    | some snapshot => exact .inr (congrArg some (ctx.scope.frozen_eq snapshot hf))
  · intro key made name env later
    exact Contexts.environment?_child
  · intro key snap made name env between later
    exact Contexts.environment?_spawn

/-- A parent is bound anew after it has got a child; only its next child sees that. -/
theorem later_binding_unseen_by_child :
    let c := Contexts.applyAll {} [.create "p" "parent" none, .bind "p" "v" (.int 1)]
    let later : List ContextOp := [.bind "p" "v" (.int 2), .child "p" "d" "second"]
    let after := (c.child "p" "c" "first").applyAll later
    (∀ op ∈ later, op.writes? ≠ some "c") ∧ after.environment? "c" = c.environment? "p" ∧
      after.resolve "c" "v" = some (.int 1) ∧ after.resolve "d" "v" = some (.int 2) := by
  intro c later after
  have hp : c.environment? "p" = some (Lookup.set (fun _ => none) "v" (.int 1)) := by
    unfold Contexts.environment?
    rw [Contexts.flatten_applyAll]
    rfl
  have hlater : ∀ op ∈ later, op.writes? ≠ some "c" := by simp [later, ContextOp.writes?]
  obtain ⟨-, -, hchild, -⟩ := contexts_own_their_environments {}
    [.create "p" "parent" none, .bind "p" "v" (.int 1)]
  refine ⟨hlater, ?_, rfl, rfl⟩
  rw [hp]
  exact hchild "p" "c" "first" _ later hp hlater

end FeatureFlow
