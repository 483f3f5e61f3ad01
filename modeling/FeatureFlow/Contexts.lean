import FeatureFlow.Scope
import FeatureFlow.Services

/-! Contexts and snapshots by name, over one shared state. A child writes to the outbox of its
parent, a spawned context to one of its own. -/
namespace FeatureFlow

structure Context where
  scope : Scope
  /-- Which outbox it writes to. -/
  outbox : Nat
  deadline : Option Nat

structure Contexts where
  contexts : KeyMap Context := []
  snapshots : KeyMap Snapshot := []
  outboxes : List (List Emission) := []
  services : Services := {}

namespace Contexts

/-- Puts a context with a new outbox under a key. -/
def add (c : Contexts) (key : String) (scope : Scope) (deadline : Option Nat) : Contexts :=
  { c with
    contexts := c.contexts.insert key ⟨scope, c.outboxes.length, deadline⟩
    outboxes := c.outboxes ++ [[]] }

/-- A root context, which has so many milliseconds if any limit is given. -/
def create (c : Contexts) (key name : String) (timeout : Option Nat) : Contexts :=
  c.add key { name } (timeout.map (c.services.clock + ·))

def get? (c : Contexts) (key : String) : Option Context := c.contexts.get? key

def update (c : Contexts) (key : String) (f : Context → Context) : Contexts :=
  match c.get? key with
  | some ctx => { c with contexts := c.contexts.insert key (f ctx) }
  | none => c

def bind (c : Contexts) (key name : String) (v : Value) : Contexts :=
  c.update key fun ctx => { ctx with scope := ctx.scope.bind name v }

def resolve (c : Contexts) (key name : String) : Option Value :=
  (c.get? key).bind fun ctx => ctx.scope.resolve c.services.symbols name

def snapshot (c : Contexts) (key made : String) : Contexts :=
  match c.get? key with
  | some ctx =>
    let (snapshot, scope) := ctx.scope.snapshot
    { c with
      contexts := c.contexts.insert key { ctx with scope }
      snapshots := c.snapshots.insert made snapshot }
  | none => c

def spawn (c : Contexts) (key made name : String) : Contexts :=
  match c.snapshots.get? key with
  | some snapshot => c.add made (snapshot.spawn name) none
  | none => c

/-- A child shares outbox and deadline. -/
def child (c : Contexts) (key made name : String) : Contexts :=
  match c.get? key with
  | some ctx =>
    let (child, scope) := ctx.scope.child name
    let kept := c.contexts.insert key { ctx with scope }
    { c with contexts := kept.insert made { ctx with scope := child } }
  | none => c

def publish (c : Contexts) (name : String) (v : Value) : Contexts :=
  { c with services := c.services.publish name v }

def outbox (c : Contexts) (key : String) : List Emission :=
  ((c.get? key).bind fun ctx => c.outboxes[ctx.outbox]?).getD []

def setOutbox (c : Contexts) (key : String) (emissions : List Emission) : Contexts :=
  match c.get? key with
  | some ctx => { c with outboxes := c.outboxes.set ctx.outbox emissions }
  | none => c

def emit (c : Contexts) (key type : String) (payload : Value) : Contexts :=
  let (e, services) := c.services.newEvent type payload
  { c with services }.setOutbox key (c.outbox key ++ [Emission.event e])

/-- Whether the deadline of a context has passed. -/
def isLate (c : Contexts) (ctx : Context) : Bool := ctx.deadline.any (· ≤ c.services.clock)

def advance (c : Contexts) (ms : Nat) : Contexts :=
  { c with services := { c.services with clock := c.services.clock + ms } }

end Contexts

end FeatureFlow
