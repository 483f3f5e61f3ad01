import FeatureFlow.Services

/-! Processes run on the shared state and may wait for shutdown. While one waits, others run and the
clock may go on. -/
namespace FeatureFlow

/-- Why a waiting process goes on. -/
inductive Wake where
  | signal
  | deadline
  deriving Repr, DecidableEq

inductive Task (α : Type) where
  | done (services : Services) (a : α)
  | waiting (services : Services) (deadline : Option Nat) (resume : Wake → Services → Task α)

namespace Task

variable {α β : Type}

def services : Task α → Services
  | done s _ => s
  | waiting s _ _ => s

def bind (t : Task α) (f : α → Services → Task β) : Task β :=
  match t with
  | done s a => f a s
  | waiting s d resume => waiting s d fun w s => (resume w s).bind f

@[simp] theorem bind_done (t : Task α) : (t.bind fun a s => done s a) = t := by
  induction t with
  | done => rfl
  | waiting s d resume ih => exact congrArg (waiting s d) (funext fun w => funext (ih w))

theorem bind_assoc {γ : Type} (t : Task α) (f : α → Services → Task β) (g : β → Services → Task γ) :
    (t.bind f).bind g = t.bind fun a s => (f a s).bind g := by
  induction t with
  | done => rfl
  | waiting s d resume ih => exact congrArg (waiting s d) (funext fun w => funext (ih w))

def map (f : α → β) (t : Task α) : Task β := t.bind fun a s => done s (f a)

/-- Runs a second process when the first has ended or waits. If both wait they do so for the same
thing, and go on in the same order. -/
def both (t : Task α) (p : Services → Task β) : Task (α × β) :=
  match t with
  | done s a => (p s).map (a, ·)
  | waiting s d resume => match p s with
    | done s b => waiting s d fun w s => (resume w s).map (·, b)
    | waiting s _ resume' => waiting s d fun w s => (resume w s).both (resume' w)

/-- Goes on with every wait as if shutdown had been signalled. -/
def signalled : Task α → Services × α
  | done s a => (s, a)
  | waiting s _ resume => (resume .signal s).signalled

/-- Lets the clock jump to each deadline that comes up to the limit; a process that still waits then
is given up. -/
def settle (limit : Nat) : Task α → Services × Option α
  | done s a => (s, some a)
  | waiting s (some d) resume =>
    if d ≤ limit then (resume .deadline { s with clock := max s.clock d }).settle limit
    else ({ s with clock := limit }, none)
  | waiting s none _ => ({ s with clock := limit }, none)

end Task

def Process (α : Type) := Services → Task α

namespace Process

variable {α : Type}

instance : Monad Process where
  pure a := fun s => .done s a
  bind p f := fun s => (p s).bind f

instance : LawfulMonad Process :=
  .mk' _ (fun p => funext fun s => (p s).bind_done) (fun _ _ => rfl)
    (fun p _ _ => funext fun s => (p s).bind_assoc _ _)

def services : Process Services := fun s => .done s s

def modify (f : Services → Services) : Process Unit := fun s => .done (f s) ()

/-- Waits for shutdown, at most until the deadline; not at all once shutdown is signalled. -/
def pause (deadline : Option Nat) : Process Wake := fun s =>
  if s.shuttingDown then .done s .signal
  else .waiting s deadline fun w s => .done s w

/-- Runs processes in order, each until it ends or waits. -/
def gather : List (Process α) → Process (List α)
  | [] => pure []
  | p :: ps => fun s => ((p s).both (gather ps)).map fun (a, as) => a :: as

end Process

end FeatureFlow
