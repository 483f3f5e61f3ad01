import FeatureFlow.Process

/-! Running processes against a clock that only moves when all of them wait. -/
namespace FeatureFlow.Process

variable {α β : Type}

/-- How long a process may wait, in milliseconds. -/
def patience : Nat := 3600000

/-- Runs a process to its end, or gives it up when it waits too long. -/
def complete (p : Process α) (s : Services) : Services × Option α :=
  (p s).settle (s.clock + patience)

/-- Runs a process until it ends or waits, then signals shutdown, and then lets it go on. -/
def thenSignal (p : Process α) (s : Services) : Services × α :=
  match p s with
  | .done s a => (s.signalShutdown, a)
  | .waiting s _ resume => (resume .signal s.signalShutdown).signalled

/-- Runs a process until it ends or waits, then a second one to its end, and then lets the first go
on. -/
def thenRun (p : Process α) (q : Process β) (s : Services) : Services × α × β :=
  match p s with
  | .done s a =>
    let (s, b) := (q s).signalled
    (s, a, b)
  | .waiting s _ resume =>
    let (s, b) := (q s).signalled
    let (s, a) := (resume .signal s).signalled
    (s, a, b)

end FeatureFlow.Process
