import FeatureFlow.Journal
import FeatureFlow.Repository

/-! The state that all feature sets of an application share. -/
namespace FeatureFlow

structure LogLine where
  channel : String
  scope : String
  message : String
  deriving Repr, DecidableEq

structure Services where
  symbols : KeyMap Value := []
  repositories : Repositories := {}
  servers : KeyMap Unit := []
  shuttingDown : Bool := false
  log : List LogLine := []
  /-- Where dispatched events are recorded, if anywhere. -/
  journal : Option Journal := none
  /-- Milliseconds. -/
  clock : Nat := 0
  /-- How long the statements and rounds to come take. Where none are left they take no time. -/
  delays : List Nat := []
  /-- Whether a value could not be given its shape. The program stops there, so nothing that has
  happened since counts. -/
  crashed : Bool := false
  /-- How many ids have been given out. -/
  issued : Nat := 0

namespace Services

def fresh (s : Services) : Uuid := .fresh s.issued

def issue (s : Services) : Services := { s with issued := s.issued + 1 }

/-- The present moment, counted from the start of the epoch. -/
def now (s : Services) : Timestamp := .ofMillis s.clock

/-- Lets the next delay pass. -/
def elapse (s : Services) : Services :=
  { s with clock := s.clock + s.delays.headD 0, delays := s.delays.tail }

def crash (s : Services) (now : Bool) : Services := { s with crashed := s.crashed || now }

@[simp] theorem crash_false (s : Services) : s.crash false = s := by rw [crash, Bool.or_false]

def publish (s : Services) (name : String) (v : Value) : Services :=
  { s with symbols := s.symbols.insert name v }

/-- Starts a server; whether it was not yet running. -/
def startServer (s : Services) (name : String) : Bool × Services :=
  (!s.servers.contains name, { s with servers := s.servers.insert name () })

/-- Stops a server; whether it was running. -/
def stopServer (s : Services) (name : String) : Bool × Services :=
  (s.servers.contains name, { s with servers := s.servers.erase name })

def signalShutdown (s : Services) : Services := { s with shuttingDown := true }

def write (s : Services) (line : LogLine) : Services := { s with log := s.log ++ [line] }

def record (s : Services) (e : Event) : Services :=
  { s with journal := s.journal.map fun j => (j.record s.now e).2 }

/-- Stores a value; a fresh id is given out unless that fails. -/
def store (s : Services) (repository : String) (v : Value) :
    Except RepositoryError Receipt × Services :=
  match s.repositories.store s.fresh repository v with
  | (.ok receipt, repositories) => (.ok receipt, { s.issue with repositories })
  | (.error e, repositories) => (.error e, { s with repositories })

/-- A call that fails changes nothing. -/
theorem store_of_error {s : Services} {repository : String} {v : Value} {e : RepositoryError}
    (h : (s.store repository v).1 = .error e) : (s.store repository v).2 = s := by
  unfold store at h ⊢
  split at h
  · cases h
  · rename_i cause repositories hstore
    have hfailed : (s.repositories.store s.fresh repository v).1 = .error cause := by rw [hstore]
    have hsame : repositories = s.repositories := by
      rw [← Repositories.store_of_error hfailed, hstore]
    rw [hsame]

/-- Stores an entity, also where calls fail; what is no map is left out. -/
def seed (s : Services) (repository : String) : Value → Services
  | .map fields =>
    let (key, entity) := Repositories.identify s.fresh fields
    { s.issue with repositories := (s.repositories.put repository key entity).2 }
  | _ => s

/-- A new event with a fresh id. -/
def newEvent (s : Services) (type : String) (payload : Value) : Event × Services :=
  ({ id := s.fresh, type, payload := Event.wrap payload, createdAt := s.now }, s.issue)

end Services

end FeatureFlow
