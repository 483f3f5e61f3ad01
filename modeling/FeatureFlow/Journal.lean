import FeatureFlow.Event

/-! The journal keeps dispatched events under consecutive numbers. -/
namespace FeatureFlow

structure JournalEntry where
  seq : Int64
  recordedAt : Timestamp
  event : Event

structure Journal where
  /-- The number of the next entry. -/
  next : Int64 := 1
  entries : List JournalEntry := []

namespace Journal

/-- Adds an entry, which is also returned. -/
def record (j : Journal) (now : Timestamp) (e : Event) : JournalEntry × Journal :=
  let entry : JournalEntry := ⟨j.next, now, e⟩
  (entry, ⟨j.next + 1, j.entries ++ [entry]⟩)

def events (j : Journal) : List Event := j.entries.map (·.event)

def ofType (j : Journal) (type : String) : List Event := j.events.filter (·.type = type)

def types (j : Journal) : List String := j.events.map (·.type)

end Journal

end FeatureFlow
