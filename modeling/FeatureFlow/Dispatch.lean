import FeatureFlow.Event

/-! Dispatch: an emission is routed, then all that its handlers emitted, and so on level by level up
to a limit. -/
namespace FeatureFlow

structure Subscription where
  type : String
  guards : List Guard
  featureSet : String

namespace Subscription

def accepts (s : Subscription) (e : Event) : Bool :=
  s.type == e.type && Guard.allAccept s.guards e.payload

/-- The subscriptions that accept an event, in the order they were made. -/
def subscribers (subscriptions : List Subscription) (e : Event) : List Subscription :=
  subscriptions.filter (·.accepts e)

def parse (type guard featureSet : String) : Except GuardError Subscription :=
  (Guard.parse guard).map (⟨type, ·, featureSet⟩)

end Subscription

structure Report where
  /-- Emissions that were routed. -/
  dispatched : Nat := 0
  /-- Emissions beyond the limit. -/
  dropped : Nat := 0
  deriving Repr, DecidableEq

namespace Dispatch

/-- How many levels below the first are routed unless something else is asked for. -/
def defaultLimit : Nat := 32

/-- Numbers compared from the first on. -/
def Backlog : Nat → Type
  | 0 => Nat
  | levels + 1 => Nat × Backlog levels

/-- Every descent ends, however much is added behind the place that went down. -/
instance Backlog.descent : (levels : Nat) → WellFoundedRelation (Backlog levels)
  | 0 => Nat.lt_wfRel
  | levels + 1 => Prod.lex Nat.lt_wfRel (descent levels)

/-- How many of a queue stand at each of so many depths from `depth` on, and how many are deeper. -/
def backlog (depth : Nat) : (levels : Nat) → List (Emission × Nat) → Backlog levels
  | 0, queue => queue.countP (depth ≤ ·.2)
  | levels + 1, queue => (queue.countP (·.2 = depth), backlog (depth + 1) levels queue)

/-- One of the queue that is too deep leaves it. -/
theorem backlog_drop {depth levels d : Nat} {e : Emission} {queue : List (Emission × Nat)}
    (h : depth + levels ≤ d) :
    (Backlog.descent levels).rel (backlog depth levels queue)
      (backlog depth levels ((e, d) :: queue)) := by
  induction levels generalizing depth with
  | zero =>
    have hc : ((e, d) :: queue).countP (depth ≤ ·.2) = queue.countP (depth ≤ ·.2) + 1 :=
      List.countP_cons_of_pos (by simpa using h)
    simp only [backlog, hc]
    exact Nat.lt_add_one _
  | succ levels ih =>
    have he : d ≠ depth := by omega
    have hc : ((e, d) :: queue).countP (·.2 = depth) = queue.countP (·.2 = depth) :=
      List.countP_cons_of_neg (by simpa using he)
    simp only [backlog, hc]
    exact Prod.Lex.right _ (ih (by omega))

/-- One of the queue gives way to any number a level deeper. -/
theorem backlog_route {depth levels d : Nat} {e : Emission} {queue : List (Emission × Nat)}
    {children : List Emission} (h : depth ≤ d) (hd : d < depth + levels) :
    (Backlog.descent levels).rel (backlog depth levels (queue ++ children.map (·, d + 1)))
      (backlog depth levels ((e, d) :: queue)) := by
  induction levels generalizing depth with
  | zero => omega
  | succ levels ih =>
    have hn : (children.map (·, d + 1)).countP (·.2 = depth) = 0 := by
      rw [List.countP_eq_zero]
      intro x hx
      obtain ⟨c, _, rfl⟩ := List.mem_map.mp hx
      simp only [decide_eq_true_eq]
      omega
    by_cases he : d = depth
    · subst d
      apply Prod.Lex.left
      rw [List.countP_append, hn, List.countP_cons_of_pos (by simp)]
      exact Nat.lt_add_one _
    · have hc : (queue ++ children.map (·, d + 1)).countP (·.2 = depth) =
          ((e, d) :: queue).countP (·.2 = depth) := by
        rw [List.countP_append, hn, List.countP_cons_of_neg (by simpa using he), Nat.add_zero]
      simp only [backlog, hc]
      exact Prod.Lex.right _ (ih (by omega) (by omega))

variable {m : Type → Type} [Monad m] (record : Event → m Unit)
    (route : Emission → m (List Emission))

/-- Records an emission that is an event and routes it; what comes out of it has it for its cause.
-/
def visit (e : Emission) : m (List Emission) := do
  if let .event event := e then record event
  return (← route e).map (·.causedBy e.id)

/-- Works through a queue of emissions, each with its depth below the root. What comes out of one
goes to the back of the queue, a level deeper. -/
def work (limit : Nat) (queue : List (Emission × Nat)) (r : Report) : m Report :=
  match queue with
  | [] => return r
  | (e, depth) :: queue =>
    if limit < depth then work limit queue { r with dropped := r.dropped + 1 }
    else do
      let children ← visit record route e
      work limit (queue ++ children.map (·, depth + 1)) { r with dispatched := r.dispatched + 1 }
termination_by backlog 0 (limit + 1) queue
decreasing_by
  · exact backlog_drop (show 0 + (limit + 1) ≤ depth by omega)
  · exact backlog_route (Nat.zero_le depth) (show depth < 0 + (limit + 1) by omega)

def dispatch (limit : Nat) (root : Emission) : m Report := work record route limit [(root, 0)] {}

end Dispatch

end FeatureFlow
