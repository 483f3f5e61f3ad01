import FeatureFlow.Dispatch
import FeatureFlow.Journal

/-! Dispatch goes level by level. The queue is always the rest of one level followed by what its
routed part gave, so the depths in it never differ by more than one. -/
namespace FeatureFlow.Dispatch

section Expansion

variable {m : Type → Type} [Monad m] (record : Event → m Unit)
    (route : Emission → m (List Emission))

/-- Routes a level from left to right; all that comes out of it, in that order, is the next one. -/
def visitAll : List Emission → m (List Emission)
  | [] => return []
  | e :: level => do
    let children ← visit record route e
    let rest ← visitAll level
    return children ++ rest

/-- Routes so many levels, and drops the one after them. -/
def expand : Nat → List Emission → Report → m Report
  | 0, level, r => return { r with dropped := r.dropped + level.length }
  | levels + 1, level, r => do
    let next ← visitAll record route level
    expand levels next { r with dispatched := r.dispatched + level.length }

def atDepth (depth : Nat) (level : List Emission) : List (Emission × Nat) := level.map (·, depth)

variable {record route} {limit depth : Nat}

theorem work_too_deep (h : limit < depth) (level : List Emission) (r : Report) :
    work record route limit (atDepth depth level) r =
      pure { r with dropped := r.dropped + level.length } := by
  induction level generalizing r with
  | nil => rw [atDepth, List.map_nil, work]; rfl
  | cons e level ih =>
    rw [atDepth, List.map_cons, work, if_pos h, ← atDepth, ih]
    simp only [List.length_cons]
    congr 2
    omega

/-- The queue invariant: what is left of a level stands before what its routed part gave. -/
theorem work_level [LawfulMonad m] (h : depth ≤ limit) (front back : List Emission) (r : Report) :
    work record route limit (atDepth depth front ++ atDepth (depth + 1) back) r = (do
      let next ← visitAll record route front
      work record route limit (atDepth (depth + 1) (back ++ next))
        { r with dispatched := r.dispatched + front.length }) := by
  induction front generalizing back r with
  | nil => simp [atDepth, visitAll]
  | cons e front ih =>
    have hq (children : List Emission) :
        atDepth depth front ++ atDepth (depth + 1) back ++ children.map (·, depth + 1) =
          atDepth depth front ++ atDepth (depth + 1) (back ++ children) := by
      simp [atDepth]
    have hn : ¬ limit < depth := by omega
    rw [atDepth, List.map_cons, ← atDepth, List.cons_append, work, if_neg hn]
    simp only [hq, ih, visitAll, bind_assoc, pure_bind, List.length_cons, List.append_assoc,
      Nat.add_assoc, Nat.add_comm 1]

/-- The loop over the queue is the expansion by levels. -/
theorem work_eq_expand [LawfulMonad m] (levels : Nat) (h : depth + levels = limit + 1)
    (level : List Emission) (r : Report) :
    work record route limit (atDepth depth level) r = expand record route levels level r := by
  induction levels generalizing depth level r with
  | zero => exact work_too_deep (by omega) level r
  | succ levels ih =>
    have hq : atDepth depth level = atDepth depth level ++ atDepth (depth + 1) [] := by
      simp [atDepth]
    rw [hq, work_level (by omega), expand]
    congr 1
    funext next
    exact ih (by omega) next _

theorem dispatch_eq_expand [LawfulMonad m] (root : Emission) :
    dispatch record route limit root = expand record route (limit + 1) [root] {} :=
  work_eq_expand (limit + 1) (Nat.zero_add _) [root] {}

end Expansion

section Observation

variable {σ : Type} (route : Emission → σ → List Emission × σ) (now : σ → Timestamp)

/-- A router's own state, the journal, and the calls of the router with their answers. -/
structure Session (σ : Type) where
  state : σ
  journal : Journal
  calls : List (Emission × List Emission) := []

def Session.record (e : Event) : StateM (Session σ) Unit :=
  modify fun w => { w with journal := (w.journal.record (now w.state) e).2 }

def Session.observe (e : Emission) : StateM (Session σ) (List Emission) := modifyGet fun w =>
  let (children, state) := route e w.state
  (children, { w with state, calls := w.calls ++ [(e, children)] })

/-- All that routing a level returns, each with the emission it came from for its cause; the state
goes from left to right. -/
def descendants : List Emission → σ → List Emission × σ
  | [], s => ([], s)
  | e :: level, s =>
    let (children, s) := route e s
    let (rest, s) := descendants level s
    (children.map (·.causedBy e.id) ++ rest, s)

/-- The levels below a first one, each with the state in which its routing begins. -/
def level (first : List Emission) (s : σ) : Nat → List Emission × σ
  | 0 => (first, s)
  | k + 1 => descendants route (level first s k).1 (level first s k).2

/-- The emissions of the first levels in order. -/
def upTo (first : List Emission) (s : σ) (levels : Nat) : List Emission :=
  (List.range levels).flatMap fun k => (level route first s k).1

def eventsOf (emissions : List Emission) : List Event :=
  emissions.filterMap fun
    | .event e => some e
    | _ => none

/-- Entries for these events were added, numbered on from where the journal stood. -/
def Recorded (before after : Journal) (events : List Event) : Prop :=
  ∃ added, after.entries = before.entries ++ added ∧ added.map (·.event) = events ∧
    added.map (·.seq) = (List.range events.length).map (before.next + Int64.ofNat ·) ∧
    after.next = before.next + Int64.ofNat events.length

/-- Between two sessions these emissions were routed, in that order, and the events among them
recorded; the calls returned so many emissions. -/
structure Routed (before after : Session σ) (emissions : List Emission) (returned : Nat) :
    Prop where
  calls : ∃ calls, after.calls = before.calls ++ calls ∧ calls.map (·.1) = emissions ∧
    (calls.flatMap (·.2)).length = returned
  journal : Recorded before.journal after.journal (eventsOf emissions)

theorem recorded_nothing (j : Journal) : Recorded j j [] := ⟨[], by simp⟩

theorem recorded_one (j : Journal) (t : Timestamp) (e : Event) : Recorded j (j.record t e).2 [e] :=
  ⟨[(j.record t e).1], by simp [Journal.record]⟩

theorem Recorded.trans {j j' j'' : Journal} {events events' : List Event} (h : Recorded j j' events)
    (h' : Recorded j' j'' events') : Recorded j j'' (events ++ events') := by
  obtain ⟨added, he, hv, hs, hn⟩ := h
  obtain ⟨added', he', hv', hs', hn'⟩ := h'
  refine ⟨added ++ added', ?_, ?_, ?_, ?_⟩
  · rw [he', he, List.append_assoc]
  · rw [List.map_append, hv, hv']
  · rw [List.map_append, hs, hs', hn, List.length_append, List.range_add, List.map_append,
      List.map_map]
    congr 1
    apply List.map_congr_left
    intro i _
    simp only [Function.comp_apply, Int64.ofNat_add, Int64.add_assoc]
  · rw [hn', hn, List.length_append, Int64.ofNat_add, Int64.add_assoc]

theorem routed_nothing (w : Session σ) : Routed w w [] 0 :=
  ⟨⟨[], by simp⟩, recorded_nothing w.journal⟩

theorem Routed.trans {w w' w'' : Session σ} {emissions emissions' : List Emission} {n n' : Nat}
    (h : Routed w w' emissions n) (h' : Routed w' w'' emissions' n') :
    Routed w w'' (emissions ++ emissions') (n + n') := by
  obtain ⟨⟨calls, hc, hm, hl⟩, hj⟩ := h
  obtain ⟨⟨calls', hc', hm', hl'⟩, hj'⟩ := h'
  refine ⟨⟨calls ++ calls', ?_, ?_, ?_⟩, ?_⟩
  · rw [hc', hc, List.append_assoc]
  · rw [List.map_append, hm, hm']
  · rw [List.flatMap_append, List.length_append, hl, hl']
  · rw [eventsOf, List.filterMap_append]
    exact hj.trans hj'

theorem run_bind {α β γ : Type} {x : StateM γ α} {f : α → StateM γ β} {w w' : γ} {a : α}
    (h : x.run w = (a, w')) : (x >>= f).run w = (f a).run w' := by
  rw [StateT.run_bind, h]
  rfl

/-- One step: a call of the router, and before it a record if the emission is an event. -/
theorem visit_run (e : Emission) (w : Session σ) :
    ∃ w', (visit (Session.record now) (Session.observe route) e).run w =
        ((route e w.state).1.map (·.causedBy e.id), w') ∧
      w'.state = (route e w.state).2 ∧ Routed w w' [e] (route e w.state).1.length := by
  cases e with
  | event event =>
    refine ⟨_, rfl, rfl, ⟨[(.event event, (route (.event event) w.state).1)], rfl, rfl,
      by simp⟩, ?_⟩
    exact recorded_one w.journal (now w.state) event
  | change c =>
    exact ⟨_, rfl, rfl, ⟨[(.change c, (route (.change c) w.state).1)], rfl, rfl, by simp⟩,
      recorded_nothing _⟩
  | state t =>
    exact ⟨_, rfl, rfl, ⟨[(.state t, (route (.state t) w.state).1)], rfl, rfl, by simp⟩,
      recorded_nothing _⟩

theorem visitAll_run (front : List Emission) (w : Session σ) :
    ∃ w', (visitAll (Session.record now) (Session.observe route) front).run w =
        ((descendants route front w.state).1, w') ∧
      w'.state = (descendants route front w.state).2 ∧
      Routed w w' front (descendants route front w.state).1.length := by
  induction front generalizing w with
  | nil => exact ⟨w, rfl, rfl, routed_nothing w⟩
  | cons e front ih =>
    obtain ⟨w₁, hv, hs, hr⟩ := visit_run route now e w
    obtain ⟨w₂, hv', hs', hr'⟩ := ih w₁
    rw [hs] at hv' hs' hr'
    refine ⟨w₂, ?_, hs', ?_⟩
    · rw [visitAll, run_bind hv, run_bind hv']
      rfl
    · simpa [descendants] using hr.trans hr'

/-- The levels below a first one are that one and the levels below the second. -/
theorem level_succ (first : List Emission) (s : σ) (k : Nat) :
    level route first s (k + 1) =
      level route (descendants route first s).1 (descendants route first s).2 k := by
  induction k with
  | zero => rfl
  | succ k ih => rw [level, ih, level]

theorem upTo_succ (first : List Emission) (s : σ) (levels : Nat) :
    upTo route first s (levels + 1) =
      first ++ upTo route (descendants route first s).1 (descendants route first s).2 levels := by
  simp only [upTo, List.range_succ_eq_map, List.flatMap_cons, List.flatMap_map, level_succ]
  rfl

/-- A whole run: all of the levels are routed, the one after them is only counted, and what is
counted is the first level together with all that the calls returned. -/
theorem expand_run (levels : Nat) (first : List Emission) (r : Report) (w : Session σ) :
    ∃ r' w' returned, (expand (Session.record now) (Session.observe route) levels first r).run w =
      (r', w') ∧
      w'.state = (level route first w.state levels).2 ∧
      Routed w w' (upTo route first w.state levels) returned ∧
      r'.dispatched = r.dispatched + (upTo route first w.state levels).length ∧
      r'.dropped = r.dropped + (level route first w.state levels).1.length ∧
      (upTo route first w.state levels).length + (level route first w.state levels).1.length =
        first.length + returned := by
  induction levels generalizing first r w with
  | zero => exact ⟨_, w, 0, rfl, rfl, routed_nothing w, rfl, rfl, Nat.zero_add _⟩
  | succ levels ih =>
    obtain ⟨w₁, hv, hs, hr⟩ := visitAll_run route now first w
    obtain ⟨r', w₂, returned, he, hs', hr', hd, hp, hc⟩ := ih (descendants route first w.state).1
      { r with dispatched := r.dispatched + first.length } w₁
    rw [hs] at hs' hr' hd hp hc
    refine ⟨r', w₂, (descendants route first w.state).1.length + returned, ?_, ?_, ?_, ?_, ?_, ?_⟩
    · rw [expand, run_bind hv, he]
    · rw [hs', level_succ]
    · rw [upTo_succ]
      exact hr.trans hr'
    · rw [hd, upTo_succ, List.length_append, ← Nat.add_assoc]
    · rw [hp, level_succ]
    · rw [level_succ, upTo_succ, List.length_append]
      omega

/-- Dispatch expands the root level by level, whatever the router returns: the calls of the router
are the levels up to the limit in order, the journal gets the events among them, and the level after
these is dropped. -/
theorem dispatch_by_levels (limit : Nat) (root : Emission) (s : σ) (journal : Journal) :
    ∃ report after, (dispatch (Session.record now) (Session.observe route) limit root).run
        { state := s, journal } = (report, after) ∧
      after.state = (level route [root] s (limit + 1)).2 ∧
      after.calls.map (·.1) = upTo route [root] s (limit + 1) ∧
      report.dispatched = (upTo route [root] s (limit + 1)).length ∧
      report.dropped = (level route [root] s (limit + 1)).1.length ∧
      report.dispatched + report.dropped = 1 + (after.calls.flatMap (·.2)).length ∧
      Recorded journal after.journal (eventsOf (upTo route [root] s (limit + 1))) := by
  rw [dispatch_eq_expand]
  obtain ⟨report, after, returned, he, hs, ⟨⟨calls, hc, hm, hl⟩, hj⟩, hd, hp, ha⟩ :=
    expand_run route now (limit + 1) [root] {} { state := s, journal }
  rw [List.nil_append] at hc
  subst hc
  have hd' : report.dispatched = (upTo route [root] s (limit + 1)).length := by simpa using hd
  have hp' : report.dropped = (level route [root] s (limit + 1)).1.length := by simpa using hp
  refine ⟨report, after, he, hs, hm, hd', hp', ?_, hj⟩
  rw [hd', hp', ha, hl, List.length_singleton]

end Observation

end FeatureFlow.Dispatch
