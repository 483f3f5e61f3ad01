import FeatureFlow.Proofs.Requests

/-! The chronicle of a call: a second dispatcher does what the first one does and writes down each
act with its depth below the emission it began with. The acts of one dispatch go down level by
level, and each level is what the handlers of the level above gave out. -/
namespace FeatureFlow

/-- A task that settles ends, with what it is seen to end with. -/
theorem Task.exists_of_settle {α β : Type} {t : Task α} {limit : Nat} {look : Services → α → β}
    {b : β} (h : (t.settle limit).2.map (look (t.settle limit).1) = some b) :
    ∃ s a, Task.Ends anything t s a ∧ look s a = b := by
  obtain ⟨s, a, hends, hlook⟩ := exists_passing_of_settle h
  exact ⟨s, a, hends.anything, hlook⟩

namespace Engine

/-- What is done to an emission. -/
inductive Act where
  | record (event : Event)
  | route (v : Visit)

/-- An act for an emission that stands so deep. -/
structure Deed where
  depth : Nat
  act : Act

/-- Writes down each act for emissions of this depth. -/
def Recorder.deeds (depth : Nat) : Recorder Deed :=
  ⟨fun event => [⟨depth, .record event⟩], fun v => [⟨depth, .route v⟩]⟩

/-- The acts for one emission: an event is recorded before it is routed. -/
def Visit.deeds (depth : Nat) (v : Visit) : List Deed := (Recorder.deeds depth).entries v

def chronicle (e : Engine) (root : Emission) : Process (Report × List Deed) :=
  e.recount Recorder.deeds root

/-- The chronicle of so many levels, from one of this depth on: a level is routed from left to
right, and what its handlers gave out is the next one. -/
inductive Unfolds (e : Engine) : Nat → Nat → List Emission → List Deed → Prop where
  | cut {depth : Nat} {level : List Emission} : Unfolds e depth 0 level []
  | level {depth levels : Nat} {visits : List Visit} {log : List Deed}
      (made : ∀ v ∈ visits, v.Made e)
      (below : Unfolds e (depth + 1) levels (visits.flatMap (·.children)) log) :
      Unfolds e depth (levels + 1) (visits.map (·.emission)) (visits.flatMap (·.deeds depth) ++ log)

section Descent

variable {others : Services → Services → Prop} {e : Engine} {s s' : Services} {log log' : List Deed}
  {depth levels : Nat}

/-- All levels. -/
theorem ends_descend {level : List Emission} {r r' : Report}
    (h : Task.Ends others ((e.descend Recorder.deeds depth levels level r).run log s) s'
      (r', log')) :
    ∃ added, log' = log ++ added ∧ Unfolds e depth levels level added := by
  induction levels generalizing depth level r log s with
  | zero =>
    obtain ⟨-, heq⟩ := ends_run_pure.mp h
    cases heq
    exact ⟨[], (List.append_nil _).symm, .cut⟩
  | succ levels ih =>
    obtain ⟨s₁, next, log₁, hlevel, hrest⟩ := ends_run_bind.mp h
    obtain ⟨visits, hmade, rfl, rfl, rfl⟩ := Recorder.ends_visitAll hlevel
    obtain ⟨added, rfl, hbelow⟩ := ih hrest
    exact ⟨_, List.append_assoc .., .level hmade hbelow⟩

theorem ends_chronicle {root : Emission} {report : Report}
    (h : Task.Ends others (e.chronicle root s) s' (report, log)) :
    Unfolds e 0 (e.limits.cascade + 1) [root] log := by
  obtain ⟨added, hlog, hunfolds⟩ := ends_descend h
  rw [List.nil_append] at hlog
  exact hlog ▸ hunfolds

theorem Visit.route_mem_deeds (depth : Nat) (v : Visit) : ⟨depth, .route v⟩ ∈ v.deeds depth := by
  unfold deeds Recorder.entries
  split <;> simp [Recorder.deeds]

theorem Visit.depth_of_mem_deeds {v : Visit} {deed : Deed} (h : deed ∈ v.deeds depth) :
    deed.depth = depth := by
  unfold deeds Recorder.entries at h
  split at h <;> simp [Recorder.deeds] at h
  · rcases h with rfl | rfl <;> rfl
  · rw [h]

namespace Unfolds

variable {level : List Emission}

theorem depth_le (h : Unfolds e depth levels level log) : ∀ deed ∈ log, depth ≤ deed.depth := by
  induction h with
  | cut => simp
  | level _ _ ih =>
    intro deed hdeed
    rcases List.mem_append.mp hdeed with hdeed | hdeed
    · obtain ⟨v, -, hv⟩ := List.mem_flatMap.mp hdeed
      exact Nat.le_of_eq (Visit.depth_of_mem_deeds hv).symm
    · have := ih deed hdeed
      omega

/-- No act comes before one that is less deep. -/
theorem sorted (h : Unfolds e depth levels level log) : log.Pairwise (·.depth ≤ ·.depth) := by
  induction h with
  | cut => exact .nil
  | @level depth levels visits log _ below ih =>
    have hlevel : ∀ deed ∈ visits.flatMap (·.deeds depth), deed.depth = depth := by
      intro deed hdeed
      obtain ⟨v, -, hv⟩ := List.mem_flatMap.mp hdeed
      exact Visit.depth_of_mem_deeds hv
    refine List.pairwise_append.mpr ⟨?_, ih, ?_⟩
    · apply List.pairwise_of_forall_mem_list
      intro a ha b hb
      have hda := hlevel a ha
      have hdb := hlevel b hb
      omega
    · intro a ha b hb
      have hda := hlevel a ha
      have hdb := below.depth_le b hb
      omega

end Unfolds

end Descent

/-- The run that a call started, and for each of its emissions the chronicle of its dispatch. -/
abbrev Story := Account (Emission × List Deed)

/-- All acts, in the order they were done. -/
def Story.log (story : Story) : List Deed := story.cascades.flatMap (·.2)

inductive Call where
  | invoke (name : String) (input : Value)
  | request (request : Request)
  | start
  | shutdown (success : Bool)

def tell (e : Engine) : FeatureSet → Trigger → Option Nat → Process Story :=
  e.serve fun emission => return (emission, (← e.chronicle emission).2)

/-- The feature sets that a call runs itself, each with its trigger once that has an id. -/
def launches (e : Engine) : Call → List (FeatureSet × (Uuid → Trigger))
  | .invoke name input => (e.featureSet? name).toList.map (·, (.invocation · input))
  | .request request => match e.ruling request with
    | .refuse _ => []
    | .run f operation captures => [(f, (.http · request operation captures))]
  | .start => (e.featureSet? Activity.startName).toList.map (·, (.lifecycle · .start))
  | .shutdown success => (e.endHandlers.filter (concerns success)).map (·, (.lifecycle · .end_))

/-- When the runs of a call have to end. -/
def deadlineFor (e : Engine) : Call → Process (Option Nat)
  | .invoke .. | .request _ => e.deadline
  | .start | .shutdown _ => return none

/-- What a call does before it runs anything. -/
def Call.prepare : Call → Process Unit
  | .shutdown _ => Process.modify Services.signalShutdown
  | .invoke .. | .request _ | .start => return ()

def tellAll (e : Engine) (deadline : Process (Option Nat)) :
    List (FeatureSet × (Uuid → Trigger)) → Process (List Story)
  | [] => return []
  | launch :: launches => do
    let id ← freshId
    let story ← e.tell launch.1 (launch.2 id) (← deadline)
    let rest ← e.tellAll deadline launches
    return story :: rest

/-- The runs that a call starts itself, in order. -/
def stories (e : Engine) (call : Call) : Process (List Story) := do
  call.prepare
  e.tellAll (e.deadlineFor call) (e.launches call)

/-- The first failure among the runs. -/
def failureOf (told : List Story) : Except ExecutionError Unit :=
  told.forM fun story => story.handling.finished.result.map fun _ => ()

/-- The answer to a request, which is refused if nothing ran. -/
def replyTo (e : Engine) (request : Request) : List Story → HttpResponse
  | story :: _ => answer story.handling.finished
  | [] => match e.ruling request with
    | .refuse response => response
    | .run _ operation _ => .error 500 s!"no handler for {operation}"

theorem fire_eq_tell (e : Engine) (f : FeatureSet) (t : Trigger) (deadline : Option Nat) :
    e.fire f t deadline = (·.handling.finished) <$> e.tell f t deadline :=
  fire_eq_serve (fun emission => e.discard_notify Recorder.deeds (emission, ·) emission) f
    t deadline

theorem invoke_eq_stories (e : Engine) (name : String) (input : Value) :
    e.invoke name input = (fun told => told.head?.map (·.handling.finished)) <$> e.stories
      (.invoke name input) := by
  rw [invoke, stories, launches, Call.prepare]
  cases e.featureSet? name with
  | none => rfl
  | some f =>
    simp only [Option.toList_some, List.map_cons, List.map_nil, tellAll, fire_eq_tell,
      map_bind, map_pure,
      bind_map_left, pure_bind]
    rfl

theorem handle_eq_stories (e : Engine) (request : Request) :
    e.handle request = e.replyTo request <$> e.stories (.request request) := by
  rw [handle_eq_follow, stories, launches, Call.prepare]
  cases hr : e.ruling request with
  | refuse response =>
    simp only [tellAll, map_pure, pure_bind, replyTo, hr]
    rfl
  | run f operation captures =>
    simp only [follow, tellAll, fire_eq_tell, map_bind, map_pure, bind_map_left, pure_bind]
    rfl

theorem failureOf_cons (story : Story) (rest : List Story) :
    failureOf (story :: rest) = (story.handling.finished.result.map fun _ => ()) >>= fun _ =>
      failureOf rest :=
  List.forM_cons ..

theorem start_eq_stories (e : Engine) : e.start = failureOf <$> e.stories .start := by
  rw [start, stories, launches, Call.prepare]
  cases e.featureSet? Activity.startName with
  | none => rfl
  | some f =>
    have hresult : ∀ story : Story, failureOf [story] = story.handling.finished.result.map
        fun _ => () := by
      intro story
      rw [failureOf_cons]
      cases story.handling.finished.result <;> rfl
    simp only [Option.toList_some, List.map_cons, List.map_nil, tellAll, deadlineFor, lifecycle,
      fire_eq_tell, map_bind,
      map_pure, bind_map_left, pure_bind, hresult]

theorem finish_cons (e : Engine) (f : FeatureSet) (fs : List FeatureSet) :
    e.finish (f :: fs) = do
      let result ← e.lifecycle f .end_
      let rest ← e.finish fs
      return result >>= fun _ => rest := by
  rw [finish]
  refine bind_congr fun result => bind_congr fun rest => ?_
  cases result <;> rfl

theorem finish_eq_tellAll (e : Engine) (fs : List FeatureSet) :
    e.finish fs = failureOf <$> e.tellAll (pure none) (fs.map (·, (.lifecycle · .end_))) := by
  induction fs with
  | nil => rfl
  | cons f fs ih =>
    simp only [finish_cons, List.map_cons, tellAll, lifecycle, fire_eq_tell, ih, map_bind, map_pure,
      bind_map_left,
      bind_assoc, pure_bind, failureOf_cons]

theorem shutdown_eq_stories (e : Engine) (success : Bool) :
    e.shutdown success = failureOf <$> e.stories (.shutdown success) := by
  rw [shutdown, finish_eq_tellAll, stories, map_bind]
  rfl

/-- The chronicles are kept beside what is done anyway: each call gives what it gives without them.
-/
structure Chronicled (e : Engine) : Prop where
  notify : ∀ root, e.notify root = Prod.fst <$> e.chronicle root
  publish : ∀ type payload, e.publish type payload = do
    let event ← newEvent type payload
    Prod.fst <$> e.chronicle (.event event)
  invoke : ∀ name input, e.invoke name input =
    (fun told => told.head?.map (·.handling.finished)) <$> e.stories (.invoke name input)
  handle : ∀ request, e.handle request = e.replyTo request <$> e.stories (.request request)
  start : e.start = failureOf <$> e.stories .start
  shutdown : ∀ success, e.shutdown success = failureOf <$> e.stories (.shutdown success)

theorem chronicled (e : Engine) : Chronicled e where
  notify := e.notify_eq_recount Recorder.deeds
  publish type payload := by simp only [publish, e.notify_eq_recount Recorder.deeds, chronicle]
  invoke := e.invoke_eq_stories
  handle := e.handle_eq_stories
  start := e.start_eq_stories
  shutdown := e.shutdown_eq_stories

/-- The story is one that the engine can make: a run, and the dispatch of each of its emissions in
turn. -/
structure Story.Told (e : Engine) (story : Story) : Prop where
  handled : ∃ deadline s s', Handled anything e deadline s story.handling s'
  emissions : story.cascades.map (·.1) = story.handling.emissions
  unfolds : ∀ c ∈ story.cascades, Unfolds e 0 (e.limits.cascade + 1) [c.1] c.2

variable {others : Services → Services → Prop} {e : Engine} {s s' : Services}

theorem ends_tell {f : FeatureSet} {t : Trigger} {deadline : Option Nat} {story : Story}
    (h : Task.Ends others (e.tell f t deadline s) s' story) :
    story.handling.featureSet = f ∧ story.handling.trigger = t ∧ story.Told e := by
  obtain ⟨hf, ht, ⟨_, hhandled⟩, hemissions, hunfolds⟩ := ends_serve Prod.fst id
    (fun c : Emission × List Deed => Unfolds e 0 (e.limits.cascade + 1) [c.1] c.2)
    (by
      intro root s s' kept h
      obtain ⟨s₁, told, hchronicle, hd⟩ := Task.ends_bind.mp h
      obtain ⟨-, rfl⟩ := Task.ends_done.mp hd
      exact ⟨rfl, ends_chronicle hchronicle⟩) h.anything
  rw [List.map_id] at hemissions
  exact ⟨hf, ht, ⟨_, _, _, hhandled⟩, hemissions, hunfolds⟩

/-- The stories of a call are those of the feature sets it runs, each with its own trigger. -/
theorem ends_tellAll {deadline : Process (Option Nat)}
    {launches : List (FeatureSet × (Uuid → Trigger))} {told : List Story}
    (h : Task.Ends others (e.tellAll deadline launches s) s' told) :
    told.map (·.handling.featureSet) = launches.map (·.1) ∧
      ∀ story ∈ told, story.Told e ∧ ∃ launch ∈ launches, ∃ id,
        story.handling.trigger = launch.2 id := by
  induction launches generalizing s told with
  | nil =>
    obtain ⟨-, rfl⟩ := Task.ends_done.mp h
    exact ⟨rfl, by simp⟩
  | cons launch launches ih =>
    obtain ⟨s₁, id, -, htail⟩ := Task.ends_bind.mp h
    obtain ⟨s₂, limit, -, htail⟩ := Task.ends_bind.mp htail
    obtain ⟨s₃, story, hstory, htail⟩ := Task.ends_bind.mp htail
    obtain ⟨s₄, rest, hrest, hd⟩ := Task.ends_bind.mp htail
    obtain ⟨rfl, rfl⟩ := Task.ends_done.mp hd
    obtain ⟨hf, ht, htold⟩ := ends_tell hstory
    obtain ⟨hfs, hall⟩ := ih hrest
    refine ⟨by rw [List.map_cons, List.map_cons, hf, hfs], List.forall_mem_cons.mpr ⟨?_, ?_⟩⟩
    · exact ⟨htold, launch, List.mem_cons_self, id, ht⟩
    · intro other hother
      obtain ⟨htold, l, hl, hid⟩ := hall other hother
      exact ⟨htold, l, List.mem_cons_of_mem launch hl, hid⟩

theorem ends_stories {call : Call} {told : List Story}
    (h : Task.Ends others (e.stories call s) s' told) :
    told.map (·.handling.featureSet) = (e.launches call).map (·.1) ∧
      ∀ story ∈ told, story.Told e ∧ ∃ launch ∈ e.launches call, ∃ id,
        story.handling.trigger = launch.2 id := by
  obtain ⟨s₁, _, -, htail⟩ := Task.ends_bind.mp h
  exact ends_tellAll htail

end Engine

end FeatureFlow
