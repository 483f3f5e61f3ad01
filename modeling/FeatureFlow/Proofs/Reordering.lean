import FeatureFlow.Proofs.Cascade
import FeatureFlow.Proofs.Timing

/-! The order of handlers. Feature sets that publish, store and wait for nothing take nothing from
one another but time. As long as all of them are done before their deadline, each does what it would
do alone, up to the ids that it is given and the times that it sees, so their order shows in the
order of what they emit and nowhere else. -/
namespace FeatureFlow

/-- The emission without its id and the time it was made. What caused it stays. -/
def Emission.blank : Emission → Emission
  | event e => event { e with id := ⟨0⟩, createdAt := ⟨0, 0⟩ }
  | change c => change { c with id := ⟨0⟩ }
  | state t => state { t with id := ⟨0⟩ }

theorem Emission.blank_causedBy (parent : Uuid) (e : Emission) :
    (e.causedBy parent).blank = e.blank.causedBy parent := by
  cases e <;> rfl

/-- Two states that differ at most in the time, in what was logged, in how many ids were given out
and in whether a value could not be given its shape. -/
structure Services.Kept (s s' : Services) : Prop where
  symbols : s'.symbols = s.symbols
  repositories : s'.repositories = s.repositories
  servers : s'.servers = s.servers
  shuttingDown : s'.shuttingDown = s.shuttingDown
  journal : s'.journal = s.journal

/-- So do two states that differ in this way from a third one. -/
theorem Services.Kept.between {s₀ s s' : Services} (h : s₀.Kept s) (h' : s₀.Kept s') :
    s.Kept s' where
  symbols := h'.symbols.trans h.symbols.symm
  repositories := h'.repositories.trans h.repositories.symm
  servers := h'.servers.trans h.servers.symm
  shuttingDown := h'.shuttingDown.trans h.shuttingDown.symm
  journal := h'.journal.trans h.journal.symm

/-- The states of two runs that have both kept the state they started from. The second started
without a crash, and the first with one or not. -/
structure Services.Beside (s₀ : Services) (crashed : Bool) (timed : Prop) (s t : Services) :
    Prop where
  left : s₀.Kept s
  right : s₀.Kept t
  crashed : s.crashed = (crashed || t.crashed)
  /-- Where it is asked for, the time is the same. -/
  time : timed → s.clock = t.clock ∧ s.delays = t.delays

namespace Services.Beside

variable {s₀ s t : Services} {crashed : Bool} {timed : Prop}

theorem issue (h : Beside s₀ crashed timed s t) : Beside s₀ crashed timed s.issue t.issue :=
  { h with left := { h.left with }, right := { h.right with } }

theorem write (h : Beside s₀ crashed timed s t) (line line' : LogLine) :
    Beside s₀ crashed timed (s.write line) (t.write line') :=
  { h with left := { h.left with }, right := { h.right with } }

theorem elapse (h : Beside s₀ crashed timed s t) : Beside s₀ crashed timed s.elapse t.elapse where
  left := { h.left with }
  right := { h.right with }
  crashed := h.crashed
  time htimed := by
    obtain ⟨hclock, hdelays⟩ := h.time htimed
    rw [Services.elapse, Services.elapse, hclock, hdelays]
    exact ⟨rfl, rfl⟩

theorem crash (h : Beside s₀ crashed timed s t) (now : Bool) :
    Beside s₀ crashed timed (s.crash now) (t.crash now) where
  left := { h.left with }
  right := { h.right with }
  crashed := by
    rw [Services.crash, Services.crash, h.crashed, Bool.or_assoc]
  time := h.time

end Services.Beside

/-- Runs that never wait, side by side. If time passes differently they have no deadline. -/
def Correspondence.quiet (s₀ : Services) (crashed : Bool) (timed : Prop) : Correspondence where
  scope := Eq
  outbox o o' := o.map Emission.blank = o'.map Emission.blank
  shared := s₀.Beside crashed timed
  waiting _ _ := False
  deadline d := timed ∨ d = none
  name h := h ▸ rfl
  find? h := h ▸ rfl
  bind h _ _ := h ▸ rfl
  snapshot h := h ▸ rfl
  child h _ := h ▸ rfl
  symbols h := h.left.symbols.trans h.right.symbols.symm
  elapse h := h.elapse
  late h hd := by
    rcases hd with htimed | rfl
    · rw [(h.time htimed).1]
    · rfl
  crash h now := h.crash now

section Actions

variable {s₀ : Services} {crashed : Bool} {timed : Prop} {α : Type}

/-- Two computations of actions that are alike but for ids and times. -/
abbrev LikeButIds (s₀ : Services) (crashed : Bool) (timed : Prop) (x y : ActionM α) : Prop :=
  let C := Correspondence.quiet s₀ crashed timed
  Like C.shared C.waiting C.outbox x y

theorem blank_newEvent (s t : Services) (type : String) (payload : Value) (causedBy : Option Uuid) :
    (Emission.event { (s.newEvent type payload).1 with causedBy }).blank =
      (Emission.event { (t.newEvent type payload).1 with causedBy }).blank := by
  simp only [Emission.blank, Services.newEvent]

namespace ActionM

theorem eval_like {scope : Scope} {e : Expression} :
    LikeButIds s₀ crashed timed (eval scope e) (eval scope e) := by
  apply Correspondence.like_services_bind
  intro s t hs
  rw [(Correspondence.quiet s₀ crashed timed).symbols hs]
  exact like_ofExcept

theorem resolve_like {scope : Scope} {name : String} :
    LikeButIds s₀ crashed timed (resolve scope name) (resolve scope name) := by
  apply Correspondence.like_services_bind
  intro s t hs
  rw [(Correspondence.quiet s₀ crashed timed).symbols hs]
  exact like_pure

theorem filter_like {scope : Scope} {filter : Option Expression} :
    LikeButIds s₀ crashed timed (filter.mapM (eval scope)) (filter.mapM (eval scope)) := by
  cases filter with
  | none => exact like_pure
  | some e => exact eval_like.bind fun v => like_pure

theorem modifyServices_like {f g : Services → Services}
    (h : ∀ s t, s₀.Beside crashed timed s t → s₀.Beside crashed timed (f s) (g t)) :
    LikeButIds s₀ crashed timed (modifyServices f) (modifyServices g) :=
  fun _ _ s t ho hs => .done (h s t hs) ⟨rfl, ho⟩

theorem emit_like {e e' : Emission} (h : e.blank = e'.blank) :
    LikeButIds s₀ crashed timed (emit e) (emit e') := by
  refine like_modifyGet fun o o' ho => ⟨rfl, ?_⟩
  have ho : o.map Emission.blank = o'.map Emission.blank := ho
  change (o ++ [e]).map Emission.blank = (o' ++ [e']).map Emission.blank
  rw [List.map_append, List.map_append, ho, List.map_singleton, List.map_singleton, h]

theorem freshId_like {f : Uuid → ActionM α}
    (h : ∀ id id', LikeButIds s₀ crashed timed (f id) (f id')) :
    LikeButIds s₀ crashed timed (freshId >>= f) (freshId >>= f) := by
  simp only [freshId, bind_assoc, pure_bind]
  apply Correspondence.like_services_bind
  intro s t _
  exact (modifyServices_like fun s t hs => hs.issue).bind fun _ => h s.fresh t.fresh

end ActionM

namespace Action

open ActionM

variable {scope : Scope} {deadline : Option Nat} {target : Target} {object : Object}

theorem ofValue_like {role : Role} {verbs : List String} {prepositions : List Preposition}
    {f : Target → Value → Except ActionError Outcome} :
    LikeButIds s₀ crashed timed
      ((ofValue role verbs prepositions f).run scope deadline target object)
      ((ofValue role verbs prepositions f).run scope deadline target object) :=
  eval_like.bind fun _ => like_ofExcept

theorem update_like : LikeButIds s₀ crashed timed (update.run scope deadline target object)
    (update.run scope deadline target object) := by
  refine resolve_like.bind fun v => like_ofExcept.bind fun fields => eval_like.bind fun v => ?_
  cases v with
  | map patch => exact like_pure
  | _ => exact like_throw

theorem retrieve_like : LikeButIds s₀ crashed timed (retrieve.run scope deadline target object)
    (retrieve.run scope deadline target object) := by
  refine like_ofExcept.bind fun repository => filter_like.bind fun filter => ?_
  refine Correspondence.like_services_bind fun s t hs => ?_
  rw [hs.left.repositories, hs.right.repositories]
  exact like_ofExcept.bind fun found => like_pure

theorem accept_like : LikeButIds s₀ crashed timed (accept.run scope deadline target object)
    (accept.run scope deadline target object) := by
  refine like_ofExcept.bind fun t => like_ofExcept.bind fun (name, path, field) => ?_
  refine resolve_like.bind fun v => like_ofExcept.bind fun entity => freshId_like fun id id' => ?_
  have hblank : (Emission.state ⟨id, field, t, entity⟩).blank =
      (Emission.state ⟨id', field, t, entity⟩).blank := rfl
  exact (ActionM.emit_like hblank).bind fun _ => like_pure

theorem log_like : LikeButIds s₀ crashed timed (log.run scope deadline target object)
    (log.run scope deadline target object) := by
  refine eval_like.bind fun v => (modifyServices_like ?_).bind fun _ => like_pure
  exact fun s t hs => hs.write _ _

theorem emit_like : LikeButIds s₀ crashed timed (Action.emit.run scope deadline target object)
    (Action.emit.run scope deadline target object) := by
  refine eval_like.bind fun v => Correspondence.like_services_bind fun s t hs => ?_
  refine (modifyServices_like fun _ _ _ => hs.issue).bind fun _ => ?_
  exact (ActionM.emit_like (blank_newEvent s t target.name v none)).bind fun _ => like_pure

/-- The verbs whose actions change what others see, or wait. -/
def outwardVerbs : List String :=
  ["publish", "export", "store", "save", "persist", "start", "stop", "keepalive", "wait"]

/-- The other built-in actions go on alike but for ids and times. -/
theorem quiet_admits {a : Action} (ha : a ∈ Registry.builtinActions) {verb : String}
    (hv : verb ∈ a.verbs) (hquiet : verb ∉ outwardVerbs) :
    (Correspondence.quiet s₀ crashed timed).Admits a := by
  rintro scope _ deadline target object rfl
  simp only [Registry.builtinActions, List.mem_cons, List.not_mem_nil, or_false] at ha
  rcases ha with
    rfl | rfl | rfl | rfl | rfl | rfl | rfl | rfl | rfl | rfl | rfl | rfl | rfl | rfl | rfl
  · exact ofValue_like
  · exact retrieve_like
  · exact ofValue_like
  · exact ofValue_like
  · exact update_like
  · exact accept_like
  · exact ofValue_like
  · exact ofValue_like
  · exact log_like
  · exact Action.emit_like
  · exact absurd ((by simp [publish, outwardVerbs] : publish.verbs ⊆ outwardVerbs) hv) hquiet
  · exact absurd ((by simp [store, outwardVerbs] : store.verbs ⊆ outwardVerbs) hv) hquiet
  · exact absurd ((by simp [start, outwardVerbs] : start.verbs ⊆ outwardVerbs) hv) hquiet
  · exact absurd ((by simp [stop, outwardVerbs] : stop.verbs ⊆ outwardVerbs) hv) hquiet
  · exact absurd ((by simp [keepalive, outwardVerbs] : keepalive.verbs ⊆ outwardVerbs) hv) hquiet

end Action

end Actions

/-- No command of the feature set, at any depth, has an outward verb in whatever letters. -/
def FeatureSet.Quiet (f : FeatureSet) : Prop :=
  ∀ c ∈ f.commands, Registry.lower c.action ∉ Action.outwardVerbs

instance (f : FeatureSet) : Decidable f.Quiet := inferInstanceAs (Decidable (∀ c ∈ f.commands, _))

theorem FeatureSet.Quiet.unwaiting {f : FeatureSet} (h : f.Quiet) :
    (Code.block f.statements).Unwaiting := by
  intro c hc hverb
  exact h c hc ((by decide : Action.keepalive.verbs ⊆ Action.outwardVerbs) hverb)

theorem Process.gather_cons_done {α : Type} {p : Process α} {ps : List (Process α)} {a : α}
    {as : List α} {s s₁ s₂ : Services} (hp : p s = .done s₁ a) (hps : gather ps s₁ = .done s₂ as) :
    gather (p :: ps) s = .done s₂ (a :: as) := by
  have hgather : gather (p :: ps) s =
      ((p s).both (gather ps)).map fun results => results.1 :: results.2 := rfl
  have hboth : (p s).both (gather ps) = (gather ps s₁).map (a, ·) := by
    rw [hp]
    rfl
  rw [hgather, hboth, hps]
  rfl

namespace Engine

variable {s₀ s s' : Services} {e e' : Engine} {f : FeatureSet} {t : Trigger}
  {deadline : Option Nat} {emission : Emission} {crashed : Bool} {timed : Prop}

/-- The run with the ids and times of its emissions left out. -/
def HandlerRun.blank (r : HandlerRun) : HandlerRun :=
  { r with emissions := r.emissions.map Emission.blank }

theorem failureNotice_rel {result : Except ExecutionError (Option Response)}
    (hs : s₀.Beside crashed timed s s') :
    let C := Correspondence.quiet s₀ crashed timed
    Task.Rel C.shared C.waiting C.outbox (failureNotice f t result s)
      (failureNotice f t result s') := by
  cases result with
  | ok r => exact .done hs rfl
  | error cause =>
    rw [failureNotice]
    split
    · exact .done hs rfl
    · refine .done hs.issue (congrArg (fun notice => [notice]) ?_)
      exact blank_newEvent s s' Event.failureType (t.failure f.name cause.message) (some t.id)

theorem handling_rel (t : Trigger) (deadline : Option Nat) (hregistry : e.registry = .builtins)
    (hquiet : f.Quiet) (hdeadline : timed ∨ deadline = none) (hs : s₀.Beside crashed timed s s') :
    let C := Correspondence.quiet s₀ crashed timed
    Task.Rel C.shared C.waiting (fun h h' => h.handlerRun.blank = h'.handlerRun.blank)
      (e.handling f t deadline s) (e.handling f t deadline s') := by
  have hadmits : (Correspondence.quiet s₀ crashed timed).AdmitsAll e.registry f.commands := by
    intro c hc a ha
    rw [hregistry, Registry.get?_builtins] at ha
    exact Action.quiet_admits ha.1 ha.2 (hquiet c hc)
  refine (Correspondence.run_rel hadmits rfl rfl hdeadline hs).bind ?_
  rintro ⟨result, scope, outbox⟩ ⟨result', scope', outbox'⟩ s₁ s₁' ⟨hresult, hout⟩ hs₁
  obtain rfl : result = result' := hresult
  have hout : outbox.map Emission.blank = outbox'.map Emission.blank := hout
  refine (failureNotice_rel hs₁).bind ?_
  rintro notice notice' s₂ s₂' hnotice hs₂
  refine .done hs₂ ?_
  have hnotice : notice.map Emission.blank = notice'.map Emission.blank := hnotice
  have hcaused (es : List Emission) : (es.map (·.causedBy t.id)).map Emission.blank =
      (es.map Emission.blank).map (·.causedBy t.id) := by
    simp [Function.comp_def, Emission.blank_causedBy]
  simp only [HandlerRun.blank, Handling.handlerRun, Handling.emissions, List.map_append, hcaused,
    hout, hnotice]

/-- A quiet handler is done at once, and changes nothing that others see. -/
theorem handling_done (t : Trigger) (deadline : Option Nat) (hregistry : e.registry = .builtins)
    (hquiet : f.Quiet) (hs : s₀.Kept s) :
    ∃ s' h, e.handling f t deadline s = .done s' h ∧ s₀.Kept s' := by
  have hbeside : s₀.Beside false True s s := ⟨hs, hs, rfl, fun _ => ⟨rfl, rfl⟩⟩
  have hrel := handling_rel t deadline hregistry hquiet (.inl trivial) hbeside
  generalize e.handling f t deadline s = x at hrel ⊢
  cases hrel with
  | done hs _ => exact ⟨_, _, rfl, hs.left⟩
  | waiting hs _ => exact hs.elim

theorem handling_unlimited (hregistry : e.registry = .builtins) (hquiet : f.Quiet) {h : Handling}
    (hdone : e.handling f t deadline s = .done s' h) :
    s.clock ≤ s'.clock ∧ (deadline.any (· ≤ s'.clock) = false →
      e.handling f t none s = .done s' h) := by
  have hends : Task.Ends (fun _ _ => False) (e.handling f t deadline s) s' h := hdone ▸ .done
  obtain ⟨s₁, run, hrun, hrest⟩ := Task.ends_bind.mp hends
  obtain ⟨s₂, notice, hnotice, hlast⟩ := Task.ends_bind.mp hrest
  obtain ⟨rfl, -⟩ := Task.ends_done.mp hlast
  have hclock : s'.clock = s₁.clock := by
    rcases (ends_failureNotice hnotice).2 with rfl | rfl <;> rfl
  have hran := hrun.eq_done
  rw [hregistry] at hran
  obtain ⟨hle, hunlimited⟩ := FeatureSet.run_unlimited hquiet.unwaiting hran
  refine ⟨hclock ▸ hle, fun hlate => ?_⟩
  have hran' : f.run e.registry (e.scopeFor f t) none s = .done s₁ run := by
    rw [hregistry]
    exact hunlimited (hclock ▸ hlate)
  exact Task.Ends.eq_done (Task.ends_bind.mpr ⟨s₁, run, hran' ▸ .done, hrest⟩)

/-- What a feature set does for a trigger when it runs alone and without a deadline, up to ids and
times. Nothing comes of it if it crashes. -/
def alone (e : Engine) (t : Trigger) (s : Services) (f : FeatureSet) : Option HandlerRun :=
  let ended := (e.handling f t none { s with crashed := false }).signalled
  if ended.1.crashed then none else some ended.2.handlerRun.blank

theorem handling_alone (hregistry : e.registry = .builtins) (hquiet : f.Quiet) (hs : s₀.Kept s)
    {h : Handling} (hdone : e.handling f t none s = .done s' h) :
    s'.crashed = (s.crashed || (e.alone t s₀ f).isNone) ∧
      (s'.crashed = false → some h.handlerRun.blank = e.alone t s₀ f) := by
  have hbeside : s₀.Beside s.crashed False s { s₀ with crashed := false } :=
    ⟨hs, ⟨rfl, rfl, rfl, rfl, rfl⟩, (Bool.or_false _).symm, False.elim⟩
  have hrel := handling_rel t none hregistry hquiet (.inr rfl) hbeside
  rw [hdone] at hrel
  unfold alone
  generalize e.handling f t none { s₀ with crashed := false } = x at hrel ⊢
  cases hrel with
  | @done _ t' _ _ hs' hblank =>
    rw [hs'.crashed, Task.signalled]
    dsimp only
    cases t'.crashed with
    | false => exact ⟨rfl, fun _ => congrArg some hblank⟩
    | true => exact ⟨rfl, by simp⟩

/-- Handlers have run between these states. If they were done before the deadline, it has crashed
where one of them does so alone, and otherwise each has its own outcome. -/
structure Passed (s₀ : Services) (deadline : Option Nat) (outcomes : List (Option HandlerRun))
    (s s' : Services) (runs : List HandlerRun) : Prop where
  kept : s₀.Kept s'
  clock : s.clock ≤ s'.clock
  crashed : deadline.any (· ≤ s'.clock) = false →
    s'.crashed = (s.crashed || outcomes.any (·.isNone))
  runs : deadline.any (· ≤ s'.clock) = false → s'.crashed = false → runs.map some = outcomes

/-- One handler. -/
theorem handling_passed (t : Trigger) (deadline : Option Nat) (hregistry : e.registry = .builtins)
    (hquiet : f.Quiet) (hs : s₀.Kept s) :
    ∃ s' h, e.handling f t deadline s = .done s' h ∧
      Passed s₀ deadline [e.alone t s₀ f] s s' [h.handlerRun.blank] := by
  obtain ⟨s', h, hdone, hkept⟩ := handling_done t deadline hregistry hquiet hs
  obtain ⟨hclock, hunlimited⟩ := handling_unlimited hregistry hquiet hdone
  refine ⟨s', h, hdone, hkept, hclock, ?_, ?_⟩
  · intro hlate
    rw [(handling_alone hregistry hquiet hs (hunlimited hlate)).1, List.any_cons, List.any_nil,
      Bool.or_false]
  · intro hlate hcrashed
    rw [← (handling_alone hregistry hquiet hs (hunlimited hlate)).2 hcrashed]
    rfl

theorem any_le_of_le {a b : Nat} (h : a ≤ b) (hb : deadline.any (· ≤ b) = false) :
    deadline.any (· ≤ a) = false := by
  cases deadline with
  | none => rfl
  | some d =>
    simp only [Option.any_some, decide_eq_false_iff_not] at hb ⊢
    omega

theorem Passed.append {s₁ : Services} {outcomes outcomes' : List (Option HandlerRun)}
    {runs runs' : List HandlerRun} (h : Passed s₀ deadline outcomes s s₁ runs)
    (h' : Passed s₀ deadline outcomes' s₁ s' runs') :
    Passed s₀ deadline (outcomes ++ outcomes') s s' (runs ++ runs') where
  kept := h'.kept
  clock := Nat.le_trans h.clock h'.clock
  crashed hlate := by
    rw [h'.crashed hlate, h.crashed (any_le_of_le h'.clock hlate), List.any_append, Bool.or_assoc]
  runs hlate hcrashed := by
    have hfirst : s₁.crashed = false := by
      rw [h'.crashed hlate, Bool.or_eq_false_iff] at hcrashed
      exact hcrashed.1
    rw [List.map_append, h.runs (any_le_of_le h'.clock hlate) hfirst, h'.runs hlate hcrashed]

/-- Several of them, one after the other. -/
theorem gather_passed {fs : List FeatureSet} (t : Trigger) (deadline : Option Nat)
    (hregistry : e.registry = .builtins) (hquiet : ∀ f ∈ fs, f.Quiet) (hs : s₀.Kept s) :
    ∃ s' handlings, Process.gather (fs.map fun f => e.handling f t deadline) s =
      .done s' handlings ∧
      Passed s₀ deadline (fs.map (e.alone t s₀)) s s' (handlings.map (·.handlerRun.blank)) := by
  induction fs generalizing s with
  | nil => exact ⟨s, [], rfl, hs, Nat.le_refl _, fun _ => (Bool.or_false _).symm, fun _ _ => rfl⟩
  | cons f fs ih =>
    obtain ⟨hf, hfs⟩ := List.forall_mem_cons.mp hquiet
    obtain ⟨s₁, h, hfirst, hpassed⟩ := handling_passed t deadline hregistry hf hs
    obtain ⟨s₂, handlings, hrest, hpassed'⟩ := ih hfs hpassed.kept
    exact ⟨s₂, h :: handlings, Process.gather_cons_done hfirst hrest, hpassed.append hpassed'⟩

/-- The deadline of handlers that started in the first state has not passed in the second. -/
def InTime (e : Engine) (s s' : Services) : Prop :=
  ∀ limit, e.limits.timeout = some limit → s'.clock < s.clock + limit

/-- The handlers of an emission are done at once and change nothing that others see. If they are in
time, it crashes where one of them does so alone. If it does not crash, each has in their order its
outcome up to ids and times, and what comes out is what they emit. -/
def Settles (e : Engine) (emission : Emission) (s : Services)
    (outcome : FeatureSet → Option HandlerRun) : Prop :=
  ∃ s' handlings, e.handleAll emission s = .done s' handlings ∧ s.Kept s' ∧ (e.InTime s s' →
    s'.crashed = (s.crashed || (e.handlers emission).any fun f => (outcome f).isNone) ∧
    (s'.crashed = false →
      handlings.map (fun h => some h.handlerRun.blank) = (e.handlers emission).map outcome ∧
      ∃ children, e.route emission s = .done s' children ∧ children.map Emission.blank =
        ((e.handlers emission).filterMap outcome).flatMap (·.emissions)))

theorem inTime_iff (e : Engine) (s s' : Services) :
    e.InTime s s' ↔ (e.limits.timeout.map (s.clock + ·)).any (· ≤ s'.clock) = false := by
  unfold InTime
  cases e.limits.timeout with
  | none => simp
  | some limit => simp

theorem settles_of_quiet (hregistry : e.registry = .builtins)
    (hquiet : ∀ f ∈ e.handlers emission, f.Quiet) (hs : s₀.Kept s) :
    e.Settles emission s (e.alone (.ofEmission emission) s₀) := by
  obtain ⟨s', handlings, hall, hpassed⟩ := gather_passed (.ofEmission emission)
    (e.limits.timeout.map (s.clock + ·)) hregistry hquiet hs
  refine ⟨s', handlings, hall, hs.between hpassed.kept, fun htime => ?_⟩
  have hlate := (inTime_iff e s s').mp htime
  refine ⟨?_, fun hcrashed => ?_⟩
  · rw [hpassed.crashed hlate, List.any_map]
    rfl
  · have houtcomes := hpassed.runs hlate hcrashed
    rw [List.map_map] at houtcomes
    refine ⟨houtcomes, handlings.flatMap Handling.emissions, ?_, ?_⟩
    · rw [route_eq]
      have hroute : (List.flatMap Handling.emissions <$> e.handleAll emission) s =
          (e.handleAll emission s).map (List.flatMap Handling.emissions) := rfl
      rw [hroute, handleAll_eq, hall]
      rfl
    · have hruns : (e.handlers emission).filterMap (e.alone (.ofEmission emission) s₀) =
          handlings.map (·.handlerRun.blank) := by
        have hpresent := congrArg (List.filterMap id) houtcomes
        rw [List.filterMap_map, List.filterMap_map] at hpresent
        exact hpresent.symm.trans (congrFun List.filterMap_eq_map handlings)
      have hblocks : (handlings.flatMap Handling.emissions).map Emission.blank =
          (handlings.map (·.handlerRun.blank)).flatMap (·.emissions) := by
        rw [List.map_flatMap, List.flatMap_map]
        rfl
      rw [hblocks, hruns]

theorem handlers_perm {subscriptions : List Subscription} (h : subscriptions.Perm e.subscriptions) :
    (handlers { e with subscriptions } emission).Perm (e.handlers emission) := by
  cases emission with
  | event event => exact (h.filter _).filterMap _
  | change c => exact .rfl
  | state t => exact .rfl

/-- With the built-in actions, quiet handlers of an emission may run in any order, and so they may
be subscribed in any order, however long their statements take. If they are done before the deadline
and nothing crashes, each has the outcome that it has alone, and of what is emitted only the blocks
change places. The symbols, the repositories and the servers stay as they are in any case. -/
theorem order_of_quiet_handlers_is_free {e : Engine} (hregistry : e.registry = .builtins)
    {emission : Emission} (hquiet : ∀ f ∈ e.handlers emission, f.Quiet) (s : Services) :
    (∀ subscriptions, subscriptions.Perm e.subscriptions →
      (handlers { e with subscriptions } emission).Perm (e.handlers emission)) ∧
    ∀ e' : Engine, e'.name = e.name → e'.registry = e.registry → e'.limits = e.limits →
      (e'.handlers emission).Perm (e.handlers emission) → ∀ delays,
        e'.Settles emission { s with delays } (e.alone (.ofEmission emission) s) := by
  refine ⟨fun subscriptions => handlers_perm, ?_⟩
  intro e' hname hregistry' hlimits hperm delays
  have halone : e.alone (.ofEmission emission) s = e'.alone (.ofEmission emission) s := by
    funext f
    have hhandling : e'.handling f (.ofEmission emission) none =
        e.handling f (.ofEmission emission) none := by
      simp only [handling, scopeFor, hname, hregistry']
    rw [alone, alone, hhandling]
  rw [halone]
  exact settles_of_quiet (hregistry'.trans hregistry) (fun f hf => hquiet f (hperm.mem_iff.mp hf))
    ⟨rfl, rfl, rfl, rfl, rfl⟩

/-- One handler emits in a loop, the other one emits and fails. They are subscribed in one order and
in the other, their statements take time, and they are done before the deadline. -/
theorem failing_and_looping_handlers_change_places :
    let emit : Command :=
      ⟨"EMIT", ⟨"Sent", none, .whole⟩, ⟨.with_, .reference "event-id" [] .whole, none⟩, none⟩
    let fail : Command := ⟨"Throw", ⟨"Failed", none, .whole⟩, ⟨.for_, .literal .null, none⟩, none⟩
    let copies : Expression := .literal (.list [.int 1, .int 2])
    let mail : FeatureSet := ⟨"mail", "", [.forEach "copy" none copies none [.act emit]]⟩
    let audit : FeatureSet := ⟨"audit", "", [.act emit, .act fail]⟩
    let subscriptions : List Subscription := [⟨"Paid", [], "mail"⟩, ⟨"Paid", [], "audit"⟩]
    let e : Engine :=
      { name := "shop", featureSets := [mail, audit], subscriptions, limits := ⟨some 9, 32⟩ }
    let e' : Engine := { e with subscriptions := subscriptions.reverse }
    let emission : Emission := .event ⟨⟨7⟩, "Paid", .map [], ⟨0, 0⟩, none⟩
    let s : Services := { delays := [1, 2, 3] }
    (∀ f ∈ e.handlers emission, f.Quiet) ∧ ∃ s' first second,
      e'.handleAll emission s = .done s' [first, second] ∧ s'.clock = 6 ∧ s'.crashed = false ∧
      some first.handlerRun.blank = e.alone (.ofEmission emission) {} audit ∧
      some second.handlerRun.blank = e.alone (.ofEmission emission) {} mail := by
  intro emit fail copies mail audit subscriptions e e' emission s
  have hquiet : ∀ f ∈ e.handlers emission, f.Quiet := by decide +kernel
  have hregistry : e.registry = .builtins := by simp only [e]
  obtain ⟨hperm, hsettles⟩ := order_of_quiet_handlers_is_free hregistry hquiet {}
  have hreverse := hperm subscriptions.reverse subscriptions.reverse_perm
  have hlast : ((e'.handleAll emission s).services.clock,
      (e'.handleAll emission s).services.crashed) = (6, false) := by
    simp only [e', e, Registry.builtins_eq]
    decide +kernel
  obtain ⟨s', handlings, hdone, -, hsame⟩ := hsettles e' (by simp only [e']) (by simp only [e'])
    (by simp only [e']) hreverse [1, 2, 3]
  have hdone : e'.handleAll emission s = .done s' handlings := hdone
  obtain ⟨hclock, hcrashed⟩ : s'.clock = 6 ∧ s'.crashed = false := by
    rw [hdone] at hlast
    exact Prod.mk.inj hlast
  have htime : e'.InTime s s' := by
    intro limit hlimit
    obtain rfl : 9 = limit := Option.some.inj hlimit
    rw [hclock]
    decide
  have hhandlers : e'.handlers emission = [audit, mail] := rfl
  obtain ⟨houtcomes, -⟩ := (hsame htime).2 hcrashed
  rw [hhandlers] at houtcomes
  obtain ⟨first, rest, rfl, hfirst, hrest⟩ := List.map_eq_cons_iff.mp houtcomes
  obtain ⟨second, rfl, hsecond⟩ := List.map_eq_singleton_iff.mp hrest
  exact ⟨hquiet, s', first, second, hdone, hclock, hcrashed, hfirst, hsecond⟩

/-- Two quiet handlers have one deadline, and it passes between them: the one that runs first is
done, and the other one fails. -/
theorem order_decides_who_is_late :
    let emit : Command := ⟨"Emit", ⟨"Sent", none, .whole⟩, ⟨.with_, .literal .null, none⟩, none⟩
    let mail : FeatureSet := ⟨"mail", "", [.act emit]⟩
    let audit : FeatureSet := ⟨"audit", "", [.act emit]⟩
    let subscriptions : List Subscription := [⟨"Paid", [], "mail"⟩, ⟨"Paid", [], "audit"⟩]
    let e : Engine :=
      { name := "shop", featureSets := [mail, audit], subscriptions, limits := ⟨some 5, 32⟩ }
    let e' : Engine := { e with subscriptions := subscriptions.reverse }
    let emission : Emission := .event ⟨⟨7⟩, "Paid", .map [], ⟨0, 0⟩, none⟩
    let ended (e : Engine) : List (String × Bool) :=
      (e.handleAll emission { delays := [0, 5] }).signalled.2.map fun h =>
        (h.featureSet.name, h.failed)
    (∀ f ∈ e.handlers emission, f.Quiet) ∧ ended e = [("mail", false), ("audit", true)] ∧
      ended e' = [("audit", false), ("mail", true)] := by
  intro emit mail audit subscriptions e e' emission ended
  refine ⟨by decide +kernel, ?_, ?_⟩
  · simp only [ended, e, Registry.builtins_eq]
    decide +kernel
  · simp only [ended, e', e, Registry.builtins_eq]
    decide +kernel

end Engine

end FeatureFlow
