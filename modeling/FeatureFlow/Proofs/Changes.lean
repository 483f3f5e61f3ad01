import FeatureFlow.Proofs.Handling

/-! The changes that a run reports are the stores it made, in order. Replayed on the repositories as
they were before, they give the repositories as they are after it, also when the run has failed. -/
namespace FeatureFlow

variable {others : Services → Services → Prop}

def changesOf (emissions : List Emission) : List EntityChange :=
  emissions.filterMap fun
    | .change c => some c
    | _ => none

theorem changesOf_append (emissions emissions' : List Emission) :
    changesOf (emissions ++ emissions') = changesOf emissions ++ changesOf emissions' :=
  List.filterMap_append

/-- Only events get a cause. -/
theorem changesOf_causedBy (emissions : List Emission) (id : Uuid) :
    changesOf (emissions.map (·.causedBy id)) = changesOf emissions := by
  rw [changesOf, List.filterMap_map]
  congr 1
  funext e
  cases e <;> rfl

namespace Repositories

/-- The entity that is known by a key. -/
def held (key : String) (entities : List Value) : Option Value :=
  entities.find? fun e => key? e = some key

/-- Puts an entity where the one known by the key stands, or last if there is none. -/
def replace (key : String) (entity : Value) (entities : List Value) : List Value :=
  match entities.findIdx? fun e => key? e = some key with
  | some i => entities.set i entity
  | none => entities ++ [entity]

theorem upsert_eq (key : String) (entity : Value) (entities : List Value) :
    upsert key entity entities = (replace key entity entities, held key entities) := by
  induction entities with
  | nil => rfl
  | cons e entities ih =>
    rw [upsert]
    by_cases he : key? e = some key
    · simp [he, replace, held, List.findIdx?_cons]
    · rw [if_neg he, ih]
      simp only [replace, held, List.findIdx?_cons, List.find?_cons, he, decide_false]
      cases entities.findIdx? fun e => decide (key? e = some key) <;> rfl

/-- An entity that is stored has an id, and is known by it. -/
theorem key?_identify (fresh : Uuid) (fields : KeyMap Value) :
    key? (identify fresh fields).2 = some (identify fresh fields).1 := by
  unfold identify
  split
  · assumption
  · have hid : Value.field? (.map (fields.insert "id" (.string fresh.text))) "id" =
        some (.string fresh.text) :=
      KeyMap.get?_insert_self fields "id" _
    rw [key?, hid]
    rfl

theorem contents_put (r : Repositories) (name key other : String) (entity : Value) :
    (r.put name key entity).2.contents other =
      if other = name then replace key entity (r.contents name) else r.contents other := by
  simp only [put, upsert_eq, contents, KeyMap.get?_insert]
  by_cases h : other = name
  · simp [h]
  · simp [h, Ne.symm h]

/-- The receipt of a store that was carried out. -/
structure Accounts (r : Repositories) (name : String) (receipt : Receipt) (r' : Repositories) :
    Prop where
  key : key? receipt.stored = some receipt.entityId
  previous : receipt.previous = held receipt.entityId (r.contents name)
  kind : receipt.kind = if receipt.previous.isSome then .updated else .created
  contents : ∀ other, r'.contents other =
    if other = name then replace receipt.entityId receipt.stored
      (r.contents name) else r.contents other

theorem store_accounts {r r' : Repositories} {fresh : Uuid} {name : String} {v : Value}
    {receipt : Receipt} (h : r.store fresh name v = (.ok receipt, r')) :
    r.Accounts name receipt r' := by
  unfold store at h
  split at h
  · cases h
  · split at h
    · rename_i fields
      cases h
      refine ⟨key?_identify fresh fields, ?_, rfl, fun other => contents_put r name _ other _⟩
      rw [upsert_eq]
    · cases h

end Repositories

namespace EntityChange

/-- Puts the new entity in place, in contents given by the names of repositories. -/
def replay (c : EntityChange) (contents : String → List Value) : String → List Value := fun name =>
  if name = c.repository then
    match c.new with
    | some v => Repositories.replace c.entityId v (contents name)
    | none => contents name
  else contents name

def replayAll (changes : List EntityChange) (contents : String → List Value) :
    String → List Value :=
  changes.foldl (fun contents c => c.replay contents) contents

/-- The change tells what a store did to these contents. -/
structure Fits (c : EntityChange) (contents : String → List Value) : Prop where
  new : ∃ v, c.new = some v ∧ Repositories.key? v = some c.entityId
  old : c.old = Repositories.held c.entityId (contents c.repository)
  kind : c.kind = if c.old.isSome then .updated else .created

end EntityChange

/-- The step has stored something. -/
def Step.Stores (p : Step) : Prop := ∃ c o, p = .acted c Action.store (.ok o)

/-- The steps take the repositories from the first state to the second. Each step that stores does
so in the repository its object names, and has its change; no other step has one. -/
inductive Commits : Repositories → List Step → List EntityChange → Repositories → Prop where
  | nothing {r : Repositories} : Commits r [] [] r
  | store {r r₁ r' : Repositories} {c : Command} {name : String} {v : Value} {fresh id : Uuid}
      {receipt : Receipt} {steps : List Step} {changes : List EntityChange}
      (hname : c.object.name? = some name) (hstore : r.store fresh name v = (.ok receipt, r₁))
      (rest : Commits r₁ steps changes r') :
      Commits r (.acted c Action.store (.ok (.bind receipt.stored)) :: steps)
        (⟨id, name, receipt.kind, receipt.entityId, some receipt.stored, receipt.previous⟩ ::
          changes) r'
  | other {r r' : Repositories} {p : Step} {steps : List Step} {changes : List EntityChange}
      (h : ¬ p.Stores) (rest : Commits r steps changes r') : Commits r (p :: steps) changes r'

namespace Commits

variable {r r₁ r' : Repositories} {steps steps' : List Step} {changes changes' : List EntityChange}

theorem append (h : Commits r steps changes r₁) (h' : Commits r₁ steps' changes' r') :
    Commits r (steps ++ steps') (changes ++ changes') r' := by
  induction h with
  | nothing => exact h'
  | store hname hstore _ ih => exact .store hname hstore (ih h')
  | other hp _ ih => exact .other hp (ih h')

/-- Replaying the change of a store does what the store did. -/
theorem replay_store {name : String} {receipt : Receipt} {id : Uuid}
    (h : r.Accounts name receipt r₁) :
    EntityChange.replay ⟨id, name, receipt.kind, receipt.entityId, some receipt.stored,
      receipt.previous⟩
      r.contents = r₁.contents := by
  funext other
  rw [h.contents, EntityChange.replay]
  by_cases ho : other = name
  · rw [if_pos ho, if_pos ho, ho]
  · rw [if_neg ho, if_neg ho]

theorem replayAll_eq (h : Commits r steps changes r') :
    EntityChange.replayAll changes r.contents = r'.contents := by
  induction h with
  | nothing => rfl
  | store _ hstore _ ih =>
    rw [EntityChange.replayAll, List.foldl_cons, replay_store (Repositories.store_accounts hstore)]
    exact ih
  | other _ _ ih => exact ih

/-- Each change fits the contents that those before it lead to. -/
theorem fits (h : Commits r steps changes r') {before after : List EntityChange} {c : EntityChange}
    (hc : changes = before ++ c :: after) : c.Fits (EntityChange.replayAll before r.contents) := by
  induction h generalizing before with
  | nothing => simp at hc
  | store _ hstore _ ih =>
    have hr := Repositories.store_accounts hstore
    cases before with
    | nil =>
      cases hc
      exact ⟨⟨_, rfl, hr.key⟩, hr.previous, hr.kind⟩
    | cons first before =>
      obtain ⟨rfl, hrest⟩ := List.cons.inj hc
      rw [EntityChange.replayAll, List.foldl_cons, replay_store hr]
      exact ih hrest
  | other _ _ ih => exact ih hc

end Commits

theorem Services.store_repositories {s s' : Services} {name : String} {v : Value}
    {receipt : Receipt} (h : s.store name v = (.ok receipt, s')) :
    s.repositories.store s.fresh name v = (.ok receipt, s'.repositories) := by
  unfold store at h
  split at h
  · rename_i receipt' repositories hr
    cases h
    exact hr
  · cases h

theorem Action.store_not_reader : store ∉ readers := by
  intro h
  have hverbs : (readers.all fun a => a.verbs != store.verbs) = true := by decide
  simpa using List.all_eq_true.mp hverbs store h

/-- One action commits its store, if it is one, and reports no other change. -/
theorem Action.Effect.commits (hothers : ∀ s s', others s s' → s'.repositories = s.repositories)
    {a : Action} {c : Command} {w w' : World (List Emission)} {o : Except ActionError Outcome}
    (h : a.Effect others c.result c.object w o w') :
    ∃ emitted, w'.own = w.own ++ emitted ∧
      Commits w.shared.repositories [.acted c a o] (changesOf emitted) w'.shared.repositories := by
  have otherwise {r : Repositories} (ha : a.verbs ≠ Action.store.verbs) :
      Commits r [.acted c a o] [] r := by
    refine .other ?_ .nothing
    rintro ⟨c', o', heq⟩
    cases heq
    exact ha rfl
  cases h with
  | failed => exact ⟨[], (List.append_nil _).symm, .other (by rintro ⟨_, _, ⟨⟩⟩) .nothing⟩
  | read ha =>
    refine ⟨[], (List.append_nil _).symm, .other ?_ .nothing⟩
    rintro ⟨c', o', heq⟩
    cases heq
    exact store_not_reader ha
  | waited ha hs =>
    subst ha
    exact ⟨[], (List.append_nil _).symm, hothers _ _ hs ▸ otherwise (by decide)⟩
  | stored ha hname hs =>
    subst ha
    exact ⟨_, rfl, .store hname (Services.store_repositories hs) .nothing⟩
  | emitted ha | accepted ha =>
    subst ha
    exact ⟨_, rfl, otherwise (by decide)⟩
  | logged ha | published ha | started ha | stopped ha =>
    subst ha
    exact ⟨[], (List.append_nil _).symm, otherwise (by decide)⟩

theorem Runs.commits (hothers : ∀ s s', others s s' → s'.repositories = s.repositories)
    {code : Code} {w w' : World Invocation} {steps : List Step} {r : Except ExecutionError Flow}
    (h : Runs others Registry.builtins code w steps r w') :
    ∃ emitted, w'.own.outbox = w.own.outbox ++ emitted ∧
      Commits w.shared.repositories steps (changesOf emitted) w'.shared.repositories := by
  refine h.outside (P := fun steps w w' => ∃ emitted, w'.own = w.own ++ emitted ∧
    Commits w.shared.repositories steps (changesOf emitted) w'.shared.repositories) ?_ ?_ ?_ ?_
  · rintro w w' ⟨hown, haged⟩
    refine ⟨[], hown.trans (List.append_nil _).symm, ?_⟩
    have hkept {s s' : Services} (h : s.Aged s') : s'.repositories = s.repositories := by
      cases h <;> rfl
    exact hkept haged ▸ .nothing
  · rintro steps steps' w w₁ w' ⟨emitted, hw, hc⟩ ⟨emitted', hw', hc'⟩
    refine ⟨emitted ++ emitted', by rw [hw', hw, List.append_assoc], ?_⟩
    rw [changesOf_append]
    exact hc.append hc'
  · intro e w
    exact ⟨[], (List.append_nil _).symm, .other (by rintro ⟨_, _, ⟨⟩⟩) .nothing⟩
  · intro c a scope deadline o w w' ha hrun
    exact (Action.builtin_effect (Registry.get?_builtins.mp ha).1 hrun).commits hothers

namespace Engine

theorem changesOf_notice {f : FeatureSet} {t : Trigger}
    {result : Except ExecutionError (Option Response)} {notice : List Emission}
    (h : Noticed f t result notice) : changesOf notice = [] := by
  cases h <;> rfl

/-- The changes that a run of a feature set reports are its stores, one for one and in order,
whether it failed or not. Each tells what was there before, and replaying all of them on the
repositories before the run gives those after it. Nobody else is to store meanwhile. -/
theorem changes_replay_stores (hothers : ∀ s s', others s s' → s'.repositories = s.repositories)
    {e : Engine} (he : e.registry = .builtins) {f : FeatureSet} {t : Trigger}
    {deadline : Option Nat} {s s' : Services} {run : HandlerRun}
    (h : Task.Ends others (e.runHandler f t deadline s) s' run) :
    ∃ steps w', f.Runs others .builtins ⟨{ scope := e.scopeFor f t, deadline },
      s⟩ steps run.result w' ∧
      (s' = w'.shared ∨ s' = w'.shared.issue) ∧
      Commits s.repositories steps (changesOf run.emissions) s'.repositories ∧
      EntityChange.replayAll (changesOf run.emissions) s.repositories.contents =
        s'.repositories.contents ∧
      ∀ before c after, changesOf run.emissions = before ++ c :: after →
        c.Fits (EntityChange.replayAll before s.repositories.contents) := by
  rw [runHandler_eq] at h
  obtain ⟨handling, hh, rfl⟩ := Task.ends_map.mp h
  obtain ⟨rfl, rfl, ⟨w', hyields, hout, hs⟩, hnotice⟩ := ends_handling hh
  rw [he] at hyields
  obtain ⟨steps, r, hruns, hr⟩ := FeatureSet.yields_iff_runs.mp hyields
  obtain ⟨emitted, houtbox, hcommits⟩ := hruns.commits hothers
  have hchanges : changesOf handling.handlerRun.emissions = changesOf emitted := by
    rw [List.nil_append] at houtbox
    change changesOf (handling.run.outbox.map _ ++ handling.notice) = _
    rw [changesOf_append, changesOf_causedBy, changesOf_notice hnotice, List.append_nil,
      hout, houtbox]
  have hshared : w'.shared.repositories = s'.repositories := by
    rcases hs with rfl | rfl <;> rfl
  rw [hshared, ← hchanges] at hcommits
  exact ⟨steps, w', ⟨r, hruns, hr⟩, hs, hcommits, hcommits.replayAll_eq, fun _ _ _ => hcommits.fits⟩

/-- A run that stores its input and then throws. -/
theorem failed_run_reports_its_store :
    let others : Services → Services → Prop := fun s s' => s' = s
    let e : Engine := { name := "app" }
    let v : Value := .map [("id", .string "7")]
    let store : Command := ⟨"Store", ⟨"input", none, .whole⟩,
      ⟨.into, .reference "users" [] .whole, none⟩, none⟩
    let fail : Command := ⟨"Throw", ⟨"Failed", none, .whole⟩, ⟨.for_, .literal .null, none⟩, none⟩
    let f : FeatureSet := ⟨"job", "", [.act store, .act fail]⟩
    let t : Trigger := .invocation ⟨0⟩ v
    let cause : ExecutionError := .action "Throw" "Failed" (.thrown "Failed" .null)
    (∀ s s', others s s' → s'.repositories = s.repositories) ∧ e.registry = .builtins ∧
    ∃ s' run, Task.Ends others (e.runHandler f t none {}) s' run ∧
      run.result = .error cause ∧
      (changesOf run.emissions).length = 1 ∧
      EntityChange.replayAll (changesOf run.emissions) (fun _ => []) = s'.repositories.contents ∧
      s'.repositories.contents "users" = [v] := by
  intro others e v store fail f t cause
  have hothers : ∀ s s', others s s' → s'.repositories = s.repositories := by
    rintro s _ rfl
    rfl
  have hstore : Registry.builtins.get? "Store" = some Action.store :=
    Registry.get?_builtins.mpr ⟨by simp [Registry.builtinActions], by decide +kernel⟩
  have hthrow : Registry.builtins.get? "Throw" = some Action.throw_ :=
    Registry.get?_builtins.mpr ⟨by simp [Registry.builtinActions], by decide +kernel⟩
  let w : World Invocation := ⟨{ scope := e.scopeFor f t }, {}⟩
  let stored : Services := { issued := 1, repositories := { entities := [("users", [v])] } }
  let c : EntityChange := ⟨stored.fresh, "users", .created, "7", some v, none⟩
  let w₁ : World Invocation :=
    ⟨{ w.own with scope := w.own.scope.bind "input" v, outbox := [.change c] }, stored.issue⟩
  have hnext : (Code.statement (.act store)).next Registry.builtins w =
      (w, .act Action.store store) := by
    have hready : w.ready Registry.builtins store = .ok (some Action.store) :=
      World.ready_some_iff.mpr ⟨rfl, hstore, rfl⟩
    rw [Code.next, hready]
  have hnext' : (Code.statement (.act fail)).next Registry.builtins w₁ =
      (w₁, .act Action.throw_ fail) := by
    have hready : w₁.ready Registry.builtins fail = .ok (some Action.throw_) :=
      World.ready_some_iff.mpr ⟨rfl, hthrow, rfl⟩
    rw [Code.next, hready]
  have hrun : Yields others (Action.store.run w.own.scope none store.result store.object) ⟨[], {}⟩
      (.ok (.bind v)) ⟨[.change c], stored.issue⟩ := .done
  have hfirst : Runs others Registry.builtins (.statement (.act store)) w
      [.acted store Action.store (.ok (.bind v))] (.ok .proceed) w₁ := .act hnext hrun
  have hlast : Runs others Registry.builtins (.statement (.act fail)) w₁
      [.acted fail Action.throw_ (.error (.thrown "Failed" .null))] (.error cause) w₁ :=
    .act (o := .error (.thrown "Failed" .null)) hnext' .done
  have hruns : f.Runs others Registry.builtins w _ (.error cause) w₁ :=
    ⟨_, .first rfl hfirst (.firstEnded rfl hlast (by simp)), rfl⟩
  have he : e.registry = .builtins := by simp only [e]
  have hyields : Yields others (f.exec e.registry) w (.error cause) w₁ := by
    rw [he]
    exact FeatureSet.yields_iff_runs.mpr ⟨_, hruns⟩
  have hend : Task.Ends others (e.runHandler f t none {}) _ _ :=
    ends_runHandler (ends_handling_of_yields hyields .done)
  obtain ⟨_, _, _, _, _, hreplay, _⟩ := changes_replay_stores hothers he hend
  exact ⟨hothers, he, _, _, hend, rfl, rfl, hreplay, rfl⟩

end Engine

end FeatureFlow
