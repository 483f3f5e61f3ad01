import FeatureFlow.Proofs.Outcomes
import FeatureFlow.Proofs.Runs

/-! Loops and choices keep to themselves what is bound in them. Each round and each case starts from
the scope before the statement, and that scope is there again afterwards. -/
namespace FeatureFlow

variable {α β : Type} {others : Services → Services → Prop} {registry : Registry}

namespace Scope

/-- A scope inside this one that binds nothing yet. -/
def fresh (s : Scope) (name : String) : Scope :=
  { name, parents := ⟨s.name, s.bindings⟩ :: s.parents }

theorem find?_fresh (s : Scope) (name x : String) : (s.fresh name).find? x = s.find? x := by
  unfold find? fresh
  rw [KeyMap.get?_nil, List.findSome?_cons]
  cases s.bindings.get? x <;> rfl

theorem child_fst (s : Scope) (name : String) : (s.child name).1 = s.fresh name := by
  change s.snapshot.1.spawn name = _
  rw [snapshot_eq]
  rfl

theorem snapshot_snapshot (s : Scope) : s.snapshot.2.snapshot = s.snapshot := by
  unfold snapshot
  cases h : s.frozen with
  | none => rfl
  | some snapshot => simp [h]

/-- To get from the first scope to the second, only names with the property were bound. -/
structure BindsOnly (P : String → Prop) (s s' : Scope) : Prop where
  name : s'.name = s.name
  parents : s'.parents = s.parents
  bindings : ∃ entries, s'.bindings = s.bindings.insertAll entries ∧ ∀ e ∈ entries, P e.1

namespace BindsOnly

variable {P Q : String → Prop} {s s' s'' : Scope}

theorem refl : BindsOnly P s s := ⟨rfl, rfl, [], rfl, nofun⟩

theorem snapshot : BindsOnly P s s.snapshot.2 := by
  unfold Scope.snapshot
  split
  · exact refl
  · exact ⟨rfl, rfl, [], rfl, nofun⟩

theorem bind {x : String} {v : Value} (h : P x) : BindsOnly P s (s.bind x v) :=
  ⟨rfl, rfl, [(x, v)], rfl, by simpa using h⟩

theorem trans (h : BindsOnly P s s') (h' : BindsOnly P s' s'') : BindsOnly P s s'' := by
  obtain ⟨entries, hb, hP⟩ := h.bindings
  obtain ⟨entries', hb', hP'⟩ := h'.bindings
  refine ⟨h'.name.trans h.name, h'.parents.trans h.parents, entries ++ entries', ?_, ?_⟩
  · rw [hb', hb, KeyMap.insertAll, KeyMap.insertAll, KeyMap.insertAll, List.foldl_append]
  · intro e he
    rcases List.mem_append.mp he with he | he
    · exact hP e he
    · exact hP' e he

theorem mono (hPQ : ∀ x, P x → Q x) (h : BindsOnly P s s') : BindsOnly Q s s' := by
  obtain ⟨entries, hb, hP⟩ := h.bindings
  exact ⟨h.name, h.parents, entries, hb, fun e he => hPQ e.1 (hP e he)⟩

theorem bindings_eq (h : BindsOnly P s s') (hP : ∀ x, ¬ P x) : s'.bindings = s.bindings := by
  obtain ⟨entries, hb, hentries⟩ := h.bindings
  cases entries with
  | nil => exact hb
  | cons e entries => exact absurd (hentries e (by simp)) (hP e.1)

theorem get?_eq (h : BindsOnly P s s') {x : String} (hx : ¬ P x) :
    s'.bindings.get? x = s.bindings.get? x := by
  obtain ⟨entries, hb, hentries⟩ := h.bindings
  rw [hb]
  exact KeyMap.get?_insertAll_of_forall_ne fun e he hne => hx (hne ▸ hentries e he)

end BindsOnly

end Scope

/-- A command may bind its result's name and what its action assigns. -/
def Command.MayBind (others : Services → Services → Prop) (registry : Registry) (c : Command)
    (x : String) : Prop :=
  x = c.result.name ∨ ∃ a scope deadline v w w', registry.get? c.action = some a ∧
    Yields others (a.run scope deadline c.result c.object) w (.ok (.assign x v)) w'

def Statement.command? : Statement → Option Command
  | .act c => some c
  | _ => none

/-- The commands that stand in the code itself, and not in a loop or choice. -/
def Code.commands : Code → List Command
  | .block statements => statements.filterMap Statement.command?
  | .statement s => s.command?.toList
  | .choice .. => []
  | .items .. => []

/-- The pieces that a move runs in the scope it is made in. -/
def Move.level : Move → List Code
  | .become code => [code]
  | .first code rest => [code, rest]
  | .inside _ _ _ rest => [rest]
  | _ => []

variable {code : Code} {w w' w₁ : World Invocation} {move : Move}

theorem Code.commands_level {part : Code} {c : Command} (h : code.next registry w = (w₁, move))
    (hp : part ∈ move.level) (hc : c ∈ part.commands) : c ∈ code.commands := by
  revert h
  fun_cases next registry code w <;> rintro ⟨⟩ <;> simp_all [Move.level, commands]
  rcases hp with rfl | rfl
  · exact .inl (by simpa using hc)
  · exact .inr (by simpa using hc)

theorem Code.next_scope {P : String → Prop} (h : code.next registry w = (w₁, move)) :
    w.own.scope.BindsOnly P w₁.own.scope := by
  revert h
  fun_cases next registry code w <;> rintro ⟨⟩ <;> first | exact .refl | exact .snapshot

/-- An action binds the result's name, the name it assigns, or nothing. -/
theorem World.settled_scope {P : String → Prop} {c : Command} {role : Role}
    {o : Except ActionError Outcome} (hresult : P c.result.name)
    (hassign : ∀ x v, o = .ok (.assign x v) → P x) :
    w.own.scope.BindsOnly P (w.settled role c o).2.own.scope := by
  cases o with
  | error e => exact .refl
  | ok o =>
    change w.own.scope.BindsOnly P (Exec.conclude role c.result w.own.scope o).2
    cases o with
    | respond r => exact .refl
    | assign x v => exact .bind (hassign x v rfl)
    | bind v =>
      rw [Exec.conclude]
      split
      · exact .refl
      · exact .bind hresult
    | proceed =>
      rw [Exec.conclude]
      split <;> exact .refl

/-- Code binds, in the scope it runs in, what the commands that stand in it may bind. -/
theorem Runs.bindsOnly {steps : List Step} {r : Except ExecutionError Flow}
    (h : Runs others registry code w steps r w') :
    w.own.scope.BindsOnly (fun x => ∃ c ∈ code.commands,
      c.MayBind others registry x) w'.own.scope := by
  have level {code part : Code} {w w₁ : World Invocation} {move : Move} {s s' : Scope}
      (hn : code.next registry w = (w₁, move)) (hp : part ∈ move.level)
      (hs : s.BindsOnly (fun x => ∃ c ∈ part.commands, c.MayBind others registry x) s') :
      s.BindsOnly (fun x => ∃ c ∈ code.commands, c.MayBind others registry x) s' :=
    hs.mono fun x ⟨c, hc, hx⟩ => ⟨c, Code.commands_level hn hp hc, hx⟩
  induction h with
  | stop hn => exact Code.next_scope hn
  | finish hn => exact Code.next_scope hn
  | @act code w w₁ a c o outbox s hn ha =>
    obtain ⟨rfl, rfl, hready⟩ := Code.next_act hn
    have hget := (World.ready_some_iff.mp hready).2.1
    have hmay {x : String} (hx : c.MayBind others registry x) :
        ∃ c' ∈ (Code.statement (.act c)).commands, c'.MayBind others registry x :=
      ⟨c, by simp [Code.commands, Statement.command?], hx⟩
    apply World.settled_scope (w := ⟨{ w₁.own with outbox }, s⟩)
    · exact hmay (.inl rfl)
    · rintro x v rfl
      exact hmay (.inr ⟨a, _, _, v, _, _, hget, ha⟩)
  | become hn _ ih => exact (Code.next_scope hn).trans (level hn (by simp [Move.level]) ih)
  | firstEnded hn _ _ ih => exact (Code.next_scope hn).trans (level hn (by simp [Move.level]) ih)
  | first hn _ _ ih ihrest =>
    exact (Code.next_scope hn).trans
      ((level hn (by simp [Move.level]) ih).trans (level hn (by simp [Move.level]) ihrest))
  | insideEnded hn _ _ _ => exact (Code.next_scope hn).trans .snapshot
  | inside hn _ _ _ ihrest =>
    exact (Code.next_scope hn).trans (.trans .snapshot (level hn (by simp [Move.level]) ihrest))

namespace Exec

/-- Runs in a fresh scope inside the one given and comes back to that one, whatever was bound before
or meanwhile. -/
def apart (home : Scope) (name : String) (x : Exec α) : Exec α := ExceptT.mk do
  modify fun run => { run with scope := home.fresh name }
  let result ← x.run
  modify fun run => { run with scope := home.snapshot.2 }
  return result

def roundsFrom (home : Scope) (base : String) (bind : Value → Nat → Scope → Scope)
    (filter : Option Expression) (body : Exec Flow) (i : Nat) : List Value → Exec Flow
  | [] => return .proceed
  | v :: values => do
    checkDeadline
    let flow ← apart home s!"{base}[{i}]" do
      modifyScope (bind v i)
      if ← holds filter then body else return .proceed
    match flow with
    | .respond r => return .respond r
    | .proceed => roundsFrom home base bind filter body (i + 1) values

def casesFrom (registry : Registry) (home : Scope) (name : String) (v : Value)
    (otherwise : Option (List Statement)) : List (Case Statement) → Exec Flow
  | [] => match otherwise with
    | none => return .proceed
    | some body => apart home name (runBlock registry body)
  | ⟨pattern, guard, body⟩ :: cases => do
    if ← ofExcept .eval (pattern.fits v) then
      let flow ← apart home name do
        if ← holds guard then return some (← runBlock registry body) else return none
      match flow with
      | some flow => return flow
      | none => casesFrom registry home name v otherwise cases
    else casesFrom registry home name v otherwise cases

/-- A statement whose rounds or cases see nothing but what a given scope binds. -/
def statementFrom (registry : Registry) (home : Scope) : Statement → Exec Flow
  | .act c => runCommand registry c
  | .choose subject cases otherwise => do
    let v ← eval subject
    casesFrom registry home (home.name ++ "/match") v otherwise cases
  | .forEach item index collection filter body => do
    let values ← ofExcept id (itemsOf (← eval collection))
    roundsFrom home home.name (bindItem item index) filter (runBlock registry body) 0 values

end Exec

/-- The run is in a scope that it may have taken a snapshot of. -/
def World.At (home : Scope) (w : World Invocation) : Prop :=
  w.own.scope = home ∨ w.own.scope = home.snapshot.2

section Apart

variable {home : Scope} {name : String}

theorem Scope.fresh_snapshot (s : Scope) : s.snapshot.2.fresh name = s.fresh name := by
  unfold snapshot
  split <;> rfl

theorem World.At.enter (h : w.At home) : w.enter name = w.within (home.fresh name) := by
  rw [World.enter, Scope.child_fst]
  rcases h with h | h
  · rw [h]
  · rw [h, Scope.fresh_snapshot]

theorem World.At.leave (h : w.At home) : w.leave w' = w'.within home.snapshot.2 := by
  rw [World.leave]
  rcases h with h | h
  · rw [h]
  · rw [h, Scope.snapshot_snapshot]

namespace Exec

theorem yields_apart {x : Exec α} {r : Except ExecutionError α} :
    Yields others (apart home name x) w r w' ↔
      ∃ w₁, Yields others x (w.within (home.fresh name)) r w₁ ∧ w' = w₁.within home.snapshot.2 :=
        ends_between

/-- What follows may be replaced by what does the same from the home scope. -/
theorem yields_bind_apart {x : Exec β} {f g : β → Exec α} {r : Except ExecutionError α}
    (h : w.At home)
    (hfg : ∀ b w₁, w₁.At home → (Yields others (f b) w₁ r w' ↔ Yields others (g b) w₁ r w')) :
    Yields others (inChild name x >>= f) w r w' ↔
      Yields others (apart home name x >>= g) w r w' := by
  simp only [yields_bind, yields_inChild, yields_apart, h.enter, h.leave]
  refine or_congr_left (exists_congr fun b => exists_congr fun w₁ => and_congr_right ?_)
  rintro ⟨w₂, -, rfl⟩
  exact hfg b _ (.inr rfl)

variable {r : Except ExecutionError Flow}

theorem yields_runItems {base : String} {bind : Value → Nat → Scope → Scope}
    {filter : Option Expression} {body : Exec Flow} {i : Nat} {values : List Value}
      (h : w.At home) :
    Yields others (runItems base bind filter body i values) w r w' ↔
      Yields others (roundsFrom home base bind filter body i values) w r w' := by
  induction values generalizing i w with
  | nil => exact Iff.rfl
  | cons v values ih =>
    rw [runItems, roundsFrom, yields_onTime, yields_onTime]
    cases w.later.late with
    | true => rw [if_pos rfl, if_pos rfl]
    | false =>
      rw [if_neg Bool.false_ne_true, if_neg Bool.false_ne_true]
      refine yields_bind_apart h fun flow w₁ h₁ => ?_
      cases flow with
      | respond r => exact Iff.rfl
      | proceed => exact ih h₁

theorem yields_runCases {v : Value} {otherwise : Option (List Statement)}
    {cases : List (Case Statement)} (h : w.At home) :
    Yields others (runCases registry name v (runOtherwise registry name otherwise) cases) w r w' ↔
      Yields others (casesFrom registry home name v otherwise cases) w r w' := by
  induction cases generalizing w with
  | nil =>
    cases otherwise with
    | none => rw [runCases, runOtherwise, casesFrom]
    | some body =>
      rw [runCases, runOtherwise, casesFrom]
      simp only [yields_inChild, yields_apart, h.enter, h.leave]
  | cons c cases ih =>
    obtain ⟨pattern, guard, body⟩ := c
    rw [runCases, casesFrom, yields_bind_except yields_ofExcept, yields_bind_except yields_ofExcept]
    cases pattern.fits v with
    | error e => exact Iff.rfl
    | ok fits =>
      cases fits with
      | false => exact ih h
      | true =>
        refine yields_bind_apart h fun flow w₁ h₁ => ?_
        cases flow with
        | some flow => exact Iff.rfl
        | none => exact ih h₁

theorem yields_statementFrom {s : Statement} :
    Yields others (runStatement registry s) w r w' ↔
      Yields others (statementFrom registry w.own.scope s) w r w' := by
  cases s with
  | act c => rw [runStatement, statementFrom]
  | choose subject cases otherwise =>
    rw [runStatement, statementFrom, yields_bind_except yields_eval, yields_bind_except yields_eval]
    cases w.eval subject with
    | error e => exact Iff.rfl
    | ok v => exact (yields_bind_ok yields_get).trans (yields_runCases (.inl rfl))
  | forEach item index collection filter body =>
    rw [runStatement, statementFrom, yields_bind_except yields_eval, yields_bind_except yields_eval]
    cases w.eval collection with
    | error e => exact Iff.rfl
    | ok v =>
      simp only [yields_bind_except yields_ofExcept]
      cases itemsOf v with
      | error e => exact Iff.rfl
      | ok values => exact (yields_bind_ok yields_get).trans (yields_runItems (.inl rfl))

end Exec

end Apart

theorem Scope.find?_bindItem {item : String} {index : Option String} {v : Value} {i : Nat}
    {s : Scope} {x : String} :
    (Exec.bindItem item index v i s).find? x =
      if index = some x then some (.int (Int64.ofNat i))
      else if item = x then some v else s.find? x := by
  cases index with
  | none => simp [Exec.bindItem, find?_bind]
  | some name => simp [Exec.bindItem, find?_bind]

theorem Code.yields_bindsOnly {r : Except ExecutionError Flow}
    (h : Yields others (code.exec registry) w r w') :
    w.own.scope.BindsOnly (fun x => ∃ c ∈ code.commands,
      c.MayBind others registry x) w'.own.scope := by
  obtain ⟨steps, hruns⟩ := yields_iff_runs.mp h
  exact hruns.bindsOnly

theorem Command.mayBind_builtins {c : Command} {x : String}
    (h : c.MayBind others Registry.builtins x) :
    x = c.result.name ∨ Registry.lower c.action = "accept" ∧
      ∃ path specifier, c.object.source = .reference x path specifier := by
  rcases h with hx | ⟨a, scope, deadline, v, w, w', ha, hrun⟩
  · exact .inl hx
  · obtain ⟨hmem, hverb⟩ := Registry.get?_builtins.mp ha
    obtain ⟨rfl, hsource⟩ := Action.builtin_assign hmem hrun
    exact .inr ⟨List.mem_singleton.mp hverb, hsource⟩

/-- What loops, choices and blocks do to the bindings of the scope they run in. -/
structure Isolated (others : Services → Services → Prop) (registry : Registry) : Prop where
  /-- A loop or choice leaves the scope as it was, whatever its result. -/
  restored : ∀ s w r w', (∀ c, s ≠ .act c) → Yields others (Exec.runStatement registry s) w r w' →
    w'.own.scope.name = w.own.scope.name ∧ w'.own.scope.bindings = w.own.scope.bindings ∧
      w'.own.scope.parents = w.own.scope.parents
  /-- All its rounds, filters and cases start from the scope before it. -/
  apart : ∀ s w r w', Yields others (Exec.runStatement registry s) w r w' ↔
    Yields others (Exec.statementFrom registry w.own.scope s) w r w'
  /-- What differs after a block was bound by a command that stands in it. -/
  bound : ∀ block w r w' x, Yields others (Exec.runBlock registry block) w r w' →
    w'.own.scope.bindings.get? x ≠ w.own.scope.bindings.get? x →
      ∃ c, .act c ∈ block ∧ c.MayBind others registry x

theorem isolated (others : Services → Services → Prop) (registry : Registry) :
    Isolated others registry where
  restored s w r w' hs h := by
    have hb : w.own.scope.BindsOnly _ w'.own.scope :=
      @Code.yields_bindsOnly _ _ (.statement s) _ _ _ h
    have hnone : ∀ x, ¬ ∃ c ∈ (Code.statement s).commands, c.MayBind others registry x := by
      rintro x ⟨c, hc, -⟩
      cases s with
      | act c => exact hs c rfl
      | _ => cases hc
    exact ⟨hb.name, hb.bindings_eq hnone, hb.parents⟩
  apart s w r w' := Exec.yields_statementFrom
  bound block w r w' x h hx := by
    have hb : w.own.scope.BindsOnly _ w'.own.scope :=
      @Code.yields_bindsOnly _ _ (.block block) _ _ _ h
    obtain ⟨c, hc, hmay⟩ := Classical.not_not.mp (mt hb.get?_eq hx)
    obtain ⟨s, hs, hcommand⟩ := List.mem_filterMap.mp hc
    cases s with
    | act c' =>
      cases hcommand
      exact ⟨c, hs, hmay⟩
    | _ => cases hcommand

/-- Nothing that is bound in a round or case is seen in another one, in a later filter or after the
statement: each starts with the bindings before the statement, and they are there again afterwards.
So a block changes only what its own commands bind, which with the built-in actions are their
results and what they accept. -/
theorem scopes_are_isolated (others : Services → Services → Prop) :
    (∀ registry, Isolated others registry) ∧
    (∀ (home : Scope) (name x : String), (home.fresh name).find? x = home.find? x) ∧
    (∀ (home : Scope) (name item : String) (index : Option String) (v : Value) (i : Nat)
      (x : String),
      (Exec.bindItem item index v i (home.fresh name)).find? x =
        if index = some x then some (.int (Int64.ofNat i))
        else if item = x then some v else home.find? x) ∧
    ∀ (block : List Statement) (w w' : World Invocation) (r : Except ExecutionError Flow)
      (x : String),
      Yields others (Exec.runBlock Registry.builtins block) w r w' →
      w'.own.scope.bindings.get? x ≠ w.own.scope.bindings.get? x →
        ∃ c, .act c ∈ block ∧ (x = c.result.name ∨
          Registry.lower c.action = "accept" ∧ ∃ path specifier,
            c.object.source = .reference x path specifier) := by
  refine ⟨isolated others, Scope.find?_fresh, ?_, ?_⟩
  · intro home name item index v i x
    rw [Scope.find?_bindItem, Scope.find?_fresh]
  · intro block w w' r x h hx
    obtain ⟨c, hc, hmay⟩ := (isolated others Registry.builtins).bound block w r w' x h hx
    exact ⟨c, hc, Command.mayBind_builtins hmay⟩

/-- A loop that binds a name which is also bound around it, once for each of two values. -/
theorem loop_keeps_outer_binding :
    let others : Services → Services → Prop := fun s s' => s' = s
    let c : Command := ⟨"Create", ⟨"y", none, .whole⟩,
      ⟨.with_, .reference "x" [] .whole, none⟩, none⟩
    let loop : Statement := .forEach "x" none (.literal (.list [.int 1, .int 2])) none [.act c]
    let w : World Invocation := ⟨{ scope := Scope.bind { name := "job" } "y" (.int 0) }, {}⟩
    ∃ w', Yields others (Exec.runStatement Registry.builtins loop) w (.ok .proceed) w' ∧
      (∀ c, loop ≠ .act c) ∧ w'.own.scope.bindings = [("y", .int 0)] := by
  intro others c loop w
  have ha : Registry.builtins.get? "Create" = some Action.create :=
    Registry.get?_builtins.mpr ⟨by simp [Registry.builtinActions], by decide +kernel⟩
  have hround {w₁ : World Invocation} {v : Value} (hlate : w₁.later.late = false)
      (hx : w₁.later.eval (.reference "x" [] .whole) = .ok v) :
      Runs others Registry.builtins (.block [.act c]) w₁ [.acted c Action.create (.ok (.bind v))]
        (.ok .proceed) (w₁.later.settled .own c (.ok (.bind v))).2 := by
    have hready : w₁.later.ready Registry.builtins c = .ok (some Action.create) :=
      World.ready_some_iff.mpr ⟨rfl, ha, rfl⟩
    have hblock : (Code.block [.act c]).next Registry.builtins w₁ =
        (w₁.later, .first (.statement (.act c)) (.block [])) := by
      rw [Code.next, hlate, if_neg Bool.false_ne_true]
    have hnext : (Code.statement (.act c)).next Registry.builtins w₁.later =
        (w₁.later, .act Action.create c) := by
      rw [Code.next, hready]
    have heval : .ok v = (w₁.later.eval c.object.source).mapError ActionError.eval :=
      hx ▸ rfl
    have hrun : Yields others
        (Action.create.run w₁.own.scope w₁.own.deadline c.result c.object)
        ⟨w₁.own.outbox, w₁.later.shared⟩ (.ok (.bind v)) ⟨w₁.own.outbox, w₁.later.shared⟩ :=
      yields_bind.mpr (.inl ⟨v, _, ActionM.yields_eval.mpr ⟨heval, rfl⟩,
        yields_pure.mpr ⟨rfl, rfl⟩⟩)
    exact .first hblock (.act hnext hrun) (.finish rfl)
  have hruns : Runs others Registry.builtins (.statement loop) w _ (.ok .proceed) _ :=
    .become rfl (.inside rfl (hround rfl rfl) (.inside rfl (hround rfl rfl) (.finish rfl)))
  have hyields := hruns.yields
  rw [Code.exec] at hyields
  have hloop (c : Command) : loop ≠ .act c := by simp [loop]
  have hkept := ((scopes_are_isolated others).1 Registry.builtins).restored loop w _ _ hloop hyields
  exact ⟨_, hyields, hloop, hkept.2.1⟩

end FeatureFlow
