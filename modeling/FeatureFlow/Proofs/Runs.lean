import FeatureFlow.Proofs.Ends

/-! Runs as sequences of steps. In each world a piece of code has one next move, and a run is made
of the moves of its pieces. The steps of a run are the actions it ran and the error that stopped it.
-/
namespace FeatureFlow

variable {others : Services → Services → Prop} {registry : Registry}

namespace World

variable (w : World Invocation)

/-- The same with the scope changed. -/
def adjust (f : Scope → Scope) : World Invocation := w.within (f w.own.scope)

/-- After a child scope in which nothing ran. -/
def kept : World Invocation := w.leave w

/-- The items of a collection. -/
def items (collection : Expression) : Except ExecutionError (List Value) :=
  match w.eval collection with
  | .error e => .error (.eval e)
  | .ok v => Exec.itemsOf v

end World

/-- What can be left to run. -/
inductive Code where
  | block (statements : List Statement)
  | statement (s : Statement)
  | choice (name : String) (v : Value) (otherwise : Option (List Statement))
      (cases : List (Case Statement))
  | items (base : String) (bind : Value → Nat → Scope → Scope) (filter : Option Expression)
    (body : List Statement) (i : Nat) (values : List Value)

/-- What a piece of code does next. -/
inductive Move where
  | stop (e : ExecutionError)
  | finish
  | act (a : Action) (c : Command)
  | become (code : Code)
  /-- The second piece is left out if the first one ends the run. -/
  | first (code rest : Code)
  /-- The same with a block in a child scope, to which something is done before. -/
  | inside (name : String) (prepare : Scope → Scope) (body : List Statement) (rest : Code)

namespace Exec

/-- Leaves out the second part if the first one responds. -/
def andThen (x y : Exec Flow) : Exec Flow := do
  match ← x with
  | .respond r => return .respond r
  | .proceed => y

end Exec

def Code.exec (registry : Registry) : Code → Exec Flow
  | .block statements => Exec.runBlock registry statements
  | .statement s => Exec.runStatement registry s
  | .choice name v otherwise cases =>
    Exec.runCases registry name v (Exec.runOtherwise registry name otherwise) cases
  | .items base bind filter body i values =>
    Exec.runItems base bind filter (Exec.runBlock registry body) i values

def Move.exec (registry : Registry) : Move → Exec Flow
  | .stop e => throw e
  | .finish => return .proceed
  | .act a c => Exec.act a c
  | .become code => code.exec registry
  | .first code rest => Exec.andThen (code.exec registry) (rest.exec registry)
  | .inside name prepare body rest =>
    Exec.andThen (Exec.inChild name do
        Exec.modifyScope prepare
        Exec.runBlock registry body)
      (rest.exec registry)

/-- The next move, and the world it is made in. -/
def Code.next (registry : Registry) : Code → World Invocation → World Invocation × Move
  | .block [], w => (w, .finish)
  | .block (s :: rest), w =>
    if w.later.late then (w.later, .stop (.deadline w.own.scope.name))
    else (w.later, .first (.statement s) (.block rest))
  | .statement (.act c), w => match w.ready registry c with
    | .error e => (w, .stop e)
    | .ok none => (w, .finish)
    | .ok (some a) => (w, .act a c)
  | .statement (.choose subject cases otherwise), w => match w.eval subject with
    | .error e => (w, .stop (.eval e))
    | .ok v => (w, .become (.choice (w.own.scope.name ++ "/match") v otherwise cases))
  | .statement (.forEach item index collection filter body), w => match w.items collection with
    | .error e => (w, .stop e)
    | .ok values =>
      (w, .become (.items w.own.scope.name (Exec.bindItem item index) filter body 0 values))
  | .choice _ _ none [], w => (w, .finish)
  | .choice name _ (some body) [], w => (w, .inside name id body (.block []))
  | .choice name v otherwise (⟨pattern, guard, body⟩ :: cases), w => match pattern.fits v with
    | .error e => (w, .stop (.eval e))
    | .ok false => (w, .become (.choice name v otherwise cases))
    | .ok true => match (w.enter name).holds guard with
      | .error e => (w.kept, .stop (.eval e))
      | .ok false => (w.kept, .become (.choice name v otherwise cases))
      | .ok true => (w, .inside name id body (.block []))
  | .items _ _ _ _ _ [], w => (w, .finish)
  | .items base bind filter body i (v :: values), w =>
    if w.later.late then (w.later, .stop (.deadline w.own.scope.name)) else
    match ((w.later.enter s!"{base}[{i}]").adjust (bind v i)).holds filter with
    | .error e => (w.later.kept, .stop (.eval e))
    | .ok false => (w.later.kept, .become (.items base bind filter body (i + 1) values))
    | .ok true =>
      (w.later,
        .inside s!"{base}[{i}]" (bind v i) body (.items base bind filter body (i + 1) values))

section Adequacy

variable {w w' : World Invocation} {r : Except ExecutionError Flow}

theorem Exec.yields_modifyScope {f : Scope → Scope} {r : Except ExecutionError Unit} :
    Yields others (modifyScope f) w r w' ↔ r = .ok () ∧ w' = w.adjust f := yields_modify

theorem Exec.yields_andThen {x y : Exec Flow} :
    Yields others (andThen x y) w r w' ↔
      (Yields others x w r w' ∧ r ≠ .ok .proceed) ∨
        ∃ w₁, Yields others x w (.ok .proceed) w₁ ∧ Yields others y w₁ r w' := by
  rw [andThen, yields_bind]
  constructor
  · rintro (⟨flow, w₁, hx, hy⟩ | ⟨e, hx, rfl⟩)
    · cases flow with
      | proceed => exact .inr ⟨w₁, hx, hy⟩
      | respond a =>
        obtain ⟨rfl, rfl⟩ := yields_pure.mp hy
        exact .inl ⟨hx, by simp⟩
    · exact .inl ⟨hx, by simp⟩
  · rintro (⟨hx, hr⟩ | ⟨w₁, hx, hy⟩)
    · rcases r with e | (_ | a)
      · exact .inr ⟨e, hx, rfl⟩
      · exact absurd rfl hr
      · exact .inl ⟨.respond a, w', hx, yields_pure.mpr ⟨rfl, rfl⟩⟩
    · exact .inl ⟨.proceed, w₁, hx, hy⟩

theorem Exec.yields_inside {name : String} {prepare : Scope → Scope} {x : Exec Flow} :
    Yields others (inChild name do
        modifyScope prepare
        x) w r w' ↔
      ∃ w₁, Yields others x ((w.enter name).adjust prepare) r w₁ ∧ w' = w.leave w₁ := by
  simp only [yields_inChild, yields_bind_ok yields_modifyScope]

theorem Exec.yields_onTime {x : Exec Flow} :
    Yields others (checkDeadline >>= fun _ => x) w r w' ↔
      if w.later.late then r = .error (.deadline w.own.scope.name) ∧ w' = w.later
      else Yields others x w.later r w' := by
  change Task.Ends others (Exec.start _ w) w'.shared (r, w'.own) ↔ _
  rw [start_onTime]
  cases w.later.late with
  | true => exact ends_ended
  | false => exact Iff.rfl

/-- What is left to do when the first of two parts has ended. -/
def Exec.onward (y : Exec Flow) :
    Except ExecutionError Flow × Invocation → Services →
      Task (Except ExecutionError Flow × Invocation)
  | (.ok .proceed, own), s => y.start ⟨own, s⟩
  | (.ok (.respond a), own), s => .done s (.ok (.respond a), own)
  | (.error e, own), s => .done s (.error e, own)

theorem Exec.start_andThen {x y : Exec Flow} :
    (andThen x y).start w = (x.start w).bind (onward y) := by
  rw [andThen, start_bind]
  refine congrArg (x.start w).bind (funext fun p => funext fun s => ?_)
  obtain ⟨_ | _ | a, own⟩ := p <;> rfl

theorem Exec.start_andThen_finish {x : Exec Flow} :
    (andThen x (return .proceed)).start w = x.start w := by
  rw [start_andThen]
  refine Eq.trans (congrArg (x.start w).bind (funext fun p => funext fun s => ?_))
    (Task.bind_done _)
  obtain ⟨_ | _ | a, own⟩ := p <;> rfl

theorem Exec.modifyScope_id {α : Type} {x : Exec α} : (do modifyScope id; x) = x := rfl

/-- A guard is read in the child scope, which is left again if it does not hold. -/
theorem Exec.start_inChild_guard {α : Type} {name : String} {prepare : Scope → Scope}
    {guard : Option Expression} {x : Exec α} {a : α} :
    Exec.start (inChild name do
        modifyScope prepare
        if ← holds guard then x else return a) w =
      match ((w.enter name).adjust prepare).holds guard with
      | .error e => w.kept.ended (.error (.eval e))
      | .ok false => w.kept.ended (.ok a)
      | .ok true => Exec.start (inChild name do
          modifyScope prepare
          x) w := by
  have hprepared : (modifyScope prepare).start (w.enter name) =
      ((w.enter name).adjust prepare).ended (.ok ()) := rfl
  rw [start_inChild, start_inChild, start_bind_ok hprepared, start_bind_ok hprepared,
    start_bind_except start_holds]
  match ((w.enter name).adjust prepare).holds guard with
  | .error e => rfl
  | .ok false => rfl
  | .ok true => rfl

/-- What a child scope returns can be marked and taken as it is. -/
theorem Exec.start_inChild_some {name : String} {x otherwise : Exec Flow} :
    Exec.start (do
        match ← inChild name (do return some (← x)) with
        | some flow => return flow
        | none => otherwise) w = (inChild name x).start w := by
  rw [start_bind, start_inChild, start_inChild, start_bind, Task.bind_assoc, Task.bind_assoc]
  refine congrArg (x.start (w.enter name)).bind (funext fun p => funext fun s => ?_)
  obtain ⟨_ | flow, own⟩ := p <;> rfl

/-- The first case is taken, passed over, or fails to be read. -/
theorem Exec.start_runCases_cons {name : String} {v : Value} {otherwise : Exec Flow}
    {pattern : Pattern} {guard : Option Expression} {body : List Statement}
    {cases : List (Case Statement)} :
    (runCases registry name v otherwise (⟨pattern, guard, body⟩ :: cases)).start w =
      match pattern.fits v with
      | .error e => w.ended (.error (.eval e))
      | .ok false => (runCases registry name v otherwise cases).start w
      | .ok true => match (w.enter name).holds guard with
        | .error e => w.kept.ended (.error (.eval e))
        | .ok false => (runCases registry name v otherwise cases).start w.kept
        | .ok true => (inChild name (runBlock registry body)).start w := by
  rw [runCases, start_bind_except start_ofExcept]
  match pattern.fits v with
  | .error e => rfl
  | .ok false => rfl
  | .ok true =>
    have hguard := @start_inChild_guard w (Option Flow) name id guard
      (do return some (← runBlock registry body)) none
    change _ = match ((w.enter name).adjust id).holds guard with
      | .error e => _
      | .ok false => _
      | .ok true => _
    generalize ((w.enter name).adjust id).holds guard = g at hguard ⊢
    match g with
    | .error e => exact start_bind_error hguard
    | .ok false => exact start_bind_ok hguard
    | .ok true => exact (start_bind_congr hguard).trans start_inChild_some

/-- Code does what its next move does. -/
theorem Code.start_next (code : Code) (w : World Invocation) :
    (code.exec registry).start w =
      ((code.next registry w).2.exec registry).start (code.next registry w).1 := by
  match code with
  | .block [] =>
    rw [exec, Exec.runBlock]
    rfl
  | .block (s :: rest) =>
    rw [exec, Exec.runBlock, Exec.start_onTime, next]
    cases w.later.late <;> rfl
  | .statement (.act c) =>
    rw [exec, Exec.runStatement, Exec.start_runCommand, next]
    cases w.ready registry c with
    | error e => rfl
    | ok a => cases a <;> rfl
  | .statement (.choose subject cases otherwise) =>
    rw [exec, Exec.runStatement, Exec.start_bind_except Exec.start_eval, next]
    cases w.eval subject with
    | error e => rfl
    | ok v => exact Exec.start_get_bind
  | .statement (.forEach item index collection filter body) =>
    rw [exec, Exec.runStatement, Exec.start_bind_except Exec.start_eval, next, World.items]
    cases w.eval collection with
    | error e => rfl
    | ok v =>
      refine (Exec.start_bind_except Exec.start_ofExcept).trans ?_
      dsimp only
      cases Exec.itemsOf v with
      | error e => rfl
      | ok values => exact Exec.start_get_bind
  | .choice _ _ none [] =>
    rw [exec, Exec.runCases, Exec.runOtherwise]
    rfl
  | .choice name v (some body) [] =>
    rw [exec, Exec.runCases, Exec.runOtherwise, next, Move.exec, exec, Exec.runBlock,
      Exec.start_andThen_finish, Exec.modifyScope_id]
  | .choice name v otherwise (⟨pattern, guard, body⟩ :: cases) =>
    rw [exec, Exec.start_runCases_cons, next]
    match pattern.fits v with
    | .error e => rfl
    | .ok false => rfl
    | .ok true =>
      match (w.enter name).holds guard with
      | .error e => rfl
      | .ok false => rfl
      | .ok true =>
        simp only [Move.exec, exec, Exec.runBlock, Exec.start_andThen_finish, Exec.modifyScope_id]
  | .items _ _ _ _ _ [] => rfl
  | .items base bind filter body i (v :: values) =>
    rw [exec, Exec.runItems, Exec.start_onTime, next]
    cases w.later.late with
    | true => rfl
    | false =>
      have hguard := @Exec.start_inChild_guard w.later Flow s!"{base}[{i}]" (bind v i) filter
        (Exec.runBlock registry body) .proceed
      generalize ((w.later.enter s!"{base}[{i}]").adjust (bind v i)).holds filter = g at hguard ⊢
      match g with
      | .error e => exact Exec.start_bind_error hguard
      | .ok false => exact Exec.start_bind_ok hguard
      | .ok true => exact Exec.start_bind_congr hguard

theorem Code.yields_move {code : Code} {w₁ : World Invocation} {move : Move}
    (h : code.next registry w = (w₁, move)) :
    Yields others (code.exec registry) w r w' ↔ Yields others (move.exec registry) w₁ r w' := by
  change Task.Ends others ((code.exec registry).start w) w'.shared (r, w'.own) ↔ _
  rw [start_next, h]
  exact Iff.rfl

/-- The pieces that a move leaves to run. -/
def Move.parts : Move → List Code
  | .become code => [code]
  | .first code rest => [code, rest]
  | .inside _ _ body rest => [.block body, rest]
  | _ => []

/-- The size of the text, then the number of rounds. -/
noncomputable def Code.rank : Code → Nat × Nat
  | .block statements => (sizeOf statements, 0)
  | .statement s => (sizeOf s, 0)
  | .choice _ _ otherwise cases => (sizeOf otherwise + sizeOf cases, 0)
  | .items _ _ _ body _ values => (sizeOf body, values.length + 1)

theorem Code.rank_part {code part : Code} (h : part ∈ (code.next registry w).2.parts) :
    Prod.Lex (· < ·) (· < ·) part.rank code.rank := by
  rw [Prod.lex_def]
  revert h
  fun_cases next registry code w <;>
    simp only [Move.parts, List.mem_cons, List.not_mem_nil, or_false, false_implies] <;>
    (try rintro (rfl | rfl)) <;> simp [rank] <;> omega

/-- Only a command runs an action. -/
theorem Code.next_act {code : Code} {w₁ : World Invocation} {a : Action} {c : Command}
    (h : code.next registry w = (w₁, .act a c)) :
    code = .statement (.act c) ∧ w₁ = w ∧ w.ready registry c = .ok (some a) := by
  revert h
  fun_cases next registry code w <;> intro h <;> cases h
  exact ⟨rfl, rfl, ‹_›⟩

theorem Code.next_command {c : Command} {a : Action} (h : w.ready registry c = .ok (some a)) :
    (statement (.act c)).next registry w = (w, .act a c) := by
  rw [next, h]

/-- A step of a run: an action with how it ended, or an error that no action raised. -/
inductive Step where
  | acted (c : Command) (a : Action) (ended : Except ActionError Outcome)
  | stopped (e : ExecutionError)

/-- From the first world code can run in these steps to this result in the second. -/
inductive Runs (others : Services → Services → Prop) (registry : Registry) :
    Code → World Invocation → List Step → Except ExecutionError Flow → World Invocation → Prop where
  | stop {code w w' e} (h : code.next registry w = (w', .stop e)) :
      Runs others registry code w [.stopped e] (.error e) w'
  | finish {code w w'} (h : code.next registry w = (w', .finish)) :
      Runs others registry code w [] (.ok .proceed) w'
  | act {code w w₁ a c o outbox s} (h : code.next registry w = (w₁, .act a c))
      (ha : Yields others (a.run w₁.own.scope w₁.own.deadline c.result c.object)
        ⟨w₁.own.outbox, w₁.shared⟩ o ⟨outbox, s⟩) :
      Runs others registry code w [.acted c a o]
        (World.settled ⟨{ w₁.own with outbox }, s⟩ a.role c o).1
        (World.settled ⟨{ w₁.own with outbox }, s⟩ a.role c o).2
  | become {code w w₁ code' steps r w'} (h : code.next registry w = (w₁, .become code'))
      (hc : Runs others registry code' w₁ steps r w') : Runs others registry code w steps r w'
  | firstEnded {code w w₁ code' rest steps r w'}
      (h : code.next registry w = (w₁, .first code' rest))
      (hc : Runs others registry code' w₁ steps r w') (hr : r ≠ .ok .proceed) :
      Runs others registry code w steps r w'
  | first {code w w₁ code' rest steps w₂ steps' r w'}
      (h : code.next registry w = (w₁, .first code' rest))
      (hc : Runs others registry code' w₁ steps (.ok .proceed) w₂)
      (hrest : Runs others registry rest w₂ steps' r w') :
      Runs others registry code w (steps ++ steps') r w'
  | insideEnded {code w w₁ name prepare body rest steps r w'}
      (h : code.next registry w = (w₁, .inside name prepare body rest))
      (hb : Runs others registry (.block body) ((w₁.enter name).adjust prepare) steps r w')
      (hr : r ≠ .ok .proceed) : Runs others registry code w steps r (w₁.leave w')
  | inside {code w w₁ name prepare body rest steps w₂ steps' r w'}
      (h : code.next registry w = (w₁, .inside name prepare body rest))
      (hb : Runs others registry (.block body) ((w₁.enter name).adjust prepare) steps
        (.ok .proceed) w₂)
      (hrest : Runs others registry rest (w₁.leave w₂) steps' r w') :
      Runs others registry code w (steps ++ steps') r w'

theorem Runs.yields {code : Code} {steps : List Step} (h : Runs others registry code w steps r w') :
    Yields others (code.exec registry) w r w' := by
  induction h with
  | stop h => exact (Code.yields_move h).mpr (yields_throw.mpr ⟨rfl, rfl⟩)
  | finish h => exact (Code.yields_move h).mpr (yields_pure.mpr ⟨rfl, rfl⟩)
  | act h ha => exact (Code.yields_move h).mpr (Exec.yields_act.mpr ⟨_, _, _, ha, rfl⟩)
  | become h _ ih => exact (Code.yields_move h).mpr ih
  | firstEnded h _ hr ih => exact (Code.yields_move h).mpr (Exec.yields_andThen.mpr (.inl ⟨ih, hr⟩))
  | first h _ _ ih ihrest =>
    exact (Code.yields_move h).mpr (Exec.yields_andThen.mpr (.inr ⟨_, ih, ihrest⟩))
  | insideEnded h _ hr ih =>
    have hb := Exec.yields_inside.mpr ⟨_, ih, rfl⟩
    exact (Code.yields_move h).mpr (Exec.yields_andThen.mpr (.inl ⟨hb, hr⟩))
  | inside h _ _ ih ihrest =>
    have hb := Exec.yields_inside.mpr ⟨_, ih, rfl⟩
    exact (Code.yields_move h).mpr (Exec.yields_andThen.mpr (.inr ⟨_, hb, ihrest⟩))

/-- The proof is by induction on the rank, since a loop runs one body again and again. -/
theorem Code.exists_runs {code : Code} {w w' : World Invocation} {r : Except ExecutionError Flow}
    (h : Yields others (code.exec registry) w r w') :
    ∃ steps, Runs others registry code w steps r w' := by
  obtain ⟨⟨w₁, move⟩, hn⟩ : ∃ p, code.next registry w = p := ⟨_, rfl⟩
  have hrank {part : Code} (hp : part ∈ move.parts) :
      Prod.Lex (· < ·) (· < ·) part.rank code.rank := by
    apply rank_part (w := w)
    rwa [hn]
  rw [yields_move hn] at h
  cases move with
  | stop e =>
    obtain ⟨rfl, rfl⟩ := yields_throw.mp h
    exact ⟨_, .stop hn⟩
  | finish =>
    obtain ⟨rfl, rfl⟩ := yields_pure.mp h
    exact ⟨_, .finish hn⟩
  | act a c =>
    obtain ⟨o, outbox, s, ha, hs⟩ := Exec.yields_act.mp h
    obtain ⟨rfl, rfl⟩ := Prod.mk.injEq .. ▸ hs
    exact ⟨_, .act hn ha⟩
  | become code' =>
    obtain ⟨steps, hc⟩ := exists_runs h
    exact ⟨steps, .become hn hc⟩
  | first code' rest =>
    rcases Exec.yields_andThen.mp h with ⟨hc, hr⟩ | ⟨w₂, hc, hrest⟩
    · obtain ⟨steps, hc⟩ := exists_runs hc
      exact ⟨steps, .firstEnded hn hc hr⟩
    · obtain ⟨steps, hc⟩ := exists_runs hc
      obtain ⟨steps', hrest⟩ := exists_runs hrest
      exact ⟨_, .first hn hc hrest⟩
  | inside name prepare body rest =>
    have inner {w₃ : World Invocation} {r' : Except ExecutionError Flow} :=
      @exists_runs (.block body) ((w₁.enter name).adjust prepare) w₃ r'
    rcases Exec.yields_andThen.mp h with ⟨hb, hr⟩ | ⟨w₂, hb, hrest⟩
    · obtain ⟨w₃, hx, rfl⟩ := Exec.yields_inside.mp hb
      obtain ⟨steps, hx⟩ := inner hx
      exact ⟨steps, .insideEnded hn hx hr⟩
    · obtain ⟨w₃, hx, rfl⟩ := Exec.yields_inside.mp hb
      obtain ⟨steps, hx⟩ := inner hx
      obtain ⟨steps', hrest⟩ := exists_runs hrest
      exact ⟨_, .inside hn hx hrest⟩
termination_by code.rank
decreasing_by all_goals exact hrank (by simp [Move.parts])

/-- The runs of code are what it can do. -/
theorem Code.yields_iff_runs {code : Code} :
    Yields others (code.exec registry) w r w' ↔ ∃ steps, Runs others registry code w steps r w' :=
  ⟨Code.exists_runs, fun ⟨_, h⟩ => h.yields⟩

end Adequacy

end FeatureFlow
