import FeatureFlow.Proofs.Correspondence
import FeatureFlow.Proofs.Isolation

/-! What a choice comes to. Its cases are looked at one by one, with the bindings around the choice,
until one applies or cannot be read. -/
namespace FeatureFlow

variable {registry : Registry} {w w' w₁ : World Invocation} {name : String} {v : Value}

/-- Scopes that differ at most in whether a snapshot was kept. -/
structure Scope.Same (s s' : Scope) : Prop where
  name : s'.name = s.name
  bindings : s'.bindings = s.bindings
  parents : s'.parents = s.parents

namespace Scope.Same

variable {s s' s'' : Scope}

theorem refl : s.Same s := ⟨rfl, rfl, rfl⟩

theorem trans (h : s.Same s') (h' : s'.Same s'') : s.Same s'' :=
  ⟨h'.name.trans h.name, h'.bindings.trans h.bindings, h'.parents.trans h.parents⟩

theorem snapshotted : s.Same s.snapshot.2 := by
  have h : s.BindsOnly (fun _ => False) s.snapshot.2 := .snapshot
  exact ⟨h.name, h.bindings_eq fun _ => id, h.parents⟩

theorem find? (h : s.Same s') : s'.find? = s.find? := by
  funext x
  rw [Scope.find?, Scope.find?, h.bindings, h.parents]

theorem fresh (h : s.Same s') : s'.fresh name = s.fresh name := by
  obtain ⟨n, b, p, f, hf⟩ := s
  obtain ⟨n', b', p', f', hf'⟩ := s'
  obtain ⟨rfl, rfl, rfl⟩ := h
  rfl

theorem snapshot (h : s.Same s') : s'.snapshot.2 = s.snapshot.2 := by
  have hsnd (s : Scope) : s.snapshot.2 = Scope.mk s.name s.bindings s.parents
    (some ⟨⟨s.name, s.bindings⟩, s.parents⟩)
      (by rintro _ ⟨⟩; rfl) := by
    obtain ⟨n, b, p, f, hf⟩ := s
    cases f with
    | none => rfl
    | some snapshot =>
      cases hf snapshot rfl
      rfl
  obtain ⟨n, b, p, f, hf⟩ := s
  obtain ⟨n', b', p', f', hf'⟩ := s'
  obtain ⟨rfl, rfl, rfl⟩ := h
  rw [hsnd, hsnd]

end Scope.Same

/-- Nothing has happened between the two, but that a snapshot of the scope may have been kept. -/
structure World.Same (w w' : World Invocation) : Prop where
  scope : w.own.scope.Same w'.own.scope
  outbox : w'.own.outbox = w.own.outbox
  deadline : w'.own.deadline = w.own.deadline
  shared : w'.shared = w.shared

namespace World.Same

theorem refl : w.Same w := ⟨.refl, rfl, rfl, rfl⟩

theorem trans (h : w.Same w₁) (h' : w₁.Same w') : w.Same w' :=
  ⟨h.scope.trans h'.scope, h'.outbox.trans h.outbox, h'.deadline.trans h.deadline,
    h'.shared.trans h.shared⟩

theorem kept : w.Same w.kept := ⟨.snapshotted, rfl, rfl, rfl⟩

theorem within (h : w.Same w') (scope : Scope) : w'.within scope = w.within scope := by
  obtain ⟨⟨s, o, d⟩, x⟩ := w
  obtain ⟨⟨s', o', d'⟩, x'⟩ := w'
  obtain ⟨-, rfl, rfl, rfl⟩ := h
  rfl

theorem enter (h : w.Same w') : w'.enter name = w.enter name := by
  rw [World.enter, World.enter, Scope.child_fst, Scope.child_fst, h.scope.fresh, h.within]

theorem leave (h : w.Same w') : w'.leave w₁ = w.leave w₁ := by
  rw [World.leave, World.leave, h.scope.snapshot]

theorem start_inChild {α : Type} {x : Exec α} (h : w.Same w') :
    (Exec.inChild name x).start w' = (Exec.inChild name x).start w := by
  rw [Exec.start_inChild, Exec.start_inChild, h.enter]
  refine congrArg _ (funext fun p => funext fun s => ?_)
  rw [World.leaving, World.leaving, h.leave]

end World.Same

/-- What can be read depends on what is found and published, and not on which scope it is found in.
-/
theorem World.holds_congr {guard : Option Expression}
    (hfind : w'.own.scope.find? = w.own.scope.find?) (hshared : w'.shared = w.shared) :
    w'.holds guard = w.holds guard := by
  cases guard with
  | none => rfl
  | some e =>
    simp only [World.holds, World.eval, Scope.eval, Scope.resolve_congr hfind, hshared]

theorem World.find?_enter : (w.enter name).own.scope.find? = w.own.scope.find? := by
  funext x
  change (w.own.scope.child name).1.find? x = _
  rw [Scope.child_fst, Scope.find?_fresh]

/-- Whether a case applies to a value. Its guard is read only where its pattern fits, and as if it
stood before the choice. -/
def Case.applies (w : World Invocation) (v : Value) (c : Case Statement) : Except EvalError Bool :=
  match c.pattern.fits v with
  | .error e => .error e
  | .ok false => .ok false
  | .ok true => w.holds c.guard

section Cases

variable {c : Case Statement} {cases before : List (Case Statement)} {otherwise : Exec Flow}

theorem Case.applies_same (h : w.Same w') : c.applies w' v = c.applies w v := by
  rw [applies, applies, World.holds_congr h.scope.find? h.shared]

namespace Exec

/-- The first case is what its reading says. All that it may leave behind is a snapshot. -/
theorem start_runCases_applies :
    ∃ w', w.Same w' ∧ (runCases registry name v otherwise (c :: cases)).start w =
      match c.applies w v with
      | .error e => w'.ended (.error (.eval e))
      | .ok false => (runCases registry name v otherwise cases).start w'
      | .ok true => (inChild name (runBlock registry c.body)).start w := by
  obtain ⟨pattern, guard, body⟩ := c
  rw [start_runCases_cons, World.holds_congr World.find?_enter rfl]
  unfold Case.applies
  dsimp only
  match pattern.fits v with
  | .error e => exact ⟨w, .refl, rfl⟩
  | .ok false => exact ⟨w, .refl, rfl⟩
  | .ok true =>
    refine ⟨w.kept, .kept, ?_⟩
    generalize w.holds guard = g
    match g with
    | .error e => rfl
    | .ok false => rfl
    | .ok true => rfl

/-- Cases that do not apply leave nothing behind. -/
theorem start_runCases_append (h : ∀ c ∈ before, c.applies w v = .ok false) :
    ∃ w', w.Same w' ∧ (runCases registry name v otherwise (before ++ cases)).start w =
      (runCases registry name v otherwise cases).start w' := by
  induction before generalizing w with
  | nil => exact ⟨w, .refl, rfl⟩
  | cons c before ih =>
    obtain ⟨hc, hbefore⟩ := List.forall_mem_cons.mp h
    obtain ⟨w₁, hsame, hrun⟩ := @start_runCases_applies registry w name v c
      (before ++ cases) otherwise
    rw [hc] at hrun
    obtain ⟨w', hsame', hrest⟩ := ih fun b hb => (Case.applies_same hsame).trans (hbefore b hb)
    exact ⟨w', hsame.trans hsame', hrun.trans hrest⟩

end Exec

end Cases

/-- A choice runs the body of its first case that applies, from the world before it, and the cases
after that make no difference. If one before that cannot be read, or none applies and nothing is to
be done otherwise, the choice ends with nothing changed. A body and a guard find what the scope
around the choice does. -/
theorem choice_runs_first_that_applies (registry : Registry) (subject : Expression)
    (cases : List (Case Statement)) (otherwise : Option (List Statement)) (w : World Invocation) :
    let run := (Exec.runStatement registry (.choose subject cases otherwise)).start w
    let name := w.own.scope.name ++ "/match"
    let inside (body : List Statement) := (Exec.inChild name (Exec.runBlock registry body)).start w
    (∀ e, w.eval subject = .error e → run = w.ended (.error (.eval e))) ∧
    (∀ v, w.eval subject = .ok v →
      (∀ before c after, cases = before ++ c :: after → (∀ b ∈ before, b.applies w v = .ok false) →
        (c.applies w v = .ok true → run = inside c.body) ∧
        ∀ e, c.applies w v = .error e → ∃ w', w.Same w' ∧ run = w'.ended (.error (.eval e))) ∧
      ((∀ c ∈ cases, c.applies w v = .ok false) →
        (∀ body, otherwise = some body → run = inside body) ∧
        (otherwise = none → ∃ w', w.Same w' ∧ run = w'.ended (.ok .proceed)))) ∧
    (w.enter name).own.scope.find? = w.own.scope.find? := by
  intro run name inside
  have hpassed {v : Value} {before rest : List (Case Statement)} (hv : w.eval subject = .ok v)
      (hcases : cases = before ++ rest) (hbefore : ∀ b ∈ before, b.applies w v = .ok false) :
      ∃ w', w.Same w' ∧
        run = (Exec.runCases registry name v
          (Exec.runOtherwise registry name otherwise) rest).start w' := by
    obtain ⟨w', hsame, hrest⟩ := Exec.start_runCases_append hbefore
    refine ⟨w', hsame, Eq.trans ?_ hrest⟩
    change (Exec.runStatement registry (.choose subject cases otherwise)).start w = _
    rw [Exec.runStatement, Exec.start_bind_except Exec.start_eval, hv, hcases]
    exact Exec.start_get_bind
  refine ⟨?_, ?_, World.find?_enter⟩
  · intro e he
    change (Exec.runStatement registry (.choose subject cases otherwise)).start w = _
    rw [Exec.runStatement, Exec.start_bind_except Exec.start_eval, he]
  · intro v hv
    refine ⟨?_, ?_⟩
    · intro before c after hcases hbefore
      obtain ⟨w₁, hsame, hrun⟩ := hpassed hv hcases hbefore
      obtain ⟨w', hsame', hfirst⟩ := @Exec.start_runCases_applies registry w₁ name v c after
        (Exec.runOtherwise registry name otherwise)
      rw [Case.applies_same hsame] at hfirst
      refine ⟨?_, ?_⟩
      · intro happlies
        rw [hrun, hfirst, happlies]
        exact hsame.start_inChild
      · intro e he
        refine ⟨w', hsame.trans hsame', ?_⟩
        rw [hrun, hfirst, he]
    · intro hnone
      obtain ⟨w', hsame, hrun⟩ := hpassed hv cases.append_nil.symm hnone
      rw [Exec.runCases] at hrun
      refine ⟨?_, ?_⟩
      · rintro body rfl
        rw [hrun, Exec.runOtherwise, hsame.start_inChild]
      · rintro rfl
        exact ⟨w', hsame, hrun.trans (by rw [Exec.runOtherwise]; rfl)⟩

/-- A case whose guard cannot be read is passed over if its pattern does not fit, and a malformed
pattern does no harm behind the case that is chosen. -/
theorem malformed_case_fails_only_if_reached :
    let w : World Invocation := ⟨{ scope := Scope.bind { name := "job" } "kind" (.string "b") }, {}⟩
    let kind : Expression := .reference "kind" [] .whole
    let unfit : Case Statement := ⟨.literal (.string "a"), some (.unary .negate kind), []⟩
    let refused : Case Statement := ⟨.literal (.string "b"), some (.literal (.bool false)), []⟩
    let chosen : Case Statement := ⟨.literal (.string "b"), some kind, [.choose kind [] none]⟩
    let malformed : Case Statement := ⟨.regex "(", none, []⟩
    let start (cases : List (Case Statement)) :=
      (Exec.runStatement Registry.builtins (.choose kind cases none)).start w
    w.holds unfit.guard = .error (.negation "string") ∧
      start [unfit, refused, chosen, malformed] =
        (Exec.inChild "job/match" (Exec.runBlock Registry.builtins chosen.body)).start w ∧
      (∃ e w', w.Same w' ∧ start [unfit, refused, malformed, chosen] =
        w'.ended (.error (.eval (.pattern "(" e)))) ∧
      ∃ w', w.Same w' ∧ start [unfit, refused] = w'.ended (.ok .proceed) := by
  intro w kind unfit refused chosen malformed start
  have hkind : w.eval kind = .ok (.string "b") := rfl
  have hbefore : ∀ c ∈ [unfit, refused], c.applies w (.string "b") = .ok false :=
    List.forall_mem_cons.mpr ⟨rfl, List.forall_mem_singleton.mpr rfl⟩
  obtain ⟨e, hmalformed⟩ : ∃ e, malformed.applies w (.string "b") = .error (.pattern "(" e) :=
    ⟨_, rfl⟩
  have hchoice (cases : List (Case Statement)) :=
    (choice_runs_first_that_applies Registry.builtins kind cases none w).2.1 _ hkind
  have hchosen := ((hchoice _).1 [unfit, refused] chosen [malformed] rfl hbefore).1 rfl
  obtain ⟨w', hsame, hfailed⟩ := ((hchoice _).1 [unfit, refused] malformed
    [chosen] rfl hbefore).2 _ hmalformed
  exact ⟨rfl, hchosen, ⟨e, w', hsame, hfailed⟩, ((hchoice _).2 hbefore).2 rfl⟩

end FeatureFlow
