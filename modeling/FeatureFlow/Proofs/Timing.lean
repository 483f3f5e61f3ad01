import FeatureFlow.Proofs.Footprint

/-! Time in a run. The clock only goes forward, so a run that is over before its deadline was never
late, and does what it would do without one. -/
namespace FeatureFlow

variable {others : Services → Services → Prop} {registry : Registry} {code : Code}
    {w w' w₁ : World Invocation} {move : Move} {steps : List Step} {r : Except ExecutionError Flow}

theorem Code.next_deadline (h : code.next registry w = (w₁, move)) :
    w₁.own.deadline = w.own.deadline := by
  revert h
  fun_cases next registry code w <;> rintro ⟨⟩ <;> rfl

theorem Runs.deadline_eq (h : Runs others registry code w steps r w') :
    w'.own.deadline = w.own.deadline := by
  induction h with
  | stop hn | finish hn => exact Code.next_deadline hn
  | @act _ _ _ _ _ o _ _ hn =>
    have hkept := Code.next_deadline hn
    cases o <;> exact hkept
  | become hn _ ih | firstEnded hn _ _ ih | insideEnded hn _ _ ih =>
    have hkept := Code.next_deadline hn
    exact Eq.trans ih hkept
  | first hn _ _ ih ihrest | inside hn _ _ ih ihrest =>
    have hkept := Code.next_deadline hn
    exact Eq.trans ihrest (Eq.trans ih hkept)

section Clock

variable (hothers : ∀ s s', others s s' → s.clock ≤ s'.clock)

include hothers

theorem Action.Effect.clock_le {a : Action} {target : Target} {object : Object}
    {u u' : World (List Emission)} {o : Except ActionError Outcome}
    (h : a.Effect others target object u o u') : u.shared.clock ≤ u'.shared.clock := by
  cases h with
  | waited _ hs => exact hothers _ _ hs
  | stored _ _ hs =>
    rw [Services.store_eq hs]
    exact Nat.le_refl _
  | _ => exact Nat.le_refl _

theorem Runs.clock_le (h : Runs others Registry.builtins code w steps r w') :
    w.shared.clock ≤ w'.shared.clock := by
  refine h.shared (P := fun s s' => s.clock ≤ s'.clock) ?_ (fun _ _ _ => Nat.le_trans) ?_
  · intro s s' haged
    cases haged with
    | elapsed => exact Nat.le_add_right ..
    | _ => exact Nat.le_refl _
  · intro c _ a scope deadline o u u' ha hrun
    exact (Action.builtin_effect (Registry.get?_builtins.mp ha).1 hrun).clock_le hothers

/-- A run that is not late at its end was not late at its beginning. -/
theorem Runs.onTime (h : Runs others Registry.builtins code w steps r w')
    (hlate : w'.late = false) :
    w.late = false := by
  have hclock := h.clock_le hothers
  rw [World.late, h.deadline_eq] at hlate
  rw [World.late]
  cases hd : w.own.deadline with
  | none => rfl
  | some d =>
    rw [hd] at hlate
    simp only [Option.any_some, decide_eq_false_iff_not] at hlate ⊢
    omega

end Clock

/-- The same without a deadline. -/
def World.unlimited (w : World Invocation) : World Invocation :=
  ⟨{ w.own with deadline := none }, w.shared⟩

theorem Code.next_unlimited (h : code.next registry w = (w₁, move)) (hlate : w₁.late = false) :
    code.next registry w.unlimited = (w₁.unlimited, move) := by
  revert h
  have hnever : w.unlimited.later.late = false := rfl
  have hready (c : Command) : w.unlimited.ready registry c = w.ready registry c := rfl
  have heval (e : Expression) : w.unlimited.eval e = w.eval e := rfl
  have hitems (e : Expression) : w.unlimited.items e = w.items e := rfl
  have hguard (name : String) (guard : Option Expression) :
      (w.unlimited.enter name).holds guard = (w.enter name).holds guard := rfl
  have hfilter (name : String) (bind : Scope → Scope) (filter : Option Expression) :
      ((w.unlimited.later.enter name).adjust bind).holds filter =
        ((w.later.enter name).adjust bind).holds filter := rfl
  fun_cases next registry code w <;> rintro ⟨⟩ <;>
    simp_all only [next, Bool.false_eq_true, if_false] <;> rfl

/-- Of the built-in actions only the one that waits looks at the deadline. -/
theorem Action.run_unlimited {a : Action} (ha : a ∈ Registry.builtinActions) (hwait : a ≠ keepalive)
    (scope : Scope) (deadline : Option Nat) (target : Target) (object : Object) :
    a.run scope deadline target object = a.run scope none target object := by
  simp only [Registry.builtinActions, List.mem_cons, List.not_mem_nil, or_false] at ha
  rcases ha with rfl | rfl | rfl | rfl | rfl | rfl | rfl | rfl |
    rfl | rfl | rfl | rfl | rfl | rfl | rfl
  all_goals first | rfl | exact absurd rfl hwait

/-- No command of the code, at any depth, waits. -/
def Code.Unwaiting (code : Code) : Prop :=
  ∀ c ∈ code.allCommands, Registry.lower c.action ∉ Action.keepalive.verbs

theorem Code.Unwaiting.part {part : Code} (hcode : code.Unwaiting)
    (h : code.next registry w = (w₁, move)) (hp : part ∈ move.parts) : part.Unwaiting :=
  fun c hc => hcode c (Code.allCommands_part h hp hc)

/-- A deadline that has not passed when a run is over made no difference to it. -/
theorem Runs.unlimited (hothers : ∀ s s', others s s' → s.clock ≤ s'.clock)
    (h : Runs others Registry.builtins code w steps r w') (hcode : code.Unwaiting)
    (hlate : w'.late = false) :
    Runs others Registry.builtins code w.unlimited steps r w'.unlimited := by
  induction h with
  | stop hn => exact .stop (Code.next_unlimited hn hlate)
  | finish hn => exact .finish (Code.next_unlimited hn hlate)
  | @act _ _ w₁ a c o outbox s hn ha =>
    obtain ⟨rfl, rfl, hready⟩ := Code.next_act hn
    obtain ⟨hbuiltin, hverb⟩ := Registry.get?_builtins.mp (World.ready_some_iff.mp hready).2.1
    have hwait : a ≠ Action.keepalive := by
      rintro rfl
      exact hcode c (by simp [Code.allCommands, Statement.commands]) hverb
    have hlate₁ : w₁.late = false := (Runs.act hn ha).onTime hothers hlate
    rw [Action.run_unlimited hbuiltin hwait] at ha
    have hacted : Runs others Registry.builtins _ w₁.unlimited [.acted c a o] _ _ :=
      .act (Code.next_unlimited hn hlate₁) ha
    cases o <;> exact hacted
  | become hn hc ih =>
    have hpart := hcode.part hn (List.mem_singleton_self _)
    exact .become (Code.next_unlimited hn (hc.onTime hothers hlate)) (ih hpart hlate)
  | firstEnded hn hc hr ih =>
    have hpart := hcode.part hn List.mem_cons_self
    exact .firstEnded (Code.next_unlimited hn (hc.onTime hothers hlate)) (ih hpart hlate) hr
  | first hn hc hrest ih ihrest =>
    have hlate₂ := hrest.onTime hothers hlate
    have hpart := hcode.part hn List.mem_cons_self
    have hafter := hcode.part hn (List.mem_cons_of_mem _ List.mem_cons_self)
    exact .first (Code.next_unlimited hn (hc.onTime hothers hlate₂)) (ih hpart hlate₂)
      (ihrest hafter hlate)
  | insideEnded hn hb hr ih =>
    have hlate₁ := hb.onTime hothers hlate
    have hpart := hcode.part hn List.mem_cons_self
    exact .insideEnded (Code.next_unlimited hn hlate₁) (ih hpart hlate) hr
  | inside hn hb hrest ih ihrest =>
    have hlate₂ := hrest.onTime hothers hlate
    have hlate₁ := hb.onTime hothers hlate₂
    have hpart := hcode.part hn List.mem_cons_self
    have hafter := hcode.part hn (List.mem_cons_of_mem _ List.mem_cons_self)
    exact .inside (Code.next_unlimited hn hlate₁) (ih hpart hlate₂) (ihrest hafter hlate)

/-- The same of a feature set that is done at once. -/
theorem FeatureSet.run_unlimited {f : FeatureSet} (hcode : (Code.block f.statements).Unwaiting)
    {scope : Scope} {deadline : Option Nat} {s s' : Services} {run : Run}
    (h : f.run Registry.builtins scope deadline s = .done s' run) :
    s.clock ≤ s'.clock ∧ (deadline.any (· ≤ s'.clock) = false →
      f.run Registry.builtins scope none s = .done s' run) := by
  let never : Services → Services → Prop := fun _ _ => False
  have hnever : ∀ s s', never s s' → s.clock ≤ s'.clock := fun _ _ h => h.elim
  have hends : Task.Ends never (f.run Registry.builtins scope deadline s) s' run := h ▸ .done
  obtain ⟨_, ⟨result, own⟩, hexec, hdone⟩ := Task.ends_bind.mp hends
  obtain ⟨rfl, rfl⟩ := Task.ends_done.mp hdone
  have hyields : Yields never (f.exec Registry.builtins) ⟨{ scope, deadline }, s⟩ result
      ⟨own, s'⟩ := hexec
  obtain ⟨steps, r, hruns, rfl⟩ := FeatureSet.yields_iff_runs.mp hyields
  refine ⟨hruns.clock_le hnever, ?_⟩
  intro hlate
  have honTime : World.late ⟨own, s'⟩ = false := by
    rw [World.late, hruns.deadline_eq]
    exact hlate
  have hunlimited := FeatureSet.yields_iff_runs.mpr
    ⟨steps, r, hruns.unlimited hnever hcode honTime, rfl⟩
  exact Task.Ends.eq_done (Task.ends_bind.mpr ⟨s', _, hunlimited, .done⟩)

end FeatureFlow
