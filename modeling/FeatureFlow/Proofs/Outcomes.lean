import FeatureFlow.Proofs.Ends
import FeatureFlow.Proofs.Registry

/-! Of the built-in actions only accept assigns a name that is not the result's, and it is the one
that its object refers to. -/
namespace FeatureFlow

variable {α β ε σ : Type} {others : Services → Services → Prop}

/-- What the computation returns has a property. -/
def Returns (others : Services → Services → Prop) (x : ExceptT ε (StateT σ Process) α)
    (P : α → Prop) : Prop :=
  ∀ w a w', Yields others x w (.ok a) w' → P a

theorem returns_pure {a : α} {P : α → Prop} (h : P a) :
    Returns others (pure a : ExceptT ε (StateT σ Process) α) P := by
  intro w b w' hb
  cases (yields_pure.mp hb).1
  exact h

theorem returns_throw {e : ε} {P : α → Prop} :
    Returns others (throw e : ExceptT ε (StateT σ Process) α) P := by
  intro w b w' hb
  cases (yields_throw.mp hb).1

theorem Returns.bind {x : ExceptT ε (StateT σ Process) β} {f : β → ExceptT ε (StateT σ Process) α}
    {Q : β → Prop} {P : α → Prop} (hx : Returns others x Q)
      (hf : ∀ b, Q b → Returns others (f b) P) :
    Returns others (x >>= f) P := by
  intro w a w' h
  rcases yields_bind.mp h with ⟨b, w₁, hb, ha⟩ | ⟨e, -, he⟩
  · exact hf b (hx w b w₁ hb) w₁ a w' ha
  · cases he

/-- What came before does not matter. -/
theorem returns_last {x : ExceptT ε (StateT σ Process) β} {f : β → ExceptT ε (StateT σ Process) α}
    {P : α → Prop} (hf : ∀ b, Returns others (f b) P) : Returns others (x >>= f) P :=
  Returns.bind (Q := fun _ => True) (fun _ _ _ _ => trivial) fun b _ => hf b

theorem ActionM.returns_ofExcept {δ : Type} {wrap : δ → ActionError} {x : Except δ α} {P : α → Prop}
    (h : ∀ a, x = .ok a → P a) : Returns others (ofExcept wrap x) P := by
  cases x with
  | ok a => exact returns_pure (h a rfl)
  | error e => exact returns_throw

def Outcome.AssignsNothing (o : Outcome) : Prop := ∀ name v, o ≠ .assign name v

namespace Action

variable {scope : Scope} {deadline : Option Nat} {target : Target} {object : Object}

theorem ofValue_assigns_nothing {role : Role} {verbs : List String}
    {prepositions : List Preposition} {f : Target → Value → Except ActionError Outcome}
    (h : ∀ target v o, f target v = .ok o → o.AssignsNothing) :
    Returns others ((ofValue role verbs prepositions f).run scope deadline target object)
      Outcome.AssignsNothing :=
  returns_last fun v => ActionM.returns_ofExcept (h target v)

theorem update_assigns_nothing :
    Returns others (update.run scope deadline target object) Outcome.AssignsNothing := by
  refine returns_last fun found => returns_last fun fields => returns_last fun v => ?_
  cases v with
  | map patch => exact returns_pure nofun
  | _ => exact returns_throw

theorem keepalive_assigns_nothing :
    Returns others (keepalive.run scope deadline target object) Outcome.AssignsNothing := by
  refine returns_last fun wake => ?_
  cases wake with
  | signal => exact returns_pure nofun
  | deadline => exact returns_throw

theorem fieldOf_source {name : String} {path : List String} {field : String}
    (h : fieldOf object = .ok (name, path, field)) :
    ∃ specifier, object.source = .reference name path specifier := by
  unfold fieldOf at h
  split at h
  · rename_i name' path' specifier hs
    split at h
    · cases h
      exact ⟨specifier, hs⟩
    · cases h
  · cases h

theorem accept_assigns_object : Returns others (accept.run scope deadline target object) fun o =>
    ∃ name path specifier v, object.source = .reference name path specifier ∧
      o = .assign name v := by
  refine returns_last fun t => (ActionM.returns_ofExcept fun _ h => h).bind
    fun (name, path, field) h => ?_
  obtain ⟨specifier, hs⟩ := fieldOf_source h
  refine returns_last fun found => returns_last fun entity => returns_last fun id => returns_last
    fun _ => ?_
  exact returns_pure ⟨name, path, specifier, entity, hs, rfl⟩

/-- Only accept assigns, and what it assigns is what its object refers to. -/
theorem builtin_assign {a : Action} (ha : a ∈ Registry.builtinActions)
    {w w' : World (List Emission)} {name : String} {v : Value}
    (h : Yields others (a.run scope deadline target object) w (.ok (.assign name v)) w') :
    a = accept ∧ ∃ path specifier, object.source = .reference name path specifier := by
  by_cases hc : a = accept
  · subst hc
    obtain ⟨name', path, specifier, v', hs, ho⟩ := accept_assigns_object w _ w' h
    cases ho
    exact ⟨rfl, path, specifier, hs⟩
  · have hn : Returns others (a.run scope deadline target object) Outcome.AssignsNothing := by
      simp only [Registry.builtinActions, List.mem_cons, List.not_mem_nil, or_false, hc,
        false_or] at ha
      rcases ha with rfl | rfl | rfl | rfl | rfl | rfl | rfl | rfl |
        rfl | rfl | rfl | rfl | rfl | rfl
      · exact ofValue_assigns_nothing fun _ v o h => by cases h; nofun
      · exact returns_last fun _ => returns_last fun _ => returns_last fun _ =>
          returns_last fun _ =>
          returns_pure nofun
      · exact ofValue_assigns_nothing fun _ v o h => by cases h; nofun
      · exact ofValue_assigns_nothing fun _ v o h => by split at h <;> cases h; nofun
      · exact update_assigns_nothing
      · exact ofValue_assigns_nothing fun _ v o h => by cases h; nofun
      · exact ofValue_assigns_nothing fun _ v o h => by cases h
      · exact returns_last fun _ => returns_last fun _ => returns_pure nofun
      · exact returns_last fun _ => returns_last fun _ => returns_last fun _ =>
          returns_last fun _ =>
          returns_pure nofun
      · exact returns_last fun _ => returns_last fun _ => returns_pure nofun
      · exact returns_last fun _ => returns_last fun _ => returns_last fun _ =>
          returns_last fun _ =>
          returns_last fun _ => returns_last fun _ => returns_last fun _ => returns_pure nofun
      · exact returns_last fun _ => returns_last fun _ => returns_pure nofun
      · exact returns_last fun _ => returns_last fun _ => returns_pure nofun
      · exact keepalive_assigns_nothing
    exact absurd rfl (hn w _ w' h name v)

end Action

end FeatureFlow
