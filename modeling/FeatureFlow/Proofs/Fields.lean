import FeatureFlow.Proofs.Handling
import FeatureFlow.Proofs.Outcomes

/-! Accepting a transition writes one field. What is put at a path is found there, every path beside
it leads to what it led to before, and nothing but a value that holds no fields stands in the way.
-/
namespace FeatureFlow

namespace Value

/-- What the fields of maps lead to; what is missing counts as null. -/
def reached : Value → List String → Value
  | v, [] => v
  | v, name :: path => reached ((v.field? name).getD .null) path

/-- Fields can be put into maps and into null, which then becomes a map. -/
def takesFields : Value → Bool
  | .map _ | .null => true
  | _ => false

variable {v v' new : Value} {name : String} {path other : List String} {e : ActionError}

theorem takesFields_eq_false : v.takesFields = false ↔ v ≠ .null ∧ ∀ fields, v ≠ .map fields := by
  cases v <;> simp [takesFields]

theorem put_cons_of_takesFields (h : v.takesFields = true) :
    put new (name :: path) v = (put new path ((v.field? name).getD .null)).map fun child =>
      .map (KeyMap.insert (v.fields?.getD []) name child) := by
  cases v with
  | map fields => rfl
  | null => rfl
  | _ => cases h

theorem put_cons_of_not_takesFields (h : v.takesFields = false) :
    put new (name :: path) v = .error (.wrongType "accept" v.typeName) := by
  cases v with
  | map fields => cases h
  | null => cases h
  | _ => rfl

/-- One step of putting: the field below is replaced, in a map or in a new one. -/
theorem put_cons_ok (h : put new (name :: path) v = .ok v') :
    v.takesFields = true ∧ ∃ child, put new path ((v.field? name).getD .null) = .ok child ∧
      v' = .map (KeyMap.insert (v.fields?.getD []) name child) := by
  cases hv : v.takesFields with
  | false =>
    rw [put_cons_of_not_takesFields hv] at h
    cases h
  | true =>
    rw [put_cons_of_takesFields hv] at h
    cases hchild : put new path ((v.field? name).getD .null) with
    | error e => rw [hchild] at h; cases h
    | ok child =>
      rw [hchild] at h
      cases h
      exact ⟨rfl, child, rfl, rfl⟩

theorem step?_of_takesFields (h : v.takesFields = true) (name : String) :
    v.step? name = v.field? name := by
  cases v with
  | map fields => rfl
  | null => rfl
  | _ => cases h

theorem step?_insert {child : Value} (h : v.takesFields = true) (segment : String) :
    (map (KeyMap.insert (v.fields?.getD []) name child)).step? segment =
      if name = segment then some child else v.step? segment := by
  rw [step?_of_takesFields h]
  refine (KeyMap.get?_insert ..).trans ?_
  cases v with
  | map fields => rfl
  | null => rfl
  | _ => cases h

theorem get?_put (h : put new path v = .ok v') : v'.get? path = some new := by
  induction path generalizing v v' with
  | nil =>
    cases h
    rfl
  | cons name path ih =>
    obtain ⟨hv, child, hchild, rfl⟩ := put_cons_ok h
    rw [get?, step?_insert hv, if_pos rfl]
    exact ih hchild

/-- The frame: a path beside the one written leads where it led before, through whatever it goes. -/
theorem get?_put_of_beside (h : put new path v = .ok v') (hother : ¬ other <+: path)
    (hpath : ¬ path <+: other) :
    v'.get? other = v.get? other := by
  induction path generalizing v v' other with
  | nil => exact absurd List.nil_prefix hpath
  | cons name path ih =>
    obtain ⟨hv, child, hchild, rfl⟩ := put_cons_ok h
    cases other with
    | nil => exact absurd List.nil_prefix hother
    | cons segment other =>
      rw [get?, get?, step?_insert hv]
      split
      · rename_i hname
        subst hname
        have hbelow := ih hchild (fun hp => hother (List.cons_prefix_cons.mpr ⟨rfl, hp⟩))
          fun hp => hpath (List.cons_prefix_cons.mpr ⟨rfl, hp⟩)
        rw [step?_of_takesFields hv]
        cases hfield : v.field? name with
        | some w => rwa [hfield] at hbelow
        | none =>
          rw [hfield] at hbelow
          refine hbelow.trans ?_
          cases other with
          | nil => exact absurd (List.cons_prefix_cons.mpr ⟨rfl, List.nil_prefix⟩) hother
          | cons segment other => rfl
      · rfl

/-- The first value on the way that takes no fields is found after the steps `before`. -/
structure Blocked (v : Value) (path before : List String) : Prop where
  within : before <+: path
  short : before ≠ path
  closed : (v.reached before).takesFields = false
  first : ∀ s, s <+: before → s ≠ before → (v.reached s).takesFields = true

theorem not_blocked_nil {before : List String} : ¬ v.Blocked [] before :=
  fun h => h.short (List.prefix_nil.mp h.within)

theorem blocked_cons_of_not_takesFields {before : List String} (hv : v.takesFields = false) :
    v.Blocked (name :: path) before ↔ before = [] := by
  constructor
  · intro h
    cases before with
    | nil => rfl
    | cons segment before =>
      have htakes : v.takesFields = true := h.first [] List.nil_prefix nofun
      rw [hv] at htakes
      cases htakes
  · rintro rfl
    exact ⟨List.nil_prefix, nofun, hv, fun s hs hne => absurd (List.prefix_nil.mp hs) hne⟩

theorem blocked_cons_of_takesFields {before : List String} (hv : v.takesFields = true) :
    v.Blocked (name :: path) before ↔
      ∃ rest, before = name :: rest ∧ ((v.field? name).getD .null).Blocked path rest := by
  constructor
  · intro h
    cases before with
    | nil =>
      have hclosed : v.takesFields = false := h.closed
      rw [hv] at hclosed
      cases hclosed
    | cons segment rest =>
      obtain ⟨rfl, hrest⟩ := List.cons_prefix_cons.mp h.within
      refine ⟨rest, rfl, hrest, fun heq => h.short (congrArg _ heq), h.closed, fun s hs hne => ?_⟩
      exact h.first (segment :: s) (List.cons_prefix_cons.mpr ⟨rfl, hs⟩) (by simpa using hne)
  · rintro ⟨rest, rfl, h⟩
    refine ⟨List.cons_prefix_cons.mpr ⟨rfl, h.within⟩, by simpa using h.short, h.closed,
      fun s hs hne => ?_⟩
    cases s with
    | nil => exact hv
    | cons segment s =>
      obtain ⟨rfl, hrest⟩ := List.cons_prefix_cons.mp hs
      exact h.first s hrest fun heq => hne (congrArg _ heq)

/-- Putting fails at the first value on the way that takes no fields, and names its type. -/
theorem put_error_iff : put new path v = .error e ↔
    ∃ before, v.Blocked path before ∧ e = .wrongType "accept" (v.reached before).typeName := by
  induction path generalizing v with
  | nil => exact ⟨nofun, fun ⟨_, hblocked, _⟩ => absurd hblocked not_blocked_nil⟩
  | cons name path ih =>
    cases hv : v.takesFields with
    | false =>
      rw [put_cons_of_not_takesFields hv]
      constructor
      · rintro ⟨⟩
        exact ⟨[], (blocked_cons_of_not_takesFields hv).mpr rfl, rfl⟩
      · rintro ⟨before, hblocked, rfl⟩
        rw [(blocked_cons_of_not_takesFields hv).mp hblocked]
        rfl
    | true =>
      have hbelow : put new (name :: path) v = .error e ↔
          put new path ((v.field? name).getD .null) = .error e := by
        rw [put_cons_of_takesFields hv]
        cases put new path ((v.field? name).getD .null) with
        | error e' => exact Iff.rfl
        | ok child => exact ⟨nofun, nofun⟩
      rw [hbelow, ih]
      constructor
      · rintro ⟨rest, hblocked, he⟩
        exact ⟨name :: rest, (blocked_cons_of_takesFields hv).mpr ⟨rest, rfl, hblocked⟩, he⟩
      · rintro ⟨before, hblocked, he⟩
        obtain ⟨rest, rfl, hrest⟩ := (blocked_cons_of_takesFields hv).mp hblocked
        exact ⟨rest, hrest, he⟩

theorem takesFields_of_put (h : put new path v = .ok v') {s : List String} (hs : s <+: path)
    (hne : s ≠ path) :
    (v.reached s).takesFields = true := by
  induction path generalizing v v' s with
  | nil => exact absurd (List.prefix_nil.mp hs) hne
  | cons name path ih =>
    obtain ⟨hv, child, hchild, rfl⟩ := put_cons_ok h
    cases s with
    | nil => exact hv
    | cons segment s =>
      obtain ⟨rfl, hrest⟩ := List.cons_prefix_cons.mp hs
      exact ih hchild hrest fun h => hne (congrArg _ h)

/-- Putting fails exactly when some value on the way takes no fields. -/
theorem put_fails_iff : (∃ e, put new path v = .error e) ↔
    ∃ s, s <+: path ∧ s ≠ path ∧ (v.reached s).takesFields = false := by
  constructor
  · rintro ⟨e, he⟩
    obtain ⟨before, hblocked, -⟩ := put_error_iff.mp he
    exact ⟨before, hblocked.within, hblocked.short, hblocked.closed⟩
  · rintro ⟨s, hs, hne, hblocked⟩
    cases hput : put new path v with
    | error e => exact ⟨e, rfl⟩
    | ok v' =>
      rw [takesFields_of_put hput hs hne] at hblocked
      cases hblocked

theorem get?_append (v : Value) (s rest : List String) :
    v.get? (s ++ rest) = (v.get? s).bind (·.get? rest) := by
  induction s generalizing v with
  | nil => rfl
  | cons name s ih =>
    rw [List.cons_append, get?, get?, Option.bind_assoc]
    exact congrArg _ (funext ih)

/-- As long as all on the way take fields, a path leads to what its fields lead to. -/
theorem reached_of_get? {current : Value} (h : v.get? path = some current)
    (hopen : ∀ s, s <+: path → s ≠ path → (v.reached s).takesFields = true) :
    v.reached path = current := by
  induction path generalizing v with
  | nil =>
    cases h
    rfl
  | cons name path ih =>
    obtain ⟨w, hstep, hw⟩ := Option.bind_eq_some_iff.mp h
    have hv : v.takesFields = true := hopen [] List.nil_prefix nofun
    rw [step?_of_takesFields hv] at hstep
    have hfield : (v.field? name).getD .null = w := by rw [hstep, Option.getD_some]
    rw [reached, hfield]
    apply ih hw
    intro s hs hne
    have htakes := hopen (name :: s) (List.cons_prefix_cons.mpr ⟨rfl, hs⟩) (by simpa using hne)
    rwa [reached, hfield] at htakes

theorem list_of_step? {child : Value} (hclosed : v.takesFields = false)
    (h : v.step? name = some child) :
    ∃ items, v = .list items := by
  cases v with
  | list items => exact ⟨items, rfl⟩
  | map fields => cases hclosed
  | _ => cases h

/-- Where a path leads to something, nothing but a list on the way keeps a value from being put
there. -/
theorem put_error_iff_of_get? {current : Value} (h : v.get? path = some current) :
    put new path v = .error e ↔ e = .wrongType "accept" "list" ∧
      ∃ s items, s <+: path ∧ s ≠ path ∧ v.get? s = some (.list items) := by
  have hlist {e : ActionError} (he : put new path v = .error e) : e = .wrongType "accept" "list" ∧
      ∃ s items, s <+: path ∧ s ≠ path ∧ v.get? s = some (.list items) := by
    obtain ⟨s, ⟨⟨rest, rfl⟩, hne, hclosed, hfirst⟩, rfl⟩ := put_error_iff.mp he
    rw [get?_append] at h
    obtain ⟨w, hw, hrest⟩ := Option.bind_eq_some_iff.mp h
    obtain rfl := reached_of_get? hw hfirst
    cases rest with
    | nil => exact absurd (List.append_nil s).symm hne
    | cons segment rest =>
      obtain ⟨_, hstep, -⟩ := Option.bind_eq_some_iff.mp hrest
      obtain ⟨items, hitems⟩ := list_of_step? hclosed hstep
      rw [hitems] at hw ⊢
      exact ⟨rfl, s, items, List.prefix_append .., hne, hw⟩
  refine ⟨hlist, ?_⟩
  rintro ⟨rfl, s, items, hs, hne, hget⟩
  cases hput : put new path v with
  | error e => rw [(hlist hput).1]
  | ok v' =>
    have hopen : ∀ s', s' <+: s → s' ≠ s → (v.reached s').takesFields = true := by
      intro s' hs' _
      refine takesFields_of_put hput (hs'.trans hs) ?_
      rintro rfl
      exact hne (hs.eq_of_length_le hs'.length_le)
    have htakes := takesFields_of_put hput hs hne
    rw [reached_of_get? hget hopen] at htakes
    cases htakes

end Value

/-- A transition that has been accepted: the name bound anew, the field, and the entity after it. -/
structure Acceptance where
  name : String
  field : String
  transition : Transition
  entity : Value

/-- The run after an acceptance, which it has reported. -/
def World.accepted (w : World Invocation) (a : Acceptance) : World Invocation :=
  ⟨{ w.own with
      scope := w.own.scope.bind a.name a.entity
      outbox := w.own.outbox ++ [.state ⟨w.shared.fresh, a.field, a.transition, a.entity⟩] },
        w.shared.issue⟩

theorem World.resolve_accepted {w : World Invocation} {a : Acceptance} :
    (w.accepted a).own.scope.resolve (w.accepted a).shared.symbols a.name = some a.entity := by
  have hfind : (w.accepted a).own.scope.find? a.name = some a.entity :=
    (Scope.find?_bind ..).trans (if_pos rfl)
  rw [Scope.resolve, hfind]
  rfl

namespace Action

variable {others : Services → Services → Prop}

variable {look : String → Option Value} {target : Target} {object : Object}

/-- What a target and an object ask for, where names stand for these values. -/
def acceptance (look : String → Option Value) (target : Target) (object : Object) :
    Except ActionError Acceptance := do
  let t ← transitionOf target
  let (name, path, field) ← fieldOf object
  (moved t path field ((look name).getD .null)).map fun entity => ⟨name, field, t, entity⟩

theorem acceptance_eq {t : Transition} {name field : String} {path : List String}
    (ht : transitionOf target = .ok t) (hf : fieldOf object = .ok (name, path, field)) :
    acceptance look target object =
      (moved t path field ((look name).getD .null)).map fun entity => ⟨name, field, t, entity⟩ := by
  rw [acceptance, ht, hf]
  rfl

open ActionM in
theorem yields_accept {scope : Scope} {deadline : Option Nat} {w w' : World (List Emission)}
    {r : Except ActionError Outcome} :
    Yields others (accept.run scope deadline target object) w r w' ↔
      (r, w') = match acceptance (scope.resolve w.shared.symbols) target object with
        | .ok a => (.ok (.assign a.name a.entity),
            ⟨w.own ++ [.state ⟨w.shared.fresh, a.field, a.transition, a.entity⟩], w.shared.issue⟩)
        | .error e => (.error e, w) := by
  refine (yields_bind_except yields_ofExcept).trans ?_
  rw [Prod.ext_iff]
  cases ht : transitionOf target with
  | error e =>
    rw [acceptance, ht]
    exact Iff.rfl
  | ok t =>
    refine (yields_bind_except yields_ofExcept).trans ?_
    cases hf : fieldOf object with
    | error e =>
      rw [acceptance, ht, hf]
      exact Iff.rfl
    | ok found =>
      obtain ⟨name, path, field⟩ := found
      rw [acceptance_eq ht hf]
      refine (yields_bind_ok yields_resolve).trans ((yields_bind_except yields_ofExcept).trans ?_)
      cases moved t path field ((scope.resolve w.shared.symbols name).getD .null) with
      | error e => exact Iff.rfl
      | ok entity =>
        refine (yields_bind_ok yields_freshId).trans ((yields_bind_ok yields_emit).trans ?_)
        exact yields_pure

end Action

/-- An unguarded command to accept has its action run. -/
theorem World.ready_accept {w : World Invocation} {c : Command}
    (haction : Registry.lower c.action = "accept") (hguard : c.guard = none)
    (hpreposition : Action.accept.accepts c.object.preposition = true) :
    w.ready Registry.builtins c = .ok (some Action.accept) := by
  have hget : Registry.builtins.get? c.action = some Action.accept :=
    Registry.get?_builtins.mpr ⟨by simp [Registry.builtinActions], by simp [haction, Action.accept]⟩
  refine World.ready_some_iff.mpr ⟨?_, hget, hpreposition⟩
  rw [hguard]
  rfl

namespace Exec

variable {others : Services → Services → Prop} {registry : Registry} {c : Command}
    {w w' : World Invocation}

/-- A command to accept ends in one way: it is refused and changes nothing, or it binds the entity
after the transition and reports it. -/
theorem yields_accept (hready : w.ready registry c = .ok (some Action.accept))
    {r : Except ExecutionError Flow} :
    Yields others (runCommand registry c) w r w' ↔
      match Action.acceptance (w.own.scope.resolve w.shared.symbols) c.result c.object with
      | .ok a => r = .ok .proceed ∧ w' = w.accepted a
      | .error e => r = .error (.action c.action c.result.name e) ∧ w' = w := by
  rw [yields_runCommand_of_end hready Action.yields_accept, Prod.ext_iff]
  cases Action.acceptance (w.own.scope.resolve w.shared.symbols) c.result c.object with
  | error e => exact Iff.rfl
  | ok a =>
    have hshaped : ⟨(w.accepted a).own, w.shared.issue.crash false⟩ = w.accepted a := by
      rw [Services.crash_false]
      rfl
    change _ ↔ r = .ok .proceed ∧ w' = w.accepted a
    rw [← hshaped]
    exact Iff.rfl

end Exec

namespace Action

variable {look : String → Option Value} {target : Target} {object : Object} {a : Acceptance}

theorem transitionOf_ok_iff {t : Transition} :
    transitionOf target = .ok t ↔ Transition.cut? (target.qualifier.getD target.name).toList =
      some t := by
  unfold transitionOf
  dsimp only
  cases Transition.cut? (target.qualifier.getD target.name).toList with
  | none => exact ⟨nofun, nofun⟩
  | some t' =>
    exact ⟨fun h => congrArg some (Except.ok.inj h), fun h =>
      congrArg Except.ok (Option.some.inj h)⟩

theorem fieldOf_ok_iff {name field : String} {path : List String} :
    fieldOf object = .ok (name, path, field) ↔
      (∃ specifier, object.source = .reference name path specifier) ∧
        path.getLast? = some field := by
  constructor
  · intro h
    obtain ⟨specifier, hs⟩ := fieldOf_source h
    refine ⟨⟨specifier, hs⟩, ?_⟩
    rw [fieldOf, hs] at h
    dsimp only at h
    cases hlast : path.getLast? with
    | none =>
      rw [hlast] at h
      cases h
    | some last =>
      rw [hlast] at h
      cases h
      rfl
  · rintro ⟨⟨specifier, hs⟩, hlast⟩
    rw [fieldOf, hs]
    dsimp only
    rw [hlast]

/-- Where the entity is in the state that is asked for, nothing but the writing is left. -/
theorem acceptance_of_state {t : Transition} {name field : String} {path : List String}
    {entity current : Value} (hlabel : transitionOf target = .ok t)
    (hfield : fieldOf object = .ok (name, path, field)) (hbound : look name = some entity)
    (hcurrent : entity.get? path = some current)
    (hstate : Text.sameIgnoringCase current.display t.source = true) :
    acceptance look target object =
      (Value.put (.string t.target) path entity).map fun entity => ⟨name, field, t, entity⟩ := by
  rw [acceptance_eq hlabel hfield, hbound, Option.getD_some, moved, hcurrent, Option.map_some,
    Option.getD_some,
    hstate, if_pos rfl]

/-- What was accepted is what was asked for: the entity that the object names, with the field moved.
-/
theorem acceptance_ok (h : acceptance look target object = .ok a) :
    transitionOf target = .ok a.transition ∧ ∃ path, fieldOf object = .ok (a.name, path, a.field) ∧
      Value.put (.string a.transition.target) path ((look a.name).getD .null) = .ok a.entity := by
  cases ht : transitionOf target with
  | error e =>
    rw [acceptance, ht] at h
    cases h
  | ok t =>
    cases hf : fieldOf object with
    | error e =>
      rw [acceptance, ht, hf] at h
      cases h
    | ok found =>
      obtain ⟨name, path, field⟩ := found
      rw [acceptance_eq ht hf] at h
      cases hm : moved t path field ((look name).getD .null) with
      | error e =>
        rw [hm] at h
        cases h
      | ok entity =>
        rw [hm] at h
        cases h
        unfold moved at hm
        dsimp only at hm
        split at hm
        · exact ⟨rfl, path, rfl, hm⟩
        · cases hm

end Action

/-- A command to accept that succeeds has accepted what it asks for. -/
theorem Exec.accepted_of_yields {others : Services → Services → Prop} {registry : Registry}
    {c : Command} {w w' : World Invocation} {flow : Flow}
    (hready : w.ready registry c = .ok (some Action.accept))
    (h : Yields others (runCommand registry c) w (.ok flow) w') :
    ∃ a path, w' = w.accepted a ∧ Action.transitionOf c.result = .ok a.transition ∧
      (∃ specifier, c.object.source = .reference a.name path specifier) ∧
        path.getLast? = some a.field ∧
      Value.put (.string a.transition.target) path
        ((w.own.scope.resolve w.shared.symbols a.name).getD .null) =
        .ok a.entity := by
  rw [yields_accept hready] at h
  cases ha : Action.acceptance (w.own.scope.resolve w.shared.symbols) c.result c.object with
  | error e =>
    rw [ha] at h
    cases h.1
  | ok a =>
    rw [ha] at h
    obtain ⟨ht, path, hf, hput⟩ := Action.acceptance_ok ha
    obtain ⟨hsource, hlast⟩ := Action.fieldOf_ok_iff.mp hf
    exact ⟨a, path, h.2, ht, hsource, hlast, hput⟩

/-- Putting a value at a path writes there and nowhere beside it, and fails exactly when a value on
the way is neither a map nor null. So a command to accept that succeeds reports one transition, with
the entity that it binds; that entity has the new state at its path, and is the old one beside it.
-/
theorem accept_writes_one_field :
    (∀ (v new : Value) (path : List String), path ≠ [] →
      (∀ v', Value.put new path v = .ok v' →
        v'.get? path = some new ∧
          ∀ other, ¬ other <+: path → ¬ path <+: other → v'.get? other = v.get? other) ∧
      ((∃ e, Value.put new path v = .error e) ↔
        ∃ s, s <+: path ∧ s ≠ path ∧ v.reached s ≠ .null ∧ ∀ fields, v.reached s ≠ .map fields)) ∧
    ∀ (others : Services → Services → Prop) (registry : Registry) (c : Command)
      (w w' : World Invocation) (flow : Flow),
      w.ready registry c = .ok (some Action.accept) →
      Yields others (Exec.runCommand registry c) w (.ok flow) w' →
      ∃ name path field specifier t entity,
        c.object.source = .reference name path specifier ∧ path.getLast? = some field ∧
        Action.transitionOf c.result = .ok t ∧
        w'.own.outbox = w.own.outbox ++ [.state ⟨w.shared.fresh, field, t, entity⟩] ∧
        w'.own.scope = w.own.scope.bind name entity ∧
        w'.own.scope.resolve w'.shared.symbols name = some entity ∧
        entity.get? path = some (.string t.target) ∧
        ∀ other, ¬ other <+: path → ¬ path <+: other →
          entity.get? other =
            ((w.own.scope.resolve w.shared.symbols name).getD .null).get? other := by
  constructor
  · intro v new path _
    refine ⟨fun v' h => ⟨Value.get?_put h, fun other => Value.get?_put_of_beside h⟩, ?_⟩
    simp only [Value.put_fails_iff, Value.takesFields_eq_false]
  · intro others registry c w w' flow hready hrun
    obtain ⟨a, path, rfl, ht, ⟨specifier, hsource⟩, hlast, hput⟩ :=
      Exec.accepted_of_yields hready hrun
    refine ⟨a.name, path, a.field, specifier, a.transition, a.entity, hsource, hlast, ht, rfl, rfl,
      World.resolve_accepted, Value.get?_put hput, fun other => Value.get?_put_of_beside hput⟩

/-- A field in a map that is not there yet. -/
theorem accept_makes_missing_map :
    let order : Value := .map [("id", .int 7), ("shipping", .null)]
    let c : Command := ⟨"Accept", ⟨"t", some "_to_packed", .whole⟩,
      ⟨.on, .reference "order" ["shipping", "state"] .whole, none⟩, none⟩
    let w : World Invocation := ⟨{ scope := Scope.bind { name := "job" } "order" order }, {}⟩
    (∃ w', Yields anything (Exec.runCommand Registry.builtins c) w (.ok .proceed) w' ∧
      ∃ entity, w'.own.outbox = [.state ⟨w.shared.fresh, "state", ⟨"", "packed"⟩, entity⟩] ∧
        w'.own.scope.resolve w'.shared.symbols "order" = some entity ∧
        entity.get? ["shipping", "state"] = some (.string "packed") ∧
          entity.get? ["id"] = some (.int 7)) ∧
    ∃ e, Value.put .null ["id", "state"] order = .error e := by
  intro order c w
  obtain ⟨hput, haccept⟩ := accept_writes_one_field
  constructor
  · have hready : w.ready Registry.builtins c = .ok (some Action.accept) :=
      World.ready_accept (by decide +kernel) rfl rfl
    have hlabel : Action.transitionOf c.result = .ok ⟨"", "packed"⟩ :=
      Action.transitionOf_ok_iff.mpr (by decide +kernel)
    let a : Acceptance := ⟨"order", "state", ⟨"", "packed"⟩,
      .map [("id", .int 7), ("shipping", .map [("state", .string "packed")])]⟩
    have hacceptance : Action.acceptance (w.own.scope.resolve w.shared.symbols) c.result c.object =
        .ok a := by
      rw [Action.acceptance_eq hlabel (Action.fieldOf_ok_iff.mpr ⟨⟨_, rfl⟩, rfl⟩)]
      rfl
    have hrun : Yields anything (Exec.runCommand Registry.builtins c) w (.ok .proceed)
        (w.accepted a) := by
      rw [Exec.yields_accept hready, hacceptance]
      exact ⟨rfl, rfl⟩
    obtain ⟨name, path, field, specifier, t, entity, hsource, hlast, ht, houtbox, -, hresolve,
        hnew, hold⟩ :=
      haccept anything Registry.builtins c w _ _ hready hrun
    cases hsource
    cases hlast
    cases hlabel.symm.trans ht
    refine ⟨w.accepted a, hrun, entity, houtbox, hresolve, hnew, ?_⟩
    exact hold ["id"] (by decide) (by decide)
  · refine (hput order .null ["id", "state"] nofun).2.mpr
      ⟨["id"], by decide, by decide, nofun, nofun⟩

section Reading

variable (others : Services → Services → Prop) {registry : Registry} {c : Command}
    {w : World Invocation} {name : String} {path : List String} {specifier : Specifier}
    {entity current : Value} {t : Transition}

/-- A transition from the state that a path leads to is accepted unless the path goes through a
list. Then the path leads to the new state in what is bound; otherwise the command fails and changes
nothing. -/
theorem accept_moves_states_in_maps (hready : w.ready registry c = .ok (some Action.accept))
    (hsource : c.object.source = .reference name path specifier) (hpath : path ≠ [])
    (hbound : w.own.scope.resolve w.shared.symbols name = some entity)
    (hcurrent : entity.get? path = some current) (hlabel : Action.transitionOf c.result = .ok t)
    (hstate : Text.sameIgnoringCase current.display t.source = true) :
    ((∀ s items, s <+: path → s ≠ path → entity.get? s ≠ some (.list items)) →
      ∃ w' updated, (∀ r w'', Yields others (Exec.runCommand registry c) w r w'' ↔
        r = .ok .proceed ∧ w'' = w') ∧
        w'.own.scope.resolve w'.shared.symbols name = some updated ∧
        updated.get? path = some (.string t.target)) ∧
    ((∃ s items, s <+: path ∧ s ≠ path ∧ entity.get? s = some (.list items)) →
      ∀ r w', Yields others (Exec.runCommand registry c) w r w' ↔
        r = .error (.action c.action c.result.name (.wrongType "accept" "list")) ∧ w' = w) := by
  obtain ⟨field, hlast⟩ : ∃ field, path.getLast? = some field :=
    ⟨path.getLast hpath, List.getLast?_eq_some_getLast hpath⟩
  have hacceptance := Action.acceptance_of_state hlabel
    (Action.fieldOf_ok_iff.mpr ⟨⟨specifier, hsource⟩, hlast⟩) hbound hcurrent hstate
  constructor
  · intro hmaps
    cases hput : Value.put (.string t.target) path entity with
    | error e =>
      obtain ⟨-, s, items, hs, hne, hlist⟩ := (Value.put_error_iff_of_get? hcurrent).mp hput
      exact absurd hlist (hmaps s items hs hne)
    | ok updated =>
      refine ⟨w.accepted ⟨name, field, t, updated⟩, updated, ?_, World.resolve_accepted,
        Value.get?_put hput⟩
      intro r w''
      rw [Exec.yields_accept hready, hacceptance, hput]
      exact Iff.rfl
  · intro hlist r w'
    rw [Exec.yields_accept hready, hacceptance, (Value.put_error_iff_of_get? hcurrent).mpr
      ⟨rfl, hlist⟩]
    exact Iff.rfl

end Reading

/-- A state below two maps, in other letters than the label has it. -/
theorem accept_moves_nested_state :
    let order : Value := .map [("lines", .list [.map [("state", .string "open")]]),
      ("shipping", .map [("state", .string "Packed")])]
    let c : Command := ⟨"accept", ⟨"packed_to_sent", none, .whole⟩,
      ⟨.for_, .reference "order" ["shipping", "state"] .whole, none⟩, none⟩
    let w : World Invocation := ⟨{ scope := Scope.bind { name := "job" } "order" order }, {}⟩
    order.get? ["shipping", "state"] = some (.string "Packed") ∧
    ∃ w' updated, Yields anything (Exec.runCommand Registry.builtins c) w (.ok .proceed) w' ∧
      w'.own.scope.resolve w'.shared.symbols "order" = some updated ∧
      updated.get? ["shipping", "state"] = some (.string "sent") := by
  intro order c w
  have hready : w.ready Registry.builtins c = .ok (some Action.accept) :=
    World.ready_accept (by decide +kernel) rfl rfl
  have hlabel : Action.transitionOf c.result = .ok ⟨"packed", "sent"⟩ :=
    Action.transitionOf_ok_iff.mpr (by decide +kernel)
  have hget : order.get? ["shipping", "state"] = some (.string "Packed") := rfl
  have hmaps : ∀ s items, s <+: ["shipping", "state"] → s ≠ ["shipping", "state"] →
      order.get? s ≠ some (.list items) := by
    intro s items hs hne hlist
    have herror : Value.put .null ["shipping", "state"] order =
        .error (.wrongType "accept" "list") :=
      (Value.put_error_iff_of_get? hget).mpr ⟨rfl, s, items, hs, hne, hlist⟩
    have hok : Value.put .null ["shipping", "state"] order = .ok _ := rfl
    rw [hok] at herror
    cases herror
  obtain ⟨hmoved, -⟩ := accept_moves_states_in_maps anything hready rfl nofun rfl hget hlabel
    (by decide +kernel)
  obtain ⟨w', updated, hyields, hbound, hstate⟩ := hmoved hmaps
  exact ⟨hget, w', updated, (hyields _ _).mpr ⟨rfl, rfl⟩, hbound, hstate⟩

/-- A state below a list is read, but not moved. -/
theorem state_in_list_stays :
    let order : Value := .map [("items", .list [.map [("status", .string "draft")]])]
    let path := ["items", "0", "status"]
    let c : Command := ⟨"Accept", ⟨"t", some "draft_to_placed", .whole⟩,
      ⟨.on, .reference "order" path .whole, none⟩, none⟩
    let w : World Invocation := ⟨{ scope := Scope.bind { name := "job" } "order" order }, {}⟩
    w.ready Registry.builtins c = .ok (some Action.accept) ∧
    w.own.scope.resolve w.shared.symbols "order" = some order ∧
      order.get? path = some (.string "draft") ∧
    Action.transitionOf c.result = .ok ⟨"draft", "placed"⟩ ∧
    Text.sameIgnoringCase (Value.string "draft").display "draft" = true ∧
    ¬ ∃ others flow w', Yields others (Exec.runCommand Registry.builtins c) w (.ok flow) w' := by
  intro order path c w
  have hready : w.ready Registry.builtins c = .ok (some Action.accept) :=
    World.ready_accept (by decide +kernel) rfl rfl
  have hlabel : Action.transitionOf c.result = .ok ⟨"draft", "placed"⟩ :=
    Action.transitionOf_ok_iff.mpr (by decide +kernel)
  have hget : order.get? path = some (.string "draft") := rfl
  have hstate : Text.sameIgnoringCase (Value.string "draft").display "draft" = true := by
    decide +kernel
  have hacceptance : Action.acceptance (w.own.scope.resolve w.shared.symbols) c.result c.object =
      (Value.put (.string "placed") path order).map fun entity =>
        ⟨"order", "status", ⟨"draft", "placed"⟩, entity⟩ :=
    Action.acceptance_of_state hlabel (Action.fieldOf_ok_iff.mpr ⟨⟨_, rfl⟩, rfl⟩) rfl hget hstate
  have hblocked : Value.put (.string "placed") path order = .error (.wrongType "accept" "list") :=
    (Value.put_error_iff_of_get? hget).mpr ⟨rfl, ["items"], _, by decide, by decide, rfl⟩
  refine ⟨hready, rfl, hget, hlabel, hstate, ?_⟩
  rintro ⟨others, flow, w', h⟩
  rw [Exec.yields_accept hready, hacceptance, hblocked] at h
  cases h.1

end FeatureFlow
