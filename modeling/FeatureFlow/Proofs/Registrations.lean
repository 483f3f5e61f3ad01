import FeatureFlow.Proofs.Registry

/-! Sequences of registrations. An action is refused as a whole, and the first that is registered
for a verb stays its action. -/
namespace FeatureFlow.Registry

variable {r : Registry} {a b : Action} {actions : List Action} {key : String} {k : Nat}
    {e : RegistryError}

/-- What is said of a refused action: the first of its verbs that has an action, with the role of
that one. -/
inductive Reports (r : Registry) (a : Action) : RegistryError → Prop where
  | noVerbs (h : keys a = []) : Reports r a .noVerbs
  | duplicateVerb {free rest : List String} {key : String} {b : Action}
      (hkeys : keys a = free ++ key :: rest) (hfree : ∀ key ∈ free, r.actions.get? key = none)
      (htaken : r.actions.get? key = some b) :
      Reports r a (.duplicateVerb key b.role)

/-- The call with number `k` of those for `actions` registers `a`. -/
def Registers (r : Registry) (actions : List Action) (k : Nat) (a : Action) : Prop :=
  actions[k]? = some a ∧ ((r.registerAll (actions.take k)).register a).1 = .ok ()

/-- The call with number `k` is the first that registers an action for the verb. -/
structure First (r : Registry) (actions : List Action) (key : String) (k : Nat) (a : Action) :
    Prop where
  registers : r.Registers actions k a
  mem : key ∈ keys a
  earliest : ∀ j < k, ∀ b, r.Registers actions j b → key ∉ keys b

theorem register_ok_iff : (r.register a).1 = .ok () ↔
    keys a ≠ [] ∧ ∀ key ∈ keys a, r.actions.get? key = none := by
  by_cases h : keys a ≠ [] ∧ ∀ key ∈ keys a, r.actions.get? key = none
  · exact iff_of_true (by rw [register_of_free h.1 h.2]) h
  · obtain ⟨e, he⟩ := register_of_not_free h
    refine iff_of_false (fun hok => ?_) h
    rw [he] at hok
    cases hok

/-- A call fails if there is no verb to register, or one that has an action already. -/
theorem register_fails_iff : (∃ e, (r.register a).1 = .error e) ↔
    keys a = [] ∨ ∃ key ∈ keys a, r.actions.contains key = true := by
  have hfails : (∃ e, (r.register a).1 = .error e) ↔ ¬ (r.register a).1 = .ok () := by
    cases (r.register a).1 <;> simp
  have hcontains (key : String) :
      r.actions.contains key = true ↔ ¬ r.actions.get? key = none := by
    simp [KeyMap.contains, Option.isSome_iff_ne_none]
  rw [hfails, register_ok_iff]
  simp only [hcontains]
  grind

/-- A call that fails changes nothing. -/
theorem register_of_error (h : (r.register a).1 = .error e) : (r.register a).2 = r := by
  by_cases hfree : keys a ≠ [] ∧ ∀ key ∈ keys a, r.actions.get? key = none
  · rw [register_of_free hfree.1 hfree.2] at h
    cases h
  · obtain ⟨e', he⟩ := register_of_not_free hfree
    rw [he]

theorem reports_of_register (h : (r.register a).1 = .error e) : r.Reports a e := by
  unfold register at h
  split at h
  · rename_i hnil
    cases h
    exact .noVerbs hnil
  · split at h
    · rename_i found hfound
      cases h
      obtain ⟨free, key, rest, hkeys, htaken, hfree⟩ := List.findSome?_eq_some_iff.mp hfound
      obtain ⟨b, hb, rfl⟩ := Option.map_eq_some_iff.mp htaken
      exact .duplicateVerb hkeys (fun key hkey => taken?_none.mp (hfree key hkey)) hb
    · cases h

theorem get?_register (h : (r.register a).1 = .ok ()) : (r.register a).2.actions.get? key =
    if key ∈ keys a then some a else r.actions.get? key := by
  obtain ⟨hne, hfree⟩ := register_ok_iff.mp h
  rw [register_of_free hne hfree]
  exact KeyMap.get?_insertAll_const

theorem registerAll_append (actions more : List Action) :
    r.registerAll (actions ++ more) = (r.registerAll actions).registerAll more := List.foldl_append

theorem registers_zero : r.Registers (b :: actions) 0 a ↔ a = b ∧ (r.register b).1 = .ok () := by
  constructor
  · rintro ⟨⟨⟩, hok⟩
    exact ⟨rfl, hok⟩
  · rintro ⟨rfl, hok⟩
    exact ⟨rfl, hok⟩

theorem registers_succ :
    r.Registers (b :: actions) (k + 1) a ↔ (r.register b).2.Registers actions k a := Iff.rfl

/-- A first call that does not concern the verb leaves it to the others. -/
theorem exists_first_cons (hzero : ∀ c, r.Registers (b :: actions) 0 c → key ∉ keys c) :
    (∃ k, r.First (b :: actions) key k a) ↔ ∃ k, (r.register b).2.First actions key k a := by
  constructor
  · rintro ⟨k, hk⟩
    cases k with
    | zero => exact absurd hk.mem (hzero a hk.registers)
    | succ k =>
      refine ⟨k, registers_succ.mp hk.registers, hk.mem, fun j hj c hc => ?_⟩
      exact hk.earliest (j + 1) (by omega) c (registers_succ.mpr hc)
  · rintro ⟨k, hk⟩
    refine ⟨k + 1, registers_succ.mpr hk.registers, hk.mem, fun j hj c hc => ?_⟩
    cases j with
    | zero => exact hzero c hc
    | succ j => exact hk.earliest j (by omega) c (registers_succ.mp hc)

/-- The action of a verb is the one it had, or else that of the first call that registers one for
it. The first of the calls is refused, takes the verb, or takes other verbs only. -/
theorem get?_registerAll_iff : (r.registerAll actions).actions.get? key = some a ↔
    r.actions.get? key = some a ∨ r.actions.get? key = none ∧ ∃ k, r.First actions key k a := by
  induction actions generalizing r with
  | nil =>
    refine ⟨.inl, ?_⟩
    rintro (h | ⟨-, k, ⟨⟨hk, -⟩, -, -⟩⟩)
    · exact h
    · cases hk
  | cons b actions ih =>
    rw [registerAll_cons]
    cases hb : (r.register b).1 with
    | error e =>
      have hzero : ∀ c, r.Registers (b :: actions) 0 c → key ∉ keys c := by
        intro c hc
        rw [(registers_zero.mp hc).2] at hb
        cases hb
      rw [ih, exists_first_cons hzero, register_of_error hb]
    | ok _ =>
      by_cases hkey : key ∈ keys b
      · have hnow : (r.register b).2.actions.get? key = some b := by
          rw [get?_register hb, if_pos hkey]
        have hfree : r.actions.get? key = none := (register_ok_iff.mp hb).2 key hkey
        have hfirst : r.First (b :: actions) key 0 b :=
          ⟨registers_zero.mpr ⟨rfl, hb⟩, hkey, fun j hj => absurd hj (Nat.not_lt_zero j)⟩
        rw [get?_registerAll_of_get? hnow, hfree]
        constructor
        · rintro ⟨⟩
          exact .inr ⟨rfl, 0, hfirst⟩
        · rintro (⟨⟨⟩⟩ | ⟨-, k, hk⟩)
          cases k with
          | zero => rw [(registers_zero.mp hk.registers).1]
          | succ k => exact absurd hkey (hk.earliest 0 (by omega) b hfirst.registers)
      · have hzero : ∀ c, r.Registers (b :: actions) 0 c → key ∉ keys c := by
          intro c hc
          rw [(registers_zero.mp hc).1]
          exact hkey
        rw [ih, get?_register hb, if_neg hkey, exists_first_cons hzero]

/-- A call is refused as a whole, exactly if the action declares no verb or one of its verbs has an
action already, and the registry after such a call is the one before it. Each call goes on from the
registry after the last one. A verb has the action it had at the beginning, or else that of the
first call that registers one for it, and keeps it through all later calls. -/
theorem first_registration_counts (r : Registry) (actions : List Action) :
    (∀ k a, actions[k]? = some a →
      let before := r.registerAll (actions.take k)
      r.registerAll (actions.take (k + 1)) = (before.register a).2 ∧
      ((∃ e, (before.register a).1 = .error e) ↔
        a.verbs = [] ∨ ∃ key ∈ a.verbs.map lower, before.actions.contains key = true) ∧
      ∀ e, (before.register a).1 = .error e →
        before.Reports a e ∧ (before.register a).2 = before) ∧
    (∀ verb a, (r.registerAll actions).get? verb = some a ↔
      r.get? verb = some a ∨ r.get? verb = none ∧
        ∃ k, r.Registers actions k a ∧ lower verb ∈ a.verbs.map lower ∧
          ∀ j < k, ∀ b, r.Registers actions j b → lower verb ∉ b.verbs.map lower) ∧
    ∀ verb a m n, m ≤ n → (r.registerAll (actions.take m)).get? verb = some a →
      (r.registerAll (actions.take n)).get? verb = some a := by
  refine ⟨?_, ?_, ?_⟩
  · intro k a ha before
    refine ⟨?_, ?_, fun e he => ⟨reports_of_register he, register_of_error he⟩⟩
    · rw [List.take_add_one, ha, Option.toList_some, registerAll_append]
      rfl
    · rw [register_fails_iff, keys, List.map_eq_nil_iff]
  · intro verb a
    refine get?_registerAll_iff.trans
      (or_congr Iff.rfl (and_congr Iff.rfl (exists_congr fun k => ?_)))
    exact ⟨fun h => ⟨h.registers, h.mem, h.earliest⟩, fun h => ⟨h.1, h.2.1, h.2.2⟩⟩
  · intro verb a m n hmn hm
    obtain ⟨more, hmore⟩ := List.take_prefix_take_left hmn
    rw [← hmore, registerAll_append]
    exact get?_registerAll_of_get? hm

/-- A verb that is declared twice does not stand in the way of its own action. One that another
action has, in other letter case, keeps the whole action out, its free verb included. -/
theorem shared_verb_keeps_action_out :
    let shout : Action := .ofValue .own ["Shout", "yell", "SHOUT"] [] fun _ v => .ok (.bind v)
    let call : Action := .ofValue .export_ ["call", "YELL"] [] fun _ _ => .ok .proceed
    let r : Registry := {}
    let loud : Registry := r.registerAll [shout]
    r.Registers [shout, call] 0 shout ∧ (∃ e, (loud.register call).1 = .error e) ∧
      (loud.register call).2 = loud ∧ r.registerAll [shout, call] = loud ∧
      (r.registerAll [shout, call]).get? "Yell" = some shout := by
  intro shout call r loud
  have hyell : lower "Yell" = "yell" := by decide +kernel
  have hshout : shout.verbs.map lower = ["shout", "yell", "shout"] := by decide +kernel
  have hcall : call.verbs.map lower = ["call", "yell"] := by decide +kernel
  have hok : (r.register shout).1 = .ok () :=
    register_ok_iff.mpr ⟨by simp [keys, hshout], fun _ _ => rfl⟩
  have hregisters : r.Registers [shout, call] 0 shout := registers_zero.mpr ⟨rfl, hok⟩
  have htaken : loud.actions.get? "yell" = some shout :=
    (get?_register hok).trans (if_pos (by rw [keys, hshout]; decide))
  obtain ⟨hcalls, hverbs, -⟩ := first_registration_counts r [shout, call]
  obtain ⟨hnext, hfails, hrefused⟩ := hcalls 1 call rfl
  obtain ⟨e, he⟩ :=
    hfails.mpr (.inr ⟨"yell", by rw [hcall]; decide, Option.isSome_of_eq_some htaken⟩)
  have hsame : (loud.register call).2 = loud := (hrefused e he).2
  refine ⟨hregisters, ⟨e, he⟩, hsame, hnext.trans hsame, (hverbs "Yell" shout).mpr (.inr ?_)⟩
  refine ⟨rfl, 0, hregisters, ?_, fun j hj => absurd hj (Nat.not_lt_zero j)⟩
  rw [hyell, hshout]
  decide

end FeatureFlow.Registry
