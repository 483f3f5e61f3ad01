import FeatureFlow.Action.Registry

/-! Which action a verb has: the first one registered for it, and for the built-in verbs the
built-in actions. -/
namespace FeatureFlow

/-- The small letters of ASCII are their own lower case. -/
theorem Text.lowerChar_small {c : Char} (h : c.isLower = true) : Text.lowerChar c = [c] := by
  have hall : ((List.range 26).all fun n => Text.lowerChar (Char.ofNat (97 + n)) =
      [Char.ofNat (97 + n)]) = true := by
    decide +kernel
  obtain ⟨ha, hz⟩ := Bool.and_eq_true_iff.mp h
  have hlow : 97 ≤ c.toNat := of_decide_eq_true ha
  have hhigh : c.toNat ≤ 122 := of_decide_eq_true hz
  have hc := List.all_eq_true.mp hall (c.toNat - 97) (List.mem_range.mpr (by omega))
  rw [show 97 + (c.toNat - 97) = c.toNat by omega, Char.ofNat_toNat] at hc
  exact of_decide_eq_true hc

theorem Text.lowerFrom_small {before cs : List Char} (h : cs.all Char.isLower = true) :
    Text.lowerFrom before cs = cs := by
  induction cs generalizing before with
  | nil => rfl
  | cons c cs ih =>
    rw [List.all_cons, Bool.and_eq_true] at h
    have hs : c ≠ 'Σ' := by
      rintro rfl
      exact absurd h.1 (by decide)
    rw [lowerFrom, if_neg hs, lowerChar_small h.1, ih h.2]
    rfl

namespace Registry

/-- The verbs of an action as they are registered. -/
def keys (a : Action) : List String := a.verbs.map lower

theorem lower_small {verb : String} (h : verb.toList.all Char.isLower = true) :
    lower verb = verb := by
  rw [lower, Text.lower, Text.lowerFrom_small h, String.ofList_toList]

theorem taken?_none {r : Registry} {verb : String} :
    r.taken? verb = none ↔ r.actions.get? verb = none := by
  simp [taken?]

/-- An action that has verbs, all of them free, is registered. -/
theorem register_of_free {r : Registry} {a : Action} (hne : keys a ≠ [])
    (hfree : ∀ verb ∈ keys a, r.actions.get? verb = none) :
    r.register a = (.ok (), ⟨r.actions.insertAll ((keys a).map (·, a))⟩) := by
  have hnone : (a.verbs.map lower).findSome? r.taken? = none :=
    List.findSome?_eq_none_iff.mpr fun verb hverb => taken?_none.mpr (hfree verb hverb)
  unfold register
  split
  · rename_i hnil
    exact absurd hnil hne
  · rw [hnone]
    rfl

/-- Otherwise it is refused, and nothing changes. -/
theorem register_of_not_free {r : Registry} {a : Action}
    (h : ¬ (keys a ≠ [] ∧ ∀ verb ∈ keys a, r.actions.get? verb = none)) :
    ∃ e, r.register a = (.error e, r) := by
  unfold register
  split
  · exact ⟨_, rfl⟩
  · rename_i hne
    split
    · exact ⟨_, rfl⟩
    · rename_i hnone
      have hfree := List.findSome?_eq_none_iff.mp hnone
      exact absurd ⟨hne, fun verb hverb => taken?_none.mp (hfree verb hverb)⟩ h

theorem registerAll_cons {r : Registry} {a : Action} {actions : List Action} :
    r.registerAll (a :: actions) = (r.register a).2.registerAll actions := rfl

/-- A verb keeps its action. -/
theorem get?_registerAll_of_get? {r : Registry} {actions : List Action} {a : Action} {verb : String}
    (h : r.actions.get? verb = some a) : (r.registerAll actions).actions.get? verb = some a := by
  induction actions generalizing r with
  | nil => exact h
  | cons b actions ih =>
    rw [registerAll_cons]
    apply ih
    by_cases hb : keys b ≠ [] ∧ ∀ verb ∈ keys b, r.actions.get? verb = none
    · have hn : verb ∉ keys b := by
        intro hv
        rw [hb.2 verb hv] at h
        cases h
      rw [register_of_free hb.1 hb.2, KeyMap.get?_insertAll_const, if_neg hn, h]
    · obtain ⟨e, he⟩ := register_of_not_free hb
      rw [he]
      exact h

/-- An action of a registry has been registered for its verbs. -/
theorem get?_registerAll {r : Registry} {actions : List Action} {a : Action} {verb : String}
    (h : (r.registerAll actions).actions.get? verb = some a) :
    (a ∈ actions ∧ verb ∈ keys a) ∨ r.actions.get? verb = some a := by
  induction actions generalizing r with
  | nil => exact .inr h
  | cons b actions ih =>
    rw [registerAll_cons] at h
    rcases ih h with ⟨hm, hv⟩ | hg
    · exact .inl ⟨List.mem_cons_of_mem _ hm, hv⟩
    · by_cases hb : keys b ≠ [] ∧ ∀ verb ∈ keys b, r.actions.get? verb = none
      · rw [register_of_free hb.1 hb.2, KeyMap.get?_insertAll_const] at hg
        split at hg
        · rename_i hv
          cases hg
          exact .inl ⟨List.mem_cons_self .., hv⟩
        · exact .inr hg
      · obtain ⟨e, he⟩ := register_of_not_free hb
        rw [he] at hg
        exact .inr hg

/-- Where no two actions share a verb, each of them gets its verbs. -/
theorem get?_registerAll_of_nodup {r : Registry} {actions : List Action} {a : Action}
    {verb : String} (hd : (actions.flatMap keys).Nodup)
    (hr : ∀ v ∈ actions.flatMap keys, r.actions.get? v = none) (ha : a ∈ actions)
    (hv : verb ∈ keys a) : (r.registerAll actions).actions.get? verb = some a := by
  induction actions generalizing r with
  | nil => cases ha
  | cons b actions ih =>
    rw [List.flatMap_cons] at hd hr
    have hfree : ∀ v ∈ keys b, r.actions.get? v = none :=
      fun v hv => hr v (List.mem_append_left _ hv)
    by_cases hb : keys b = []
    · obtain ⟨e, he⟩ := register_of_not_free (r := r) fun h => h.1 hb
      rw [registerAll_cons, he]
      rcases List.mem_cons.mp ha with rfl | ha
      · rw [hb] at hv
        cases hv
      · exact ih (List.nodup_append.mp hd).2.1 (fun v hv => hr v (List.mem_append_right _ hv)) ha
    · rw [registerAll_cons, register_of_free hb hfree]
      rcases List.mem_cons.mp ha with rfl | ha
      · apply get?_registerAll_of_get?
        rw [KeyMap.get?_insertAll_const, if_pos hv]
      · refine ih (List.nodup_append.mp hd).2.1 ?_ ha
        intro v hv
        have hn : v ∉ keys b := fun hb => (List.nodup_append.mp hd).2.2 v hb v hv rfl
        rw [KeyMap.get?_insertAll_const, if_neg hn]
        exact hr v (List.mem_append_right _ hv)

theorem keys_builtin {a : Action} (ha : a ∈ builtinActions) : keys a = a.verbs := by
  have hs : (builtinActions.all fun a => a.verbs.all (·.toList.all Char.isLower)) = true := by
    decide +kernel
  have hv := List.all_eq_true.mp (List.all_eq_true.mp hs a ha)
  rw [keys, List.map_congr_left fun verb hm => lower_small (hv verb hm), List.map_id']

/-- Where no two actions share a verb, all are registered one after the other. -/
theorem registerAll_of_nodup {r : Registry} {actions : List Action}
    (hd : (actions.flatMap keys).Nodup) (hr : ∀ v ∈ actions.flatMap keys, r.actions.get? v = none)
    (hne : ∀ a ∈ actions, keys a ≠ []) :
    r.registerAll actions = ⟨actions.foldl
      (fun table a => table.insertAll ((keys a).map (·, a))) r.actions⟩ := by
  induction actions generalizing r with
  | nil => rfl
  | cons b actions ih =>
    rw [List.flatMap_cons] at hd hr
    obtain ⟨hb, hrest⟩ := List.forall_mem_cons.mp hne
    have hfree : ∀ v ∈ keys b, r.actions.get? v = none :=
      fun v hv => hr v (List.mem_append_left _ hv)
    rw [registerAll_cons, register_of_free hb hfree, List.foldl_cons]
    refine ih (List.nodup_append.mp hd).2.1 ?_ hrest
    intro v hv
    have hn : v ∉ keys b := fun hb => (List.nodup_append.mp hd).2.2 v hb v hv rfl
    rw [KeyMap.get?_insertAll_const, if_neg hn]
    exact hr v (List.mem_append_right _ hv)

theorem flatMap_keys_builtin : builtinActions.flatMap keys = builtinActions.flatMap (·.verbs) := by
  rw [List.flatMap_def, List.flatMap_def, List.map_congr_left fun _ => keys_builtin]

theorem nodup_keys_builtin : (builtinActions.flatMap keys).Nodup := by
  rw [flatMap_keys_builtin]
  decide +kernel

/-- The built-in actions by their verbs, with no case of letters left to look at. -/
def builtinTable : KeyMap Action :=
  builtinActions.foldl (fun table a => table.insertAll (a.verbs.map (·, a))) []

theorem builtins_eq : builtins = ⟨builtinTable⟩ := by
  have hverbs : (builtinActions.all fun a => !a.verbs.isEmpty) = true := by decide
  have hne : ∀ a ∈ builtinActions, keys a ≠ [] := by
    intro a ha hnil
    have hnonempty := List.all_eq_true.mp hverbs a ha
    rw [keys_builtin ha] at hnil
    simp [hnil] at hnonempty
  have hfold : ∀ {table : KeyMap Action} {actions : List Action},
    (∀ a ∈ actions, keys a = a.verbs) →
      actions.foldl (fun table a => table.insertAll ((keys a).map (·, a))) table =
        actions.foldl (fun table a => table.insertAll (a.verbs.map (·, a))) table := by
    intro table actions hkeys
    induction actions generalizing table with
    | nil => rfl
    | cons a actions ih =>
      obtain ⟨ha, hrest⟩ := List.forall_mem_cons.mp hkeys
      rw [List.foldl_cons, List.foldl_cons, ha, ih hrest]
  rw [builtins, registerAll_of_nodup nodup_keys_builtin (fun _ _ => rfl) hne, hfold fun _ =>
    keys_builtin]
  rfl

/-- The built-in verbs have the built-in actions, whatever the case of their letters. -/
theorem get?_builtins {a : Action} {verb : String} :
    builtins.get? verb = some a ↔ a ∈ builtinActions ∧ lower verb ∈ a.verbs := by
  constructor
  · intro h
    rcases get?_registerAll h with ⟨ha, hv⟩ | h
    · exact ⟨ha, keys_builtin ha ▸ hv⟩
    · cases h
  · rintro ⟨ha, hv⟩
    exact get?_registerAll_of_nodup nodup_keys_builtin (fun _ _ => rfl) ha (keys_builtin ha ▸ hv)

end Registry

end FeatureFlow
