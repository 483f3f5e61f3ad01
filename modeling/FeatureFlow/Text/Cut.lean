/-! Texts cut at the first occurrence of a mark. -/
namespace FeatureFlow.Text

/-- What stands before and after the first occurrence of `mark`. -/
def cut (mark : List Char) : List Char → Option (List Char × List Char)
  | [] => if mark.isEmpty then some ([], []) else none
  | c :: cs =>
    if mark.isPrefixOf (c :: cs) then some ([], (c :: cs).drop mark.length)
    else (cut mark cs).map fun (before, after) => (c :: before, after)

def contains (mark cs : List Char) : Bool := (cut mark cs).isSome

theorem append_of_cut {mark cs before after : List Char} (h : cut mark cs = some (before, after)) :
    before ++ mark ++ after = cs := by
  induction cs generalizing before with
  | nil =>
    simp only [cut] at h
    split at h <;> simp_all
  | cons c cs ih =>
    simp only [cut] at h
    split at h
    · rename_i hp
      obtain ⟨rest, hr⟩ := List.isPrefixOf_iff_prefix.mp hp
      simp only [Option.some.injEq, Prod.mk.injEq] at h
      obtain ⟨rfl, rfl⟩ := h
      simp [← hr]
    · simp only [Option.map_eq_some_iff, Prod.mk.injEq, Prod.exists] at h
      obtain ⟨b, a, hc, rfl, rfl⟩ := h
      simp [← ih hc]

end FeatureFlow.Text
