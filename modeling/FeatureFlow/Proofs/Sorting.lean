import FeatureFlow.Proofs.LongSort
import FeatureFlow.Execution.Run

/-! Sorting values. What comes out has all items, but of many items that have no common order there
may be no result. Where they are of one kind that has an order, there is one. It depends on nothing
but the items, and the least and the greatest of them are its ends. -/
namespace FeatureFlow

open Std StableSort

namespace Value

/-- The values have an order, in which `a` does not come after `b`. -/
def UpTo (a b : Value) : Prop := a.order? b = some .lt ∨ a.order? b = some .eq

/-- The values of `P` stand in a line, one before the other by `R`; `keep` is the answer that puts
the left one before the right one. -/
structure Lined (P : Value → Prop) (keep : Ordering) (R : Value → Value → Prop) : Prop where
  left {a b : Value} : P a → P b → a.order? b = some keep → R a b
  right {a b : Value} : P a → P b → a.order? b ≠ some keep → R b a
  trans {a b c : Value} : P a → P b → P c → R a b → R b c → R a c
  antisymm {a b : Value} : P a → P b → R a b → R b a → a = b

theorem Lined.refl {P : Value → Prop} {keep : Ordering} {R : Value → Value → Prop}
    (h : Lined P keep R) {a : Value} (ha : P a) : R a a := by
  by_cases hself : a.order? a = some keep
  · exact h.left ha ha hself
  · exact h.right ha ha hself

/-- The values of `P` have an order in every way that the qualifiers look at it. -/
structure Ordinal (P : Value → Prop) : Prop where
  up : Lined P .lt UpTo
  down : Lined P .gt fun a b => UpTo b a
  orderly : Orderly Qualifier.less P

section Rank

variable {α : Type} {f : α → Value} {cmp : α → α → Ordering}

theorem upTo_iff (horder : ∀ x y, (f x).order? (f y) = some (cmp x y)) {x y : α} :
    UpTo (f x) (f y) ↔ (cmp x y).isLE = true := by
  rw [UpTo, horder, Option.some_inj, Option.some_inj, Ordering.isLE_iff_eq_lt_or_eq_eq]

variable [TransCmp cmp] {P : Value → Prop}

/-- Values that are compared like the members of an order have one. -/
theorem orderly_of_rank (horder : ∀ x y, (f x).order? (f y) = some (cmp x y))
    (hrank : ∀ v, P v → ∃ x, f x = v) : Orderly Qualifier.less P := by
  have hless (x y : α) : Qualifier.less (f x) (f y) = false ↔ (cmp y x).isLE = true := by
    rw [Qualifier.less, horder, beq_eq_false_iff_ne, Ne, Option.some_inj,
      ← Ordering.isGE_iff_ne_lt, OrientedCmp.isGE_iff_isLE]
  constructor
  · intro a b ha hb hab
    obtain ⟨x, rfl⟩ := hrank a ha
    obtain ⟨y, rfl⟩ := hrank b hb
    rw [Qualifier.less, horder, beq_iff_eq, Option.some_inj] at hab
    rw [hless, hab]
    rfl
  · intro a b c ha hb hc hba hcb
    obtain ⟨x, rfl⟩ := hrank a ha
    obtain ⟨y, rfl⟩ := hrank b hb
    obtain ⟨z, rfl⟩ := hrank c hc
    rw [hless] at hba hcb ⊢
    exact TransCmp.isLE_trans hba hcb

variable [LawfulEqCmp cmp]

/-- Values that are compared like the members of a linear order stand in a line upward. -/
theorem lined_up (horder : ∀ x y, (f x).order? (f y) = some (cmp x y))
    (hrank : ∀ v, P v → ∃ x, f x = v) : Lined P .lt UpTo := by
  constructor
  · intro a b ha hb hab
    exact .inl hab
  · intro a b ha hb hab
    obtain ⟨x, rfl⟩ := hrank a ha
    obtain ⟨y, rfl⟩ := hrank b hb
    rw [horder, Ne, Option.some_inj] at hab
    exact (upTo_iff horder).mpr (OrientedCmp.isGE_iff_isLE.mp (Ordering.isGE_iff_ne_lt.mpr hab))
  · intro a b c ha hb hc hab hbc
    obtain ⟨x, rfl⟩ := hrank a ha
    obtain ⟨y, rfl⟩ := hrank b hb
    obtain ⟨z, rfl⟩ := hrank c hc
    rw [upTo_iff horder] at hab hbc ⊢
    exact TransCmp.isLE_trans hab hbc
  · intro a b ha hb hab hba
    obtain ⟨x, rfl⟩ := hrank a ha
    obtain ⟨y, rfl⟩ := hrank b hb
    rw [upTo_iff horder] at hab hba
    rw [LawfulEqCmp.eq_of_compare (OrientedCmp.isLE_antisymm hab hba)]

theorem lined_down (horder : ∀ x y, (f x).order? (f y) = some (cmp x y))
    (hrank : ∀ v, P v → ∃ x, f x = v) : Lined P .gt fun a b => UpTo b a := by
  have hup := lined_up horder hrank
  refine ⟨?_, ?_, fun ha hb hc hab hbc => hup.trans hc hb ha hbc hab,
    fun ha hb hab hba => hup.antisymm ha hb hba hab⟩
  · intro a b ha hb hab
    refine hup.right ha hb ?_
    rw [hab]
    decide
  · intro a b ha hb hab
    obtain ⟨x, rfl⟩ := hrank a ha
    obtain ⟨y, rfl⟩ := hrank b hb
    rw [horder, Ne, Option.some_inj] at hab
    exact (upTo_iff horder).mpr (Ordering.isLE_iff_ne_gt.mpr hab)

theorem ordinal_of_rank (horder : ∀ x y, (f x).order? (f y) = some (cmp x y))
    (hrank : ∀ v, P v → ∃ x, f x = v) : Ordinal P :=
  ⟨lined_up horder hrank, lined_down horder hrank, orderly_of_rank horder hrank⟩

end Rank

theorem order?_int (m n : Int64) : (Value.int m).order? (.int n) = some (compare m n) := rfl

theorem order?_string (s t : String) : (Value.string s).order? (.string t) = some (compare s t) :=
  rfl

theorem order?_bool (a b : Bool) :
    (Value.bool a).order? (.bool b) = some (compareOn Bool.toNat a b) := rfl

theorem order?_timestamp (s t : Timestamp) :
    (Value.timestamp s).order? (.timestamp t) = some (s.order t) := rfl

instance transCmp_timestamp : TransCmp Timestamp.order :=
  inferInstanceAs (TransCmp (compareLex (compareOn Timestamp.seconds) (compareOn Timestamp.nanos)))

instance lawfulEqCmp_timestamp : LawfulEqCmp Timestamp.order where
  eq_of_compare {s t} h := by
    obtain ⟨hseconds, hnanos⟩ := Ordering.then_eq_eq.mp h
    cases s
    cases t
    cases LawfulEqCmp.eq_of_compare hseconds
    cases LawfulEqCmp.eq_of_compare hnanos
    rfl

instance lawfulEqCmp_bool : LawfulEqCmp (compareOn Bool.toNat) where
  eq_of_compare {s t} h := by
    cases s <;> cases t
    · rfl
    · cases h
    · cases h
    · rfl

/-- The kinds whose values have an order among themselves. Doubles are none of them, since NaN has
no place in theirs. -/
def ordinalKinds : List String := ["int", "string", "bool", "timestamp"]

theorem ordinal_of_kind {kind : String} (h : kind ∈ ordinalKinds) :
    Ordinal (·.typeName = kind) := by
  simp only [ordinalKinds, List.mem_cons, List.not_mem_nil, or_false] at h
  rcases h with rfl | rfl | rfl | rfl
  · refine ordinal_of_rank order?_int fun v hv => ?_
    cases v with
    | int n => exact ⟨n, rfl⟩
    | _ => simp [typeName] at hv
  · refine ordinal_of_rank order?_string fun v hv => ?_
    cases v with
    | string s => exact ⟨s, rfl⟩
    | _ => simp [typeName] at hv
  · refine ordinal_of_rank order?_bool fun v hv => ?_
    cases v with
    | bool b => exact ⟨b, rfl⟩
    | _ => simp [typeName] at hv
  · refine ordinal_of_rank order?_timestamp fun v hv => ?_
    cases v with
    | timestamp t => exact ⟨t, rfl⟩
    | _ => simp [typeName] at hv

/-- The items are all of one kind that has an order. -/
def Uniform (items : List Value) : Prop :=
  ∃ kind ∈ ordinalKinds, ∀ v ∈ items, v.typeName = kind

end Value

namespace Qualifier

open Value

variable {items kept : List Value} {P : Value → Prop}

theorem exists_sort (h : Ordinal P) (hP : ∀ v ∈ items, P v) :
    ∃ sorted, StableSort.sort less items = some sorted ∧ sorted.Perm items ∧
      sorted.Pairwise UpTo := by
  have hgives := sort_gives less hP
  obtain ⟨sorted, hsorted⟩ := hgives.some (.inl h.orderly)
  obtain ⟨hperm, hrises⟩ := hgives.right sorted hsorted
  refine ⟨sorted, hsorted, hperm, (hrises h.orderly).imp_of_mem fun {a b} ha hb hba => ?_⟩
  have hne : b.order? a ≠ some .lt := by simpa [less] using hba
  exact h.up.right (hP b (hperm.mem_iff.mp hb)) (hP a (hperm.mem_iff.mp ha)) hne

/-- The same items in a line are the same list. -/
theorem sort_eq (h : Ordinal P) (hP : ∀ v ∈ items, P v) (hperm : kept.Perm items)
    (hkept : kept.Pairwise UpTo) : StableSort.sort less items = some kept := by
  obtain ⟨sorted, hsorted, hsame, hrises⟩ := exists_sort h hP
  have heq : sorted = kept := by
    refine List.Perm.eq_of_pairwise (fun a b ha hb => ?_) hrises hkept (hsame.trans hperm.symm)
    exact h.up.antisymm (hP a (hsame.mem_iff.mp ha)) (hP b (hperm.mem_iff.mp hb))
  rw [hsorted, heq]

variable {keep : Ordering} {R : Value → Value → Prop}

/-- What is kept of the items is one of them that stands before all. -/
theorem foldl_extreme (hline : Lined P keep R) {best : Value} (hbest : P best)
    (hP : ∀ w ∈ items, P w) :
    let last := items.foldl (fun best w => if w.order? best == some keep then w else best) best
    last ∈ best :: items ∧ ∀ w ∈ best :: items, R last w := by
  induction items generalizing best with
  | nil => exact ⟨List.mem_singleton_self best, List.forall_mem_singleton.mpr (hline.refl hbest)⟩
  | cons w items ih =>
    intro last
    obtain ⟨hw, hrest⟩ := List.forall_mem_cons.mp hP
    let next := if w.order? best == some keep then w else best
    obtain ⟨hmem, hnext, hbefore, hafter⟩ : next ∈ [best, w] ∧ P next ∧ R next best ∧ R next w := by
      by_cases hkeep : w.order? best = some keep
      · have heq : next = w := if_pos (beq_iff_eq.mpr hkeep)
        rw [heq]
        exact ⟨by simp, hw, hline.left hw hbest hkeep, hline.refl hw⟩
      · have heq : next = best := if_neg (by rwa [beq_iff_eq])
        rw [heq]
        exact ⟨by simp, hbest, hline.refl hbest, hline.right hw hbest hkeep⟩
    have hlast : last ∈ next :: items ∧ ∀ u ∈ next :: items, R last u := ih hnext hrest
    have hlastP : P last := List.forall_mem_cons.mpr ⟨hnext, hrest⟩ last hlast.1
    obtain ⟨hlastnext, hlastrest⟩ := List.forall_mem_cons.mp hlast.2
    constructor
    · rcases List.mem_cons.mp hlast.1 with heq | hmem'
      · rw [heq]
        exact List.mem_append_left items hmem
      · exact List.mem_append_right [best, w] hmem'
    · refine List.forall_mem_cons.mpr ⟨?_, List.forall_mem_cons.mpr ⟨?_, hlastrest⟩⟩
      · exact hline.trans hlastP hnext hbest hlastnext hbefore
      · exact hline.trans hlastP hnext hw hlastnext hafter

/-- The first of the items in a line is the one that is kept. -/
theorem extreme_eq_head (hline : Lined P keep R) (hP : ∀ v ∈ items, P v) (hperm : kept.Perm items)
    (hkept : kept.Pairwise R) : extreme keep items = kept.head?.getD .null := by
  cases items with
  | nil =>
    rw [hperm.eq_nil]
    rfl
  | cons v items =>
    obtain ⟨hv, hrest⟩ := List.forall_mem_cons.mp hP
    obtain ⟨hmem, hall⟩ : extreme keep (v :: items) ∈ v :: items ∧
        ∀ w ∈ v :: items, R (extreme keep (v :: items)) w := foldl_extreme hline hv hrest
    cases kept with
    | nil => cases hperm.nil_eq
    | cons w kept =>
      have hw : w ∈ v :: items := hperm.mem_iff.mp List.mem_cons_self
      refine hline.antisymm (hP _ hmem) (hP w hw) (hall w hw) ?_
      rcases List.mem_cons.mp (hperm.mem_iff.mpr hmem) with heq | hlater
      · rw [heq]
        exact hline.refl (hP w hw)
      · exact (List.pairwise_cons.mp hkept).1 _ hlater

end Qualifier

/-- If sorting gives a list, it has all items, and none that is less than one before it where the
comparison is an order on them. It does give one then, and where the items are not more than twenty.
If they are all ints, all texts, all truth values or all instants, they rise from the least to the
greatest, and it makes no difference in which order they were, or whether they were sorted. -/
theorem sorted_list_rises (name : String) (items : List Value) :
    let shaped (qualifier : String) (specifier : Specifier) (items : List Value) : Option Value :=
      (Target.mk name (some qualifier) specifier).shape? (.list items)
    (∀ v, shaped "sort" .whole items = some v → ∃ sorted, v = .list sorted ∧ sorted.Perm items ∧
      (Orderly Qualifier.less (· ∈ items) → Rises Qualifier.less sorted)) ∧
    (Orderly Qualifier.less (· ∈ items) ∨ items.length ≤ 20 →
      ∃ v, shaped "sort" .whole items = some v) ∧
    (Value.Uniform items → ∃ sorted, shaped "sort" .whole items = some (.list sorted) ∧
      sorted.Perm items ∧
      sorted.Pairwise (fun a b => a.order? b = some .lt ∨ a.order? b = some .eq) ∧
      shaped "min" .whole items = shaped "sort" .first items ∧
      shaped "max" .whole items = shaped "sort" .last items ∧
      shaped "sort" .whole sorted = some (.list sorted) ∧
      ∀ other, other.Perm items → shaped "sort" .whole other = some (.list sorted)) := by
  intro shaped
  have hsort (specifier : Specifier) (items : List Value) : shaped "sort" specifier items =
      ((StableSort.sort Qualifier.less items).map .list).map specifier.apply :=
    Target.shape?_qualified (q := .sort) (by decide +kernel) name specifier (.list items)
  have hgives := sort_gives Qualifier.less (P := (· ∈ items)) fun v hv => hv
  refine ⟨fun v hv => ?_, fun hsure => ?_, ?_⟩
  · rw [hsort] at hv
    obtain ⟨_, hlist, rfl⟩ := Option.map_eq_some_iff.mp hv
    obtain ⟨sorted, hsorted, rfl⟩ := Option.map_eq_some_iff.mp hlist
    have harranges := hgives.right sorted hsorted
    exact ⟨sorted, rfl, harranges.perm, harranges.rises⟩
  · obtain ⟨sorted, hsorted⟩ := hgives.some hsure
    exact ⟨.list sorted, by rw [hsort, hsorted]; rfl⟩
  · rintro ⟨kind, hkind, hitems⟩
    have hordinal := Value.ordinal_of_kind hkind
    obtain ⟨sorted, hsorted, hperm, hrises⟩ := Qualifier.exists_sort hordinal hitems
    have hsame : ∀ other, other.Perm items → shaped "sort" .whole other = some (.list sorted) := by
      intro other hother
      have hmem : ∀ v ∈ other, v.typeName = kind := fun v hv => hitems v (hother.mem_iff.mp hv)
      rw [hsort, Qualifier.sort_eq hordinal hmem (hperm.trans hother.symm) hrises]
      rfl
    have hmin : shaped "min" .whole items = some (Qualifier.extreme .lt items) :=
      Target.shape?_qualified (q := .least) (by decide +kernel) name .whole (.list items)
    have hmax : shaped "max" .whole items = some (Qualifier.extreme .gt items) :=
      Target.shape?_qualified (q := .greatest) (by decide +kernel) name .whole (.list items)
    refine ⟨sorted, hsame items (.refl _), hperm, hrises, ?_, ?_, hsame _ hperm, hsame⟩
    · rw [hmin, hsort, hsorted, Qualifier.extreme_eq_head hordinal.up hitems hperm hrises]
      rfl
    · have hfalls : sorted.reverse.Pairwise fun a b => Value.UpTo b a :=
        List.pairwise_reverse.mpr hrises
      rw [hmax, hsort, hsorted, Qualifier.extreme_eq_head hordinal.down hitems
        ((List.reverse_perm _).trans hperm) hfalls, List.head?_reverse]
      rfl

/-- Texts, one of them twice, in two orders. -/
theorem texts_sort_alike :
    let items : List Value := [.string "b", .string "ä", .string "a", .string "b"]
    let shaped (qualifier : String) (specifier : Specifier) (items : List Value) : Option Value :=
      (Target.mk "words" (some qualifier) specifier).shape? (.list items)
    Value.Uniform items ∧ items.length ≤ 20 ∧ (∃ v, shaped "sort" .whole items = some v) ∧
      shaped "max" .whole items = shaped "sort" .last items ∧
      shaped "sort" .whole items.reverse = shaped "sort" .whole items := by
  intro items shaped
  have huniform : Value.Uniform items := ⟨"string", by decide, by simp [items, Value.typeName]⟩
  obtain ⟨-, hfew, hkind⟩ := sorted_list_rises "words" items
  obtain ⟨sorted, hsorted, -, -, -, hmax, -, hsame⟩ := hkind huniform
  refine ⟨huniform, by decide, hfew (.inr (by decide)), hmax, ?_⟩
  exact (hsame _ items.reverse_perm).trans hsorted.symm

/-- Numbers and texts have no order among themselves, and so many of them may have no result. -/
theorem mixed_list_is_not_sorted :
    (Target.mk "mixed" (some "sort") .whole).shape? (.list ([.int 5, .string "b", .string "a"] ++
      List.replicate 7 (.string "s") ++ List.replicate 11 (.int 1))) = none :=
  Option.isNone_iff_eq_none.mp (by decide +kernel)

end FeatureFlow
