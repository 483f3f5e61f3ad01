import FeatureFlow.Execution.Run

/-! Lists without repetitions. An item is left out exactly if it is loosely equal to one kept before
it. Loose equality goes both ways but not from one pair to the next, so what is kept depends on the
order of the items. -/
namespace FeatureFlow

namespace Number

open Float.Model

theorem compare_then_swap (e k : Int) (m n : Nat) :
    (compare k e).then (compare n m) = ((compare e k).then (compare m n)).swap := by
  rw [Ordering.swap_then, ← Std.OrientedOrd.eq_swap, ← Std.OrientedOrd.eq_swap]

/-- Two doubles compare alike from both sides, or not at all. -/
theorem compare_swap (x y : UnpackedFloat) : y.compare x = (x.compare y).map Ordering.swap := by
  cases x with
  | notANumber => cases y <;> rfl
  | infinity s =>
    cases y with
    | infinity t => cases s <;> cases t <;> rfl
    | _ => cases s <;> rfl
  | zero s =>
    cases y with
    | infinity t => cases t <;> rfl
    | finite t n k hn => cases t <;> rfl
    | _ => rfl
  | finite s m e hm =>
    cases y with
    | infinity t => cases t <;> rfl
    | notANumber => rfl
    | zero t => cases s <;> rfl
    | finite t n k hn =>
      cases s <;> cases t
      · exact congrArg (fun o => some (Ordering.swap o)) (compare_then_swap e k m n)
      · rfl
      · rfl
      · exact congrArg some (compare_then_swap e k m n)

theorem beq_comm (x y : Float) : (x == y) = (y == x) := by
  have hbeq (x y : Float) : (x == y) = (x.toModel.unpack.compare y.toModel.unpack ==
      some .eq) := rfl
  rw [hbeq, hbeq, compare_swap x.toModel.unpack]
  cases x.toModel.unpack.compare y.toModel.unpack with
  | none => rfl
  | some o => cases o <;> rfl

end Number

namespace Value

mutual

theorem equal_comm (a b : Value) : a.equal b = b.equal a := by
  cases a with
  | null => cases b <;> rfl
  | bool x => cases b with
    | bool y => exact Bool.beq_comm
    | _ => rfl
  | int m => cases b with
    | int n => exact Bool.beq_comm
    | _ => rfl
  | float x => cases b with
    | float y => exact Number.beq_comm x y
    | _ => rfl
  | string s => cases b with
    | string t => exact Bool.beq_comm
    | _ => rfl
  | timestamp s => cases b with
    | timestamp t => exact Bool.beq_comm
    | _ => rfl
  | list as => cases b with
    | list bs => exact equalItems_comm as bs
    | _ => rfl
  | map as => cases b with
    | map bs => exact equalFields_comm as bs
    | _ => rfl

theorem equalItems_comm (as bs : List Value) : equalItems as bs = equalItems bs as := by
  cases as with
  | nil => cases bs <;> rfl
  | cons a as => cases bs with
    | nil => rfl
    | cons b bs => rw [equalItems, equalItems, equal_comm a b, equalItems_comm as bs]

theorem equalFields_comm (as bs : List (String × Value)) :
    equalFields as bs = equalFields bs as := by
  cases as with
  | nil => cases bs <;> rfl
  | cons field as =>
    obtain ⟨j, a⟩ := field
    cases bs with
    | nil => rfl
    | cons field bs =>
      obtain ⟨k, b⟩ := field
      rw [equalFields, equalFields, Bool.beq_comm, equal_comm a b, equalFields_comm as bs]

end

theorem looseEq_comm (a b : Value) : a.looseEq b = b.looseEq a := by
  cases a with
  | int m => cases b with
    | float y => rfl
    | _ => exact equal_comm _ _
  | float x => cases b with
    | int n => rfl
    | _ => exact equal_comm _ _
  | _ => cases b <;> exact equal_comm _ _

end Value

namespace Qualifier

variable {items before : List Value} {kept : List (Value × Nat)}

/-- Of the numbered items those `kept` are all different, and each other one is loosely equal to one
of them that comes before it. -/
structure Thins (items : List Value) (kept : List (Value × Nat)) : Prop where
  sublist : kept.Sublist items.zipIdx
  apart : kept.Pairwise fun p q => p.1.looseEq q.1 = false
  covered : ∀ p ∈ items.zipIdx, p ∉ kept → ∃ q ∈ kept, q.2 < p.2 ∧ p.1.looseEq q.1 = true

theorem thins_nil : Thins [] [] := ⟨.refl _, .nil, fun p hp => by cases hp⟩

theorem zipIdx_snoc (items : List Value) (v : Value) :
    (items ++ [v]).zipIdx = items.zipIdx ++ [(v, items.length)] := by
  rw [List.zipIdx_append, List.zipIdx_singleton, Nat.zero_add]

/-- A further item that is loosely equal to one of those kept is covered. -/
theorem Thins.drop (h : Thins items kept) {v : Value} (hv : ∃ p ∈ kept, p.1.looseEq v = true) :
    Thins (items ++ [v]) kept := by
  constructor
  · rw [zipIdx_snoc]
    exact h.sublist.trans (List.sublist_append_left _ _)
  · exact h.apart
  · intro p hp hnot
    rw [zipIdx_snoc] at hp
    rcases List.mem_append.mp hp with hp | hp
    · exact h.covered p hp hnot
    · obtain ⟨q, hq, heq⟩ := hv
      cases List.mem_singleton.mp hp
      refine ⟨q, hq, ?_, by rw [Value.looseEq_comm, heq]⟩
      exact List.snd_lt_of_mem_zipIdx (List.Sublist.mem hq h.sublist)

/-- One that is loosely equal to none of them is kept. -/
theorem Thins.keep (h : Thins items kept) {v : Value} (hv : ∀ p ∈ kept, p.1.looseEq v = false) :
    Thins (items ++ [v]) (kept ++ [(v, items.length)]) := by
  constructor
  · rw [zipIdx_snoc]
    exact h.sublist.append (.refl _)
  · refine List.pairwise_append.mpr ⟨h.apart, List.pairwise_singleton _ _, fun p hp q hq => ?_⟩
    cases List.mem_singleton.mp hq
    exact hv p hp
  · intro p hp hnot
    rw [zipIdx_snoc] at hp
    obtain ⟨hkept, hlast⟩ := not_or.mp (mt List.mem_append.mpr hnot)
    rcases List.mem_append.mp hp with hp | hp
    · obtain ⟨q, hq, hcovers⟩ := h.covered p hp hkept
      exact ⟨q, List.mem_append_left _ hq, hcovers⟩
    · exact absurd hp hlast

/-- What is kept of some items thins them, if what was kept of those before did. -/
theorem thins_foldl (h : Thins before kept) (items : List Value) :
    ∃ all, Thins (before ++ items) all ∧
      items.foldl (fun kept v => if kept.any (·.looseEq v) then kept else kept ++ [v])
        (kept.map (·.1)) = all.map (·.1) := by
  induction items generalizing before kept with
  | nil => exact ⟨kept, by rwa [List.append_nil], rfl⟩
  | cons v items ih =>
    rw [List.foldl_cons, List.append_cons]
    by_cases hv : (kept.map (·.1)).any (·.looseEq v) = true
    · rw [if_pos hv]
      rw [List.any_map, List.any_eq_true] at hv
      exact ih (h.drop hv)
    · rw [if_neg hv]
      have hnew : ∀ p ∈ kept, p.1.looseEq v = false := by
        intro p hp
        simpa using fun heq => hv (List.any_eq_true.mpr ⟨p.1, List.mem_map_of_mem hp, heq⟩)
      have hkeep := ih (h.keep hnew)
      rwa [List.map_append] at hkeep

theorem thins_distinct (items : List Value) :
    ∃ kept, Thins items kept ∧ distinct items = kept.map (·.1) :=
  thins_foldl thins_nil items

/-- Items that are all different are all kept. -/
theorem foldl_of_apart {kept items : List Value}
    (h : (kept ++ items).Pairwise fun v w => v.looseEq w = false) :
    items.foldl (fun kept v => if kept.any (·.looseEq v) then kept else kept ++ [v]) kept =
      kept ++ items := by
  induction items generalizing kept with
  | nil => exact (List.append_nil kept).symm
  | cons v items ih =>
    have hnew : ¬ kept.any (·.looseEq v) = true := by
      intro hany
      obtain ⟨w, hw, heq⟩ := List.any_eq_true.mp hany
      rw [(List.pairwise_append.mp h).2.2 w hw v List.mem_cons_self] at heq
      cases heq
    rw [List.append_cons] at h ⊢
    rw [List.foldl_cons, if_neg hnew, ih h]

theorem distinct_of_apart {items : List Value} (h : items.Pairwise fun v w => v.looseEq w = false) :
    distinct items = items := foldl_of_apart h

end Qualifier

/-- Of any items some are kept, in their order, no one of them loosely equal to a later one. Each
other item is loosely equal to one kept before it, so the first is always kept, and a second time
nothing is left out. -/
theorem repetitions_are_left_out (name : String) (items : List Value) :
    let unique (items : List Value) : Value :=
      (Target.mk name (some "unique") .whole).shape (.list items)
    ∃ kept : List (Value × Nat), unique items = .list (kept.map (·.1)) ∧ kept.Sublist items.zipIdx ∧
      (kept.map (·.1)).Sublist items ∧ (kept.map (·.1)).Pairwise (fun v w => v.looseEq w = false) ∧
      (∀ p ∈ items.zipIdx, p ∉ kept → ∃ q ∈ kept, q.2 < p.2 ∧ p.1.looseEq q.1 = true) ∧
      (∀ v rest, items = v :: rest → (v, 0) ∈ kept) ∧
        unique (kept.map (·.1)) = .list (kept.map (·.1)) := by
  intro unique
  have hunique (items : List Value) : unique items = .list (Qualifier.distinct items) :=
    Target.shape_qualified (q := .unique) (by decide +kernel) rfl name .whole
  obtain ⟨kept, hthins, hkept⟩ := Qualifier.thins_distinct items
  have hapart : (kept.map (·.1)).Pairwise fun v w => v.looseEq w = false :=
    List.pairwise_map.mpr hthins.apart
  refine ⟨kept, by rw [hunique, hkept], hthins.sublist, ?_, hapart, hthins.covered, ?_, ?_⟩
  · have hsublist := hthins.sublist.map (·.1)
    rwa [show items.zipIdx.map (·.1) = items from List.zipIdx_map_fst 0 items] at hsublist
  · rintro v rest rfl
    refine Classical.byContradiction fun hnot => ?_
    obtain ⟨q, -, hbefore, -⟩ := hthins.covered (v, 0) (by simp [List.zipIdx_cons]) hnot
    exact absurd hbefore (Nat.not_lt_zero _)
  · rw [hunique, Qualifier.distinct_of_apart hapart]

/-- Two ints beyond the precision of doubles differ, and both are loosely equal to the double
between them. -/
example :
    let odd : Value := .int 9007199254740993
    let even : Value := .int 9007199254740992
    let double : Value := .float (Number.ofInt64 9007199254740992)
    (Qualifier.distinct [odd, double, even]).length = 2 ∧
      (Qualifier.distinct [double, odd, even]).length = 1 := by
  decide +kernel

end FeatureFlow
