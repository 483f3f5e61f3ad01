import FeatureFlow.Specifier

/-! What specifiers select. Indices count from the end of a list, in words of 64 bits. Whatever the
indices are, the positions they come to are positions of the list, and no step on the way to them
leaves the words. -/
namespace FeatureFlow.Specifier

variable {items : List Value} {n low high i e : Nat} {k : UInt64}

/-- The items whose index `wanted` takes, in the order of the list. The last item has index 0. -/
def itemsWhere (items : List Value) (wanted : Nat → Bool) : List Value :=
  (items.zipIdx.filter fun entry => wanted (items.length - 1 - entry.2)).map (·.1)

/-- The indices from the lesser of two to the greater. -/
def indices (a b : UInt64) : List UInt64 :=
  (List.range' (min a.toNat b.toNat) (max a.toNat b.toNat - min a.toNat b.toNat + 1)).map
    UInt64.ofNat

theorem minus?_of_le {m : Nat} (h : n ≤ m) : minus? m n = some (m - n) := if_pos h

theorem minus?_of_lt {m : Nat} (h : m < n) : minus? m n = none := if_neg (Nat.not_le.mpr h)

/-- Counting from the end is counting in the reversed list. -/
theorem fromEnd?_eq (items : List Value) (k : UInt64) :
    fromEnd? items k = some (items.reverse[k.toNat]?.getD .null) := by
  rw [fromEnd?, position?]
  by_cases hk : k.toNat < items.length
  · have hpos : items.length - (k.toNat + 1) < items.length := by omega
    rw [minus?_of_le hk, List.getElem?_reverse hk, Nat.sub_sub, Nat.add_comm 1]
    simp [List.getElem?_eq_getElem hpos]
  · rw [minus?_of_lt (by omega), List.getElem?_eq_none (by simpa using hk)]
    rfl

theorem mapM_fromEnd? (items : List Value) (ks : List UInt64) :
    ks.mapM (fromEnd? items) = some (ks.map fun k => items.reverse[k.toNat]?.getD .null) := by
  induction ks with
  | nil => rfl
  | cons k ks ih =>
    rw [List.mapM_cons, fromEnd?_eq, ih]
    rfl

theorem span?_of_lt (h : low < n) :
    span? n low high = some (n - 1 - min high (n - 1), n - 1 - low + 1) := by
  have hn : 1 ≤ n := by omega
  have hhigh : min high (n - 1) ≤ n - 1 := Nat.min_le_right _ _
  have hlow : low ≤ n - 1 := by omega
  simp only [span?, minus?_of_le hn, Option.bind_eq_bind, Option.bind_some, minus?_of_le hhigh,
    minus?_of_le hlow]
  rfl

theorem slice?_of_le (hi : i ≤ e) (he : e ≤ items.length) :
    slice? items i e = some ((items.take e).drop i) :=
  if_pos ⟨hi, he⟩

/-- The items between two positions, by the numbers of their positions. -/
theorem map_filter_zipIdx (items : List Value) (start i e : Nat) :
    ((items.zipIdx start).filter fun entry => decide (i ≤ entry.2 ∧ entry.2 < e)).map (·.1) =
      (items.take (e - start)).drop (i - start) := by
  induction items generalizing start with
  | nil => simp
  | cons v items ih =>
    rw [List.zipIdx_cons, List.filter_cons]
    by_cases he : start < e
    · have htake : e - start = e - (start + 1) + 1 := by omega
      by_cases hi : i ≤ start
      · have hdrop : i - start = 0 := by omega
        have hdrop' : i - (start + 1) = 0 := by omega
        rw [if_pos (by simpa using ⟨hi, he⟩), List.map_cons, ih, htake, hdrop, hdrop',
          List.take_succ_cons]
        rfl
      · have hdrop : i - start = i - (start + 1) + 1 := by omega
        rw [if_neg (by simp; omega), ih, htake, hdrop, List.take_succ_cons, List.drop_succ_cons]
    · have htake : e - start = 0 := by omega
      have htake' : e - (start + 1) = 0 := by omega
      rw [if_neg (by simp; omega), ih, htake, htake']
      simp

theorem itemsWhere_eq (h : low < items.length) :
    itemsWhere items (fun r => decide (low ≤ r ∧ r ≤ high)) =
      (items.take (items.length - low)).drop (items.length - 1 - min high (items.length - 1)) := by
  have hfilter := map_filter_zipIdx items 0 (items.length - 1 - min high (items.length - 1))
    (items.length - low)
  rw [Nat.sub_zero, Nat.sub_zero] at hfilter
  rw [← hfilter, itemsWhere]
  congr 1
  apply List.filter_congr
  intro entry hentry
  have hlt := List.snd_lt_of_mem_zipIdx hentry
  rw [decide_eq_decide]
  omega

theorem itemsWhere_of_le (h : items.length ≤ low) :
    itemsWhere items (fun r => decide (low ≤ r ∧ r ≤ high)) = [] := by
  rw [itemsWhere, List.map_eq_nil_iff, List.filter_eq_nil_iff]
  intro entry hentry
  have hlt := List.snd_lt_of_mem_zipIdx hentry
  simp only [decide_eq_true_eq]
  omega

theorem between?_eq (items : List Value) (a b : UInt64) :
    between? items a b =
      some (itemsWhere items fun r =>
        decide (min a.toNat b.toNat ≤ r ∧ r ≤ max a.toNat b.toNat)) := by
  by_cases hlow : items.length ≤ min a.toNat b.toNat
  · rw [itemsWhere_of_le hlow]
    exact if_pos hlow
  · have hlt : min a.toNat b.toNat < items.length := Nat.lt_of_not_le hlow
    have hend : items.length - 1 - min a.toNat b.toNat + 1 =
        items.length - min a.toNat b.toNat := by omega
    rw [between?, if_neg hlow, span?_of_lt hlt, hend, itemsWhere_eq hlt]
    exact slice?_of_le (by omega) (by omega)

/-- Reading one index after the other is reading on from the first of them. -/
theorem map_range'_getElem? (items : List Value) {low count : Nat}
    (h : low + count ≤ items.length) :
    ((List.range' low count).map fun r => items[r]?.getD .null) = (items.drop low).take count := by
  apply List.ext_getElem
  · simp only [List.length_map, List.length_range', List.length_take, List.length_drop]
    omega
  · intro r hr _
    simp only [List.length_map, List.length_range'] at hr
    have hlt : low + r < items.length := by omega
    simp [List.getElem?_eq_getElem hlt]

/-- Picking the indices from one to the other gives the items between them, from the end on. -/
theorem map_indices {a b : UInt64} (h : max a.toNat b.toNat < items.length) :
    ((indices a b).map fun k => items.reverse[k.toNat]?.getD .null).reverse =
      itemsWhere items fun r => decide (min a.toNat b.toNat ≤ r ∧ r ≤ max a.toNat b.toNat) := by
  have ha := a.toNat_lt
  have hb := b.toNat_lt
  have hread : (indices a b).map (fun k => items.reverse[k.toNat]?.getD .null) =
      (List.range' (min a.toNat b.toNat) (max a.toNat b.toNat - min a.toNat b.toNat + 1)).map
        fun r => items.reverse[r]?.getD .null := by
    rw [indices, List.map_map]
    apply List.map_congr_left
    intro r hr
    have hword : r < UInt64.size := by
      have := List.mem_range'_1.mp hr
      simp only [UInt64.size]
      omega
    rw [Function.comp_apply, UInt64.toNat_ofNat_of_lt' hword]
  have hlow : min a.toNat b.toNat < items.length := by omega
  rw [hread, map_range'_getElem? _ (by rw [List.length_reverse]; omega), List.drop_reverse,
    List.take_reverse,
    List.reverse_reverse, itemsWhere_eq hlow]
  congr 1
  rw [List.length_take]
  omega

theorem exists_ofItems? (s : Specifier) (items : List Value) : ∃ v, s.ofItems? items = some v := by
  cases s with
  | whole => exact ⟨_, rfl⟩
  | first => exact ⟨_, rfl⟩
  | last => exact ⟨_, rfl⟩
  | index k => exact ⟨_, fromEnd?_eq items k⟩
  | range a b =>
    rw [ofItems?, between?_eq]
    exact ⟨_, rfl⟩
  | pick ks =>
    rw [ofItems?, mapM_fromEnd?]
    exact ⟨_, rfl⟩

theorem apply_list {s : Specifier} {v : Value} (hs : s ≠ whole) (h : s.ofItems? items = some v) :
    s.apply (.list items) = v := by
  have hwhole : s.isWhole = false := by simpa [isWhole] using hs
  rw [apply, hwhole]
  simp [h]

theorem apply_index (items : List Value) (k : UInt64) :
    (index k).apply (.list items) = items.reverse[k.toNat]?.getD .null :=
  apply_list (by simp) (fromEnd?_eq items k)

theorem apply_pick (items : List Value) (ks : List UInt64) :
    (pick ks).apply (.list items) = .list (ks.map fun k => items.reverse[k.toNat]?.getD .null) :=
  apply_list (by simp) (by rw [ofItems?, mapM_fromEnd?]; rfl)

theorem apply_range (items : List Value) (a b : UInt64) : (range a b).apply (.list items) =
    .list (itemsWhere items fun r => decide (min a.toNat b.toNat ≤ r ∧ r ≤ max a.toNat b.toNat)) :=
  apply_list (by simp) (by rw [ofItems?, between?_eq]; rfl)

theorem apply_first (items : List Value) : first.apply (.list items) = items.head?.getD .null :=
  apply_list (by simp) rfl

theorem apply_last (items : List Value) : last.apply (.list items) = items.getLast?.getD .null :=
  apply_list (by simp) rfl

namespace Word

/-- A difference below zero is no word. -/
def minus? (m n : UInt64) : Option UInt64 := if n ≤ m then some (m - n) else none

/-- Nor is what comes after the greatest word. -/
def next? (m : UInt64) : Option UInt64 := if m.toNat + 1 < UInt64.size then some (m + 1) else none

def position? (n k : UInt64) : Option UInt64 := (next? k).bind (minus? n)

def span? (n low high : UInt64) : Option (UInt64 × UInt64) := do
  let final ← minus? n 1
  let i ← minus? final (if high ≤ final then high else final)
  let j ← minus? final low
  return (i, ← next? j)

theorem minus?_of_le {m n : UInt64} (h : n.toNat ≤ m.toNat) :
    ∃ d, minus? m n = some d ∧ d.toNat = m.toNat - n.toNat := by
  have hle : n ≤ m := UInt64.le_iff_toNat_le.mpr h
  exact ⟨m - n, if_pos hle, UInt64.toNat_sub_of_le _ _ hle⟩

theorem minus?_of_lt {m n : UInt64} (h : m.toNat < n.toNat) : minus? m n = none := by
  refine if_neg fun hle => ?_
  have := UInt64.le_iff_toNat_le.mp hle
  omega

theorem next?_of_lt {m n : UInt64} (h : m < n) : ∃ s, next? m = some s ∧ s.toNat = m.toNat + 1 := by
  have hlt := UInt64.lt_iff_toNat_lt.mp h
  have hn := n.toNat_lt
  have hword : m.toNat + 1 < UInt64.size := by
    simp only [UInt64.size]
    omega
  refine ⟨m + 1, if_pos hword, ?_⟩
  rw [UInt64.toNat_add]
  exact Nat.mod_eq_of_lt hword

/-- An index with no word after it is beyond all items, as any other that is too large. -/
theorem position?_eq (n k : UInt64) :
    (position? n k).map UInt64.toNat = Specifier.position? n.toNat k := by
  by_cases hk : k < n
  · obtain ⟨s, hs, hsn⟩ := next?_of_lt hk
    have hlt := UInt64.lt_iff_toNat_lt.mp hk
    have hle : s.toNat ≤ n.toNat := by omega
    obtain ⟨d, hd, hdn⟩ := minus?_of_le hle
    rw [position?, hs, Option.bind_some, hd, Option.map_some, hdn, hsn]
    exact (Specifier.minus?_of_le hlt).symm
  · have hlt : n.toNat < k.toNat + 1 := by
      have := UInt64.not_lt.mp hk
      have := UInt64.le_iff_toNat_le.mp this
      omega
    rw [Specifier.position?, Specifier.minus?_of_lt hlt, Option.map_eq_none_iff, position?]
    by_cases hword : k.toNat + 1 < UInt64.size
    · have hs : (k + 1).toNat = k.toNat + 1 := by
        rw [UInt64.toNat_add]
        exact Nat.mod_eq_of_lt hword
      rw [next?, if_pos hword, Option.bind_some]
      exact minus?_of_lt (by omega)
    · rw [next?, if_neg hword]
      rfl

theorem span?_of_lt {n low high : UInt64} (h : low < n) (hle : low ≤ high) :
    ∃ i e, span? n low high = some (i, e) ∧ Specifier.span? n.toNat low.toNat high.toNat =
      some (i.toNat, e.toNat) ∧
      i.toNat ≤ e.toNat ∧ e.toNat ≤ n.toNat := by
  have hlt := UInt64.lt_iff_toNat_lt.mp h
  have hlh := UInt64.le_iff_toNat_le.mp hle
  obtain ⟨final, hfinal, hfn⟩ := minus?_of_le (m := n) (n := 1)
    (Nat.lt_of_le_of_lt (Nat.zero_le _) hlt)
  rw [UInt64.toNat_one] at hfn
  have hcap : (if high ≤ final then high else final).toNat = min high.toNat final.toNat := by
    rw [Nat.min_def]
    split
    · rename_i hcap
      rw [if_pos (UInt64.le_iff_toNat_le.mp hcap)]
    · rename_i hcap
      rw [if_neg fun hc => hcap (UInt64.le_iff_toNat_le.mpr hc)]
  obtain ⟨i, hi, hin⟩ := minus?_of_le (m := final) (n := if high ≤ final then high else final)
    (by omega)
  obtain ⟨j, hj, hjn⟩ := minus?_of_le (m := final) (n := low) (by omega)
  obtain ⟨e, he, hen⟩ := next?_of_lt (m := j) (n := n) (UInt64.lt_iff_toNat_lt.mpr (by omega))
  refine ⟨i, e, ?_, ?_, by omega, by omega⟩
  · simp only [span?, hfinal, hi, hj, he, Option.bind_eq_bind, Option.bind_some]
    rfl
  · rw [Specifier.span?_of_lt hlt, hin, hen, hjn, hcap, hfn]

end Word

/-- Indices count from the end. A range gives the items whose index lies between its two, in the
order of the list and whichever comes first; an index gives the item that has it, or null, and a
pick does so for each of its indices. The last item has index 0 and the first of `n` items index `n
- 1`, and a range whose indices are all in use gives, from the end on, what a pick of them gives. No
selection leaves the list or goes below zero, and for a list whose length is a word the positions
are found without leaving the words. -/
theorem indices_count_from_end (items : List Value) (a b k : UInt64) (ks : List UInt64) :
    ((range a b).apply (.list items) =
      .list (itemsWhere items fun r =>
        decide (min a.toNat b.toNat ≤ r ∧ r ≤ max a.toNat b.toNat))) ∧
    (range a b).apply (.list items) = (range b a).apply (.list items) ∧
    (∀ i v, items[i]? = some v → items.length - 1 - i = k.toNat →
      (index k).apply (.list items) = v) ∧
    (items.length ≤ k.toNat → (index k).apply (.list items) = .null) ∧
    (pick ks).apply (.list items) = .list (ks.map fun k => (index k).apply (.list items)) ∧
    last.apply (.list items) = (index 0).apply (.list items) ∧
    (items.length = k.toNat + 1 → first.apply (.list items) = (index k).apply (.list items)) ∧
    (max a.toNat b.toNat < items.length → ∃ picked,
      (pick (indices a b)).apply (.list items) = .list picked ∧
      (range a b).apply (.list items) = .list picked.reverse) ∧
    (∀ s : Specifier, ∃ v, s.ofItems? items = some v ∧ s.apply (.list items) = v) ∧
    ∀ n : UInt64, n.toNat = items.length →
      (Word.position? n k).map UInt64.toNat = position? items.length k ∧
      ∀ low high, low < n → low ≤ high → ∃ i e, Word.span? n low high = some (i, e) ∧
        span? items.length low.toNat high.toNat = some (i.toNat, e.toNat) ∧
        i.toNat ≤ e.toNat ∧ e.toNat ≤ items.length := by
  refine ⟨apply_range items a b, ?_, ?_, ?_, ?_, ?_, ?_, ?_, ?_, ?_⟩
  · rw [apply_range, apply_range, Nat.min_comm, Nat.max_comm]
  · intro i v hi hk
    obtain ⟨hlt, -⟩ := List.getElem?_eq_some_iff.mp hi
    have hrev : items.reverse[k.toNat]? = some v := by
      rw [List.getElem?_reverse (by omega), ← hi]
      congr 1
      omega
    rw [apply_index, hrev]
    rfl
  · intro hle
    rw [apply_index, List.getElem?_eq_none (by simpa using hle)]
    rfl
  · rw [apply_pick]
    simp only [apply_index]
  · rw [apply_last, apply_index, List.getLast?_eq_head?_reverse, List.head?_eq_getElem?]
    rfl
  · intro hlen
    rw [apply_first, apply_index, List.getElem?_reverse (by omega), List.head?_eq_getElem?, hlen]
    simp
  · intro hlt
    exact ⟨_, apply_pick items (indices a b), by rw [apply_range, map_indices hlt]⟩
  · intro s
    obtain ⟨v, hv⟩ := exists_ofItems? s items
    refine ⟨v, hv, ?_⟩
    by_cases hs : s = whole
    · subst hs
      cases hv
      rfl
    · exact apply_list hs hv
  · intro n hn
    rw [← hn]
    exact ⟨Word.position?_eq n k, fun _ _ => Word.span?_of_lt⟩

/-- Three items, the greatest of all indices, and the index of the first item. -/
theorem greatest_index_reaches_beyond_items :
    let items : List Value := [.bool true, .null, .bool false]
    let greatest : UInt64 := 18446744073709551615
    (range greatest 1).apply (.list items) = .list [.bool true, .null] ∧
    (items.length ≤ greatest.toNat ∧ (index greatest).apply (.list items) = .null) ∧
    (items[0]? = some (.bool true) ∧ items.length - 1 - 0 = (2 : UInt64).toNat ∧
      (index 2).apply (.list items) = .bool true) ∧
    (items.length = (2 : UInt64).toNat + 1 ∧ first.apply (.list items) =
      (index 2).apply (.list items)) ∧
    (max (2 : UInt64).toNat (1 : UInt64).toNat < items.length ∧ ∃ picked,
      (pick (indices 2 1)).apply (.list items) = .list picked ∧
      (range 2 1).apply (.list items) = .list picked.reverse) ∧
    (3 : UInt64).toNat = items.length ∧ (Word.position? 3 greatest).map UInt64.toNat =
      position? items.length greatest ∧
    (1 : UInt64) < 3 ∧ 1 ≤ greatest ∧ ∃ i e, Word.span? 3 1 greatest = some (i, e) ∧
      span? items.length (1 : UInt64).toNat greatest.toNat = some (i.toNat, e.toNat) ∧
      i.toNat ≤ e.toNat ∧ e.toNat ≤ items.length := by
  intro items greatest
  obtain ⟨hrange, -, -, hbeyond, -, -, -, -, -, hwords⟩ :=
    indices_count_from_end items greatest 1 greatest []
  obtain ⟨-, -, hitem, -, -, -, hfirst, hpicked, -, -⟩ := indices_count_from_end items 2 1 2 []
  have hlen : (3 : UInt64).toNat = items.length := rfl
  obtain ⟨hposition, hspan⟩ := hwords 3 hlen
  exact ⟨hrange, ⟨by decide, hbeyond (by decide)⟩, ⟨rfl, rfl, hitem 0 _ rfl rfl⟩, ⟨rfl, hfirst rfl⟩,
    ⟨by decide, hpicked (by decide)⟩, hlen, hposition, by decide, by decide,
    hspan 1 greatest (by decide) (by decide)⟩

end FeatureFlow.Specifier
