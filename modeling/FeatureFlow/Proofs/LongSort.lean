import FeatureFlow.Proofs.ShortSort
import FeatureFlow.StableSort.Long

/-! Sorting lists of any length. Each way of sorting keeps all items, and gives a list that rises if
the comparison is an order on them. -/
namespace FeatureFlow.StableSort

variable {α : Type} {less : α → α → Bool} {P : α → Prop}

section Joining

theorem merge_rises (h : Orderly less P) {xs ys : List α} (hx : ∀ x ∈ xs, P x) (hy : ∀ y ∈ ys, P y)
    (hxs : Rises less xs) (hys : Rises less ys) :
    Rises less (xs.merge ys fun x y => !less y x) := by
  induction xs generalizing ys with
  | nil =>
    rw [List.nil_merge]
    exact hys
  | cons x xs ihx =>
    induction ys with
    | nil =>
      rw [List.merge_right]
      exact hxs
    | cons y ys ihy =>
      obtain ⟨hxP, hxt⟩ := List.forall_mem_cons.mp hx
      obtain ⟨hyP, hyt⟩ := List.forall_mem_cons.mp hy
      obtain ⟨hxall, hxrest⟩ := List.pairwise_cons.mp hxs
      obtain ⟨hyall, hyrest⟩ := List.pairwise_cons.mp hys
      rw [List.cons_merge_cons]
      split
      · rename_i hless
        have hyx : less y x = false := by simpa using hless
        refine List.pairwise_cons.mpr ⟨fun u hu => ?_, ihx hxt hy hxrest hys⟩
        rcases List.mem_merge.mp hu with hu | hu
        · exact hxall u hu
        · rcases List.mem_cons.mp hu with rfl | hu
          · exact hyx
          · exact h.trans hxP hyP (hyt u hu) hyx (hyall u hu)
      · rename_i hless
        have hxy : less x y = false := h.asymm hyP hxP (by simpa using hless)
        refine List.pairwise_cons.mpr ⟨fun u hu => ?_, ihy hyt hyrest⟩
        rcases List.mem_merge.mp hu with hu | hu
        · rcases List.mem_cons.mp hu with rfl | hu
          · exact hxy
          · exact h.trans hyP hxP (hxt u hu) hxy (hxall u hu)
        · exact hyall u hu

theorem join_arranges {xs ys : List α} (hP : ∀ x ∈ xs ++ ys, P x)
    (hxs : Orderly less P → Rises less xs) (hys : Orderly less P → Rises less ys) :
    Arranges less P (xs ++ ys) (join less xs ys) := by
  obtain ⟨hx, hy⟩ := List.forall_mem_append.mp hP
  unfold join
  split
  · exact ⟨List.merge_perm_append .., fun h => merge_rises h hx hy (hxs h) (hys h)⟩
  · constructor
    · refine (List.reverse_perm _).trans ((List.merge_perm_append ..).trans ?_)
      exact ((List.reverse_perm ys).append (List.reverse_perm xs)).trans List.perm_append_comm
    · intro h
      refine List.pairwise_reverse.mpr ?_
      exact merge_rises h.flip (by simpa using hy) (by simpa using hx)
        (List.pairwise_reverse.mpr (hys h)) (List.pairwise_reverse.mpr (hxs h))

end Joining

section Stretches

theorem chain_bounds (next : α → α → Bool) (v : α) (items : List α) :
    1 ≤ chain next v items ∧ chain next v items ≤ items.length + 1 := by
  induction items generalizing v with
  | nil => exact ⟨Nat.le_refl 1, Nat.le_refl 1⟩
  | cons w items ih =>
    have hw := ih w
    rw [chain, List.length_cons]
    split <;> omega

theorem chain_pairwise {next : α → α → Bool} {R : α → α → Prop}
    (hnext : ∀ x y, P x → P y → next x y = true → R x y)
    (htrans : ∀ x y z, P x → P y → P z → R x y → R y z → R x z) {v : α} {items : List α}
    (hP : ∀ x ∈ v :: items, P x) : ((v :: items).take (chain next v items)).Pairwise R := by
  induction items generalizing v with
  | nil => exact List.pairwise_singleton R v
  | cons w items ih =>
    obtain ⟨hv, hrest⟩ := List.forall_mem_cons.mp hP
    have hw := hrest w List.mem_cons_self
    have hlater := ih hrest
    rw [chain]
    split
    · rename_i hvw
      have hstep := hnext v w hv hw hvw
      obtain ⟨n, hn⟩ := Nat.exists_eq_add_of_le' (chain_bounds next w items).1
      rw [hn] at hlater ⊢
      rw [List.take_succ_cons] at hlater ⊢
      obtain ⟨hall, -⟩ := List.pairwise_cons.mp hlater
      refine List.pairwise_cons.mpr ⟨?_, by rwa [List.take_succ_cons]⟩
      rw [List.take_succ_cons]
      refine List.forall_mem_cons.mpr ⟨hstep, fun u hu => ?_⟩
      have hu' : P u := hrest u (List.mem_cons_of_mem w (List.mem_of_mem_take hu))
      exact htrans v w u hv hw hu' hstep (hall u hu)
    · exact List.pairwise_singleton R v

theorem ordered_arranges (less : α → α → Bool) {v : α} {items : List α}
    (hP : ∀ x ∈ v :: items, P x) :
    ∃ n, 1 ≤ n ∧ n ≤ items.length + 1 ∧
      Arranges less P ((v :: items).take n) (ordered less v items) := by
  unfold ordered
  cases items with
  | nil => exact ⟨1, Nat.le_refl 1, Nat.le_refl 1, .refl _, fun _ => List.pairwise_singleton _ v⟩
  | cons w rest =>
    let next (x y : α) : Bool := less y x == less w v
    obtain ⟨hone, hmost⟩ := chain_bounds next v (w :: rest)
    refine ⟨chain next v (w :: rest), hone, hmost, ?_⟩
    dsimp only
    split
    · rename_i hwv
      refine ⟨List.reverse_perm _, fun h => List.pairwise_reverse.mpr ?_⟩
      refine chain_pairwise (fun x y hx hy hxy => ?_) (fun x y z hx hy hz hyx hzy => ?_) hP
      · exact h.asymm hy hx (by simpa [next, hwv] using hxy)
      · exact h.trans hz hy hx hzy hyx
    · rename_i hwv
      refine ⟨.refl _, fun h => ?_⟩
      refine chain_pairwise (fun x y hx hy hxy => ?_) (fun x y z hx hy hz hyx hzy => ?_) hP
      · simpa [next, hwv] using hxy
      · exact h.trans hx hy hz hyx hzy

/-- A stretch in front and the stretches of the rest. -/
theorem perm_of_drop {n : Nat} {first : Stretch α} {rest : List (Stretch α)} {v : α}
    {items : List α} (hfirst : first.items.Perm ((v :: items).take (n + 1)))
    (hrest : (rest.flatMap (·.items)).Perm (items.drop n)) :
    ((first :: rest).flatMap (·.items)).Perm (v :: items) := by
  rw [List.flatMap_cons]
  refine (hfirst.append hrest).trans ?_
  rw [← List.drop_succ_cons (a := v), List.take_append_drop]

/-- What the cutting and the merging of stretches needs of them: those that are in order count as
good ones, and the others are made into good ones of the same items. -/
structure Sound (less : α → α → Bool) (P : α → Prop)
    (merge : Stretch α → Stretch α → Option (Stretch α)) (prepare : List α → Option (Stretch α))
    (Good : Stretch α → Prop) : Prop where
  found {xs : List α} : (Orderly less P → Rises less xs) → Good ⟨xs, true⟩
  prepared {xs : List α} : (∀ x ∈ xs, P x) →
    Gives (Orderly less P) (prepare xs) fun s => s.items.Perm xs ∧ Good s
  merged {s t : Stretch α} : (∀ x ∈ s.items ++ t.items, P x) → Good s → Good t →
    Gives (Orderly less P) (merge s t) fun u => u.items.Perm (s.items ++ t.items) ∧ Good u

namespace Sound

variable {merge : Stretch α → Stretch α → Option (Stretch α)}
  {prepare : List α → Option (Stretch α)} {Good : Stretch α → Prop}

theorem cut_gives (h : Sound less P merge prepare Good) {least most : Nat} (items : List α)
    (hP : ∀ x ∈ items, P x) :
    Gives (Orderly less P) (cut less least most prepare items) fun stretches =>
      (stretches.flatMap (·.items)).Perm items ∧ ∀ s ∈ stretches, Good s := by
  cases items with
  | nil =>
    rw [cut]
    exact .of_some ⟨.refl _, fun s hs => absurd hs List.not_mem_nil⟩
  | cons v items =>
    have hlater (n : Nat) : Gives _ (cut less least most prepare (items.drop n)) _ :=
      cut_gives h (items.drop n) fun x hx =>
        hP x (List.mem_cons_of_mem v (List.mem_of_mem_drop hx))
    rw [cut]
    split
    · obtain ⟨n, hone, hmost, hfound⟩ := ordered_arranges less hP
      obtain ⟨k, rfl⟩ := Nat.exists_eq_add_of_le' hone
      have hlength : (ordered less v items).length = k + 1 := by
        rw [hfound.perm.length_eq, List.length_take, List.length_cons, Nat.min_eq_left hmost]
      rw [hlength]
      refine (hlater k).bind fun rest hrest => .of_some ⟨perm_of_drop hfound.perm hrest.1, ?_⟩
      exact List.forall_mem_cons.mpr ⟨h.found hfound.rises, hrest.2⟩
    · have htake : ∀ x ∈ v :: items.take (most - 1), P x := fun x hx =>
        hP x ((List.cons_subset_cons v (List.take_subset _ items)) hx)
      refine (h.prepared htake).bind fun first hfirst => (hlater _).bind fun rest hrest => ?_
      refine .of_some ⟨perm_of_drop hfirst.1 hrest.1, ?_⟩
      exact List.forall_mem_cons.mpr ⟨hfirst.2, hrest.2⟩
termination_by items.length
decreasing_by
  rename_i hcons
  rw [hcons, List.length_drop, List.length_cons]
  omega

theorem collapse_gives (h : Sound less P merge prepare Good) {d : Nat}
    {stack : List (Stretch α × Nat)} {s : Stretch α}
    (hP : ∀ x ∈ stack.flatMap (·.1.items) ++ s.items, P x) (hstack : ∀ e ∈ stack, Good e.1)
    (hs : Good s) :
    Gives (Orderly less P) (collapse merge d stack s) fun left =>
      (left.1.flatMap (·.1.items) ++ left.2.items).Perm (stack.flatMap (·.1.items) ++ s.items) ∧
        (∀ e ∈ left.1, Good e.1) ∧ Good left.2 ∧ (d = 0 → left.1 = []) := by
  induction stack generalizing s with
  | nil => exact .of_some ⟨.refl _, hstack, hs, fun _ => rfl⟩
  | cons e stack ih =>
    obtain ⟨before, depth⟩ := e
    obtain ⟨hbefore, hrest⟩ := List.forall_mem_cons.mp hstack
    rw [collapse]
    split
    · have hpair : ∀ x ∈ before.items ++ s.items, P x := fun x hx => hP x (by
        simp only [List.flatMap_cons, List.mem_append] at hx ⊢
        exact hx.imp_left Or.inl)
      refine (h.merged hpair hbefore hs).bind fun merged hmerged => ?_
      have hperm : (stack.flatMap (·.1.items) ++ merged.items).Perm
          (((before, depth) :: stack).flatMap (·.1.items) ++ s.items) := by
        rw [List.flatMap_cons]
        refine (hmerged.1.append_left _).trans ?_
        rw [← List.append_assoc]
        exact List.perm_append_comm.append_right s.items
      have hP' : ∀ x ∈ stack.flatMap (·.1.items) ++ merged.items, P x := fun x hx =>
        hP x (hperm.mem_iff.mp hx)
      exact (ih hP' hrest hmerged.2).imp fun left hleft => ⟨hleft.1.trans hperm, hleft.2⟩
    · exact .of_some ⟨.refl _, hstack, hs, fun hd => by omega⟩

theorem mergeAll_gives (h : Sound less P merge prepare Good) {length place : Nat}
    {stack : List (Stretch α × Nat)} {s : Stretch α} {rest : List (Stretch α)}
    (hP : ∀ x ∈ stack.flatMap (·.1.items) ++ s.items ++ rest.flatMap (·.items), P x)
    (hstack : ∀ e ∈ stack, Good e.1) (hs : Good s) (hrest : ∀ t ∈ rest, Good t) :
    Gives (Orderly less P) (mergeAll merge length place stack s rest) fun u =>
      u.items.Perm (stack.flatMap (·.1.items) ++ s.items ++ rest.flatMap (·.items)) ∧ Good u := by
  induction rest generalizing place stack s with
  | nil =>
    rw [List.flatMap_nil, List.append_nil] at hP ⊢
    refine (h.collapse_gives hP hstack hs).bind fun left hleft => .of_some ⟨?_, hleft.2.2.1⟩
    have hperm := hleft.1
    rw [hleft.2.2.2 rfl] at hperm
    exact hperm
  | cons next rest ih =>
    obtain ⟨hnext, hrest⟩ := List.forall_mem_cons.mp hrest
    have hP' := (List.forall_mem_append.mp hP).1
    refine (h.collapse_gives hP' hstack hs).bind fun left hleft => ?_
    have hperm (d : Nat) : (((left.2, d) :: left.1).flatMap (·.1.items) ++ next.items ++
        rest.flatMap (·.items)).Perm
        (stack.flatMap (·.1.items) ++ s.items ++ (next :: rest).flatMap (·.items)) := by
      rw [List.flatMap_cons, List.flatMap_cons, List.append_assoc]
      exact (List.perm_append_comm.trans hleft.1).append_right _
    refine (ih (fun x hx => hP x ((hperm _).mem_iff.mp hx)) ?_ hnext hrest).imp fun u hu => ?_
    · exact List.forall_mem_cons.mpr ⟨hleft.2.2.1, hleft.2.1⟩
    · exact ⟨hu.1.trans (hperm _), hu.2⟩

theorem byStretches_gives (h : Sound less P merge prepare Good) {most : Nat} {items : List α}
    (hP : ∀ x ∈ items, P x) :
    Gives (Orderly less P) (byStretches less merge most prepare items) fun s =>
      s.items.Perm items ∧ Good s := by
  refine (h.cut_gives items hP).bind fun stretches hcut => ?_
  obtain ⟨hperm, hgood⟩ := hcut
  cases stretches with
  | nil => exact .of_some ⟨hperm, h.found fun _ => List.Pairwise.nil⟩
  | cons first rest =>
    obtain ⟨hfirst, hrest⟩ := List.forall_mem_cons.mp hgood
    refine Gives.imp (h.mergeAll_gives ?_ ?_ hfirst hrest) fun s hs => ⟨hs.1.trans hperm, hs.2⟩
    · exact fun x hx => hP x (hperm.mem_iff.mp hx)
    · exact fun e he => absurd he List.not_mem_nil

end Sound

theorem eager_gives {items : List α} (hP : ∀ x ∈ items, P x) :
    Gives (Orderly less P) (eager less items) (Arranges less P items) := by
  let Good (s : Stretch α) : Prop := Orderly less P → Rises less s.items
  have hsound : Sound less P (fun s t => some ⟨join less s.items t.items, true⟩)
      (fun xs => do return ⟨← short less xs, true⟩) Good := {
    found := id
    prepared := fun hxs => (short_gives hxs).bind fun sorted hsorted =>
      .of_some ⟨hsorted.perm, hsorted.rises⟩
    merged := fun hst hs ht =>
      have hjoin := join_arranges hst hs ht
      .of_some ⟨hjoin.perm, hjoin.rises⟩ }
  exact (hsound.byStretches_gives hP).bind fun s hs => .of_some ⟨hs.1, hs.2⟩

end Stretches

section Parting

theorem median_eq (less : α → α → Bool) (items : List α) (a b c : Nat) :
    median less items a b c = a ∨ median less items a b c = b ∨ median less items a b c = c := by
  unfold median
  dsimp only
  split
  · split
    · exact .inr (.inr rfl)
    · exact .inr (.inl rfl)
  · exact .inl rfl

theorem pivot_bounds (less : α → α → Bool) (items : List α) (first : Nat) {n : Nat} (hn : 0 < n) :
    first ≤ pivot less items first n ∧ pivot less items first n < first + n := by
  rw [pivot]
  split
  · omega
  · rename_i hlong
    have heighth (i : Nat) := pivot_bounds less (n := n / 8) items (first + i) (by omega)
    have h0 := heighth 0
    have h4 := heighth (4 * (n / 8))
    have h7 := heighth (7 * (n / 8))
    rw [Nat.add_zero] at h0
    rcases median_eq less items (pivot less items first (n / 8))
      (pivot less items (first + 4 * (n / 8)) (n / 8))
      (pivot less items (first + 7 * (n / 8)) (n / 8)) with h | h | h
    · omega
    · omega
    · omega
termination_by n

/-- The items that a pivot puts into one part, and those into the other. -/
theorem parts_perm (f : α → Bool) (before after : List α) (p : α) :
    ((before ++ after).filter f ++
      (before.filter (fun x => !f x) ++ p :: after.filter (fun x => !f x))).Perm
      (before ++ p :: after) := by
  refine (List.perm_middle.append_left _).trans (List.perm_middle.trans ?_)
  refine .trans (.cons p ?_) List.perm_middle.symm
  rw [← List.filter_append]
  exact List.filter_append_perm f (before ++ after)

theorem mem_of_mem_part {f : α → Bool} {before after : List α} {p x : α}
    (hx : x ∈ before.filter (fun x => !f x) ++ p :: after.filter (fun x => !f x)) :
    x ∈ before ++ p :: after ∧ (f p = false → f x = false) := by
  simp only [List.mem_append, List.mem_cons, List.mem_filter, Bool.not_eq_true'] at hx ⊢
  rcases hx with hx | rfl | hx
  · exact ⟨.inl hx.1, fun _ => hx.2⟩
  · exact ⟨.inr (.inl rfl), id⟩
  · exact ⟨.inr (.inr hx.1), fun _ => hx.2⟩

/-- The items less than the pivot come before the others. -/
theorem below_arranges {before after low high : List α} {p : α}
    (hP : ∀ x ∈ before ++ p :: after, P x)
    (hlow : Arranges less P ((before ++ after).filter (less · p)) low)
    (hhigh : Arranges less P
      (before.filter (fun x => !less x p) ++ p :: after.filter (fun x => !less x p)) high) :
    Arranges less P (before ++ p :: after) (low ++ high) := by
  refine ⟨(hlow.perm.append hhigh.perm).trans (parts_perm (less · p) before after p), fun h => ?_⟩
  refine List.pairwise_append.mpr ⟨hlow.rises h, hhigh.rises h, fun x hx y hy => ?_⟩
  have hp : P p := hP p (by simp)
  obtain ⟨hx, hxp⟩ := List.mem_filter.mp (hlow.perm.mem_iff.mp hx)
  obtain ⟨hy, hyp⟩ := mem_of_mem_part (hhigh.perm.mem_iff.mp hy)
  have hx : P x := hP x (List.perm_middle.mem_iff.mpr (List.mem_cons_of_mem p hx))
  exact h.asymm hx (hP y hy) (h.less_of_less hp hx (hP y hy) hxp (hyp (h.irrefl hp)))

/-- Where no item is less than the pivot, those equal to it come before the others. -/
theorem equal_arranges {before after high : List α} {p : α}
    (hP : ∀ x ∈ before ++ p :: after, P x)
    (hleast : Orderly less P → ∀ x ∈ before ++ p :: after, less x p = false)
    (hhigh : Arranges less P ((before ++ after).filter (less p ·)) high) :
    Arranges less P (before ++ p :: after)
      (before.filter (fun x => !less p x) ++ p :: after.filter (fun x => !less p x) ++ high) := by
  have hperm := ((List.perm_append_comm).trans (hhigh.perm.append_right _)).trans
    (parts_perm (less p ·) before after p)
  refine ⟨hperm, fun h => ?_⟩
  have hp : P p := hP p (by simp)
  have hfirst : ∀ x ∈ before.filter (fun x => !less p x) ++ p :: after.filter (fun x => !less p x),
      ∀ y ∈ before ++ p :: after, less y x = false := by
    intro x hx y hy
    obtain ⟨hx, hpx⟩ := mem_of_mem_part hx
    exact h.trans (hP x hx) hp (hP y hy) (hpx (h.irrefl hp)) (hleast h y hy)
  refine List.pairwise_append.mpr ⟨?_, hhigh.rises h, fun x hx y hy => ?_⟩
  · exact List.pairwise_of_forall_mem_list fun x hx y hy => hfirst x hx y (mem_of_mem_part hy).1
  · exact hfirst x hx y (hperm.mem_iff.mp (List.mem_append_right _ hy))

/-- Nothing is less than the floor, if there is one. -/
def Above (less : α → α → Bool) (P : α → Prop) (floor : Option α) (items : List α) : Prop :=
  ∀ f ∈ floor, P f ∧ (Orderly less P → ∀ x ∈ items, less x f = false)

theorem Above.none (items : List α) : Above less P none items := by
  intro f hf
  cases hf

theorem Above.subset {floor : Option α} {items items' : List α} (h : Above less P floor items)
    (hsub : items' ⊆ items) : Above less P floor items' :=
  fun f hf => ⟨(h f hf).1, fun ho x hx => (h f hf).2 ho x (hsub hx)⟩

/-- When the first part are the items equal to the pivot, there is none less than it. -/
theorem Above.least {floor : Option α} {before after : List α} {p : α}
    (h : Above less P floor (before ++ p :: after)) (hP : ∀ x ∈ before ++ p :: after, P x)
    (hequal : (floor.any (fun x => !less x p) ||
      ((before ++ after).filter (less · p)).isEmpty) = true)
    (ho : Orderly less P) : ∀ x ∈ before ++ p :: after, less x p = false := by
  intro x hx
  have hp : P p := hP p (by simp)
  rcases Bool.or_eq_true_iff.mp hequal with hfloor | hlow
  · cases floor with
    | none => cases hfloor
    | some f =>
      obtain ⟨hf, hleast⟩ := h f rfl
      exact ho.trans hp hf (hP x hx) (by simpa using hfloor) (hleast ho x hx)
  · rcases List.mem_cons.mp (List.perm_middle.mem_iff.mp hx) with rfl | hx
    · exact ho.irrefl hp
    · exact Bool.of_not_eq_true (List.filter_eq_nil_iff.mp (List.isEmpty_iff.mp hlow) x hx)

theorem quick_gives {limit : Nat} {floor : Option α} {items : List α} (hP : ∀ x ∈ items, P x)
    (hfloor : Above less P floor items) :
    Gives (Orderly less P) (quick less limit floor items) (Arranges less P items) := by
  induction limit generalizing floor items with
  | zero =>
    unfold quick
    split
    · exact short_gives hP
    · exact eager_gives hP
  | succ limit ih =>
    unfold quick
    split
    · exact short_gives hP
    · rename_i hlong
      have hplace := (pivot_bounds less items 0 (n := items.length) (by omega)).2
      dsimp only
      generalize pivot less items 0 items.length = place at hplace ⊢
      cases hdrop : items.drop place with
      | nil =>
        have := List.drop_eq_nil_iff.mp hdrop
        omega
      | cons p after =>
        have hitems : items = items.take place ++ p :: after := by
          rw [← hdrop, List.take_append_drop]
        generalize items.take place = before at hitems ⊢
        subst hitems
        have hothers (f : α → Bool) : (before ++ after).filter f ⊆ before ++ p :: after :=
          fun x hx =>
          List.perm_middle.mem_iff.mpr (List.mem_cons_of_mem p (List.mem_filter.mp hx).1)
        dsimp only
        split
        · rename_i hequal
          refine Gives.bind (ih (fun x hx => hP x (hothers _ hx)) (.none _)) fun high hhigh => ?_
          exact .of_some (equal_arranges hP (hfloor.least hP hequal) hhigh)
        · refine Gives.bind (ih (fun x hx => hP x (mem_of_mem_part hx).1) ?_) fun high hhigh => ?_
          · rintro f ⟨⟩
            have hp := hP p (by simp)
            exact ⟨hp, fun h x hx => (mem_of_mem_part hx).2 (h.irrefl hp)⟩
          · refine Gives.bind (ih (fun x hx => hP x (hothers _ hx)) (hfloor.subset (hothers _)))
              fun low hlow => ?_
            exact .of_some (below_arranges hP hlow hhigh)

/-- With an order, a stretch that counts as sorted is sorted. -/
def Reliable (less : α → α → Bool) (P : α → Prop) (s : Stretch α) : Prop :=
  Orderly less P → s.sorted = true → Rises less s.items

theorem reliable_unsorted (items : List α) : Reliable less P ⟨items, false⟩ := by
  intro _ hsorted
  cases hsorted

theorem toSorted_gives {s : Stretch α} (hP : ∀ x ∈ s.items, P x) (hs : Reliable less P s) :
    Gives (Orderly less P) (s.toSorted less) (Arranges less P s.items) := by
  unfold Stretch.toSorted
  split
  · rename_i hsorted
    exact .of_some ⟨.refl _, fun h => hs h hsorted⟩
  · exact quick_gives hP (.none _)

theorem lazily_gives {room : Nat} {s t : Stretch α} (hP : ∀ x ∈ s.items ++ t.items, P x)
    (hs : Reliable less P s) (ht : Reliable less P t) :
    Gives (Orderly less P) (lazily less room s t) fun u =>
      u.items.Perm (s.items ++ t.items) ∧ Reliable less P u := by
  obtain ⟨hsP, htP⟩ := List.forall_mem_append.mp hP
  unfold lazily
  split
  · refine (toSorted_gives hsP hs).bind fun xs hxs => (toSorted_gives htP ht).bind fun ys hys => ?_
    have hperm := hxs.perm.append hys.perm
    have hjoin := join_arranges (fun x hx => hP x (hperm.mem_iff.mp hx)) hxs.rises hys.rises
    exact .of_some ⟨hjoin.perm.trans hperm, fun h _ => hjoin.rises h⟩
  · exact .of_some ⟨.refl _, reliable_unsorted _⟩

end Parting

/-- Whatever comes out of sorting are the items, in order if the comparison orders them. Something
does come out then, and also if the items are few. -/
theorem sort_gives (less : α → α → Bool) {items : List α} (hP : ∀ x ∈ items, P x) :
    Gives (Orderly less P ∨ items.length ≤ 20) (sort less items) (Arranges less P items) := by
  unfold sort
  split
  · exact .of_some (insertAll_arranges hP fun _ => List.Pairwise.nil)
  · rename_i hlong
    suffices h : Gives (Orderly less P) _ (Arranges less P items) from
      h.of_imp fun hsure => hsure.resolve_right hlong
    split
    · exact eager_gives hP
    · have hsound : Sound less P (lazily less (room items.length)) (fun xs => some ⟨xs, false⟩)
          (Reliable less P) := {
        found := fun hrises h _ => hrises h
        prepared := fun _ => .of_some ⟨.refl _, reliable_unsorted _⟩
        merged := lazily_gives }
      refine (hsound.byStretches_gives hP).bind fun s hs => ?_
      have hsP : ∀ x ∈ s.items, P x := fun x hx => hP x (hs.1.mem_iff.mp hx)
      exact (toSorted_gives hsP hs.2).imp fun sorted hsorted => hsorted.of_perm hs.1

end FeatureFlow.StableSort
