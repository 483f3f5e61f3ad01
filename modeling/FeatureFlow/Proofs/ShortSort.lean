import FeatureFlow.StableSort.Short

/-! Sorting short lists. Whatever the comparison says, what comes out is a permutation of the list.
If it is an order on the items, something comes out and it rises: two halves are then merged from
both ends without an overlap, since both ends follow one and the same merge. -/
namespace FeatureFlow.StableSort

variable {α β γ : Type} {less : α → α → Bool} {P : α → Prop}

/-- Among the items of `P`, not to be less is a total order but for equal items. -/
structure Orderly (less : α → α → Bool) (P : α → Prop) : Prop where
  asymm {x y : α} : P x → P y → less x y = true → less y x = false
  trans {x y z : α} : P x → P y → P z → less y x = false → less z y = false → less z x = false

namespace Orderly

theorem flip (h : Orderly less P) : Orderly (fun x y => less y x) P where
  asymm hx hy := h.asymm hy hx
  trans hx hy hz hyx hzy := h.trans hz hy hx hzy hyx

theorem irrefl (h : Orderly less P) {x : α} (hx : P x) : less x x = false := by
  cases hself : less x x with
  | false => rfl
  | true => rw [← hself, h.asymm hx hx hself]

/-- What is less than an item is less than all that are not less than that one. -/
theorem less_of_less (h : Orderly less P) {x y z : α} (hx : P x) (hy : P y) (hz : P z)
    (hyx : less y x = true) (hzx : less z x = false) : less y z = true := by
  cases hyz : less y z with
  | true => rfl
  | false => rw [← hyx, h.trans hx hz hy hzx hyz]

end Orderly

/-- No item is less than one before it. -/
def Rises (less : α → α → Bool) (items : List α) : Prop :=
  items.Pairwise fun x y => less y x = false

/-- The second list has the items of the first one, and rises if the comparison is an order. -/
structure Arranges (less : α → α → Bool) (P : α → Prop) (items arranged : List α) : Prop where
  perm : arranged.Perm items
  rises : Orderly less P → Rises less arranged

/-- What comes out is as it has to be, and under a condition something comes out. -/
structure Gives (sure : Prop) (result : Option β) (Q : β → Prop) : Prop where
  right : ∀ b, result = some b → Q b
  some : sure → ∃ b, result = some b

namespace Gives

variable {sure : Prop} {result : Option β} {Q : β → Prop} {R : γ → Prop}

theorem of_some {b : β} (h : Q b) : Gives sure (.some b) Q where
  right c hc := by
    cases hc
    exact h
  some _ := ⟨b, rfl⟩

theorem bind {next : β → Option γ} (h : Gives sure result Q)
    (hnext : ∀ b, Q b → Gives sure (next b) R) : Gives sure (result >>= next) R where
  right c hc := by
    obtain ⟨b, hb, hc⟩ := Option.bind_eq_some_iff.mp hc
    exact (hnext b (h.right b hb)).right c hc
  some hsure := by
    obtain ⟨b, hb⟩ := h.some hsure
    obtain ⟨c, hc⟩ := (hnext b (h.right b hb)).some hsure
    exact ⟨c, Option.bind_eq_some_iff.mpr ⟨b, hb, hc⟩⟩

theorem imp {S : β → Prop} (h : Gives sure result Q) (himp : ∀ b, Q b → S b) :
    Gives sure result S :=
  ⟨fun b hb => himp b (h.right b hb), h.some⟩

theorem of_imp {surer : Prop} (h : Gives sure result Q) (himp : surer → sure) :
    Gives surer result Q :=
  ⟨h.right, fun hsurer => h.some (himp hsurer)⟩

end Gives

section Insertion

theorem settle_perm (less : α → α → Bool) (v : α) (kept : List α) :
    (settle less v kept).Perm (v :: kept) := by
  induction kept with
  | nil => exact .refl _
  | cons w kept ih =>
    rw [settle]
    split
    · exact (ih.cons w).trans (.swap v w kept)
    · exact .refl _

/-- Items that fall do so still when another one has settled among them. -/
theorem settle_falls (h : Orderly less P) {v : α} {kept : List α} (hv : P v)
    (hP : ∀ w ∈ kept, P w) (hfalls : kept.Pairwise fun x y => less x y = false) :
    (settle less v kept).Pairwise fun x y => less x y = false := by
  induction kept with
  | nil => exact List.pairwise_singleton _ v
  | cons w kept ih =>
    obtain ⟨hw, hkept⟩ := List.forall_mem_cons.mp hP
    obtain ⟨hall, hrest⟩ := List.pairwise_cons.mp hfalls
    rw [settle]
    split
    · rename_i hless
      refine List.pairwise_cons.mpr ⟨fun u hu => ?_, ih hkept hrest⟩
      rcases List.mem_cons.mp ((settle_perm less v kept).mem_iff.mp hu) with rfl | hu
      · exact h.asymm hv hw hless
      · exact hall u hu
    · rename_i hless
      have hvw : less v w = false := Bool.of_not_eq_true hless
      refine List.pairwise_cons.mpr ⟨fun u hu => ?_, hfalls⟩
      rcases List.mem_cons.mp hu with rfl | hu
      · exact hvw
      · exact h.trans (hkept u hu) hw hv (hall u hu) hvw

theorem foldl_settle_perm (less : α → α → Bool) (items kept : List α) :
    (items.foldl (fun kept v => settle less v kept) kept).Perm (items ++ kept) := by
  induction items generalizing kept with
  | nil => exact .refl _
  | cons v items ih =>
    rw [List.foldl_cons]
    exact (ih _).trans (((settle_perm less v kept).append_left items).trans List.perm_middle)

theorem foldl_settle_falls (h : Orderly less P) {items kept : List α} (hitems : ∀ v ∈ items, P v)
    (hP : ∀ w ∈ kept, P w) (hfalls : kept.Pairwise fun x y => less x y = false) :
    (items.foldl (fun kept v => settle less v kept) kept).Pairwise fun x y => less x y = false := by
  induction items generalizing kept with
  | nil => exact hfalls
  | cons v items ih =>
    obtain ⟨hv, hrest⟩ := List.forall_mem_cons.mp hitems
    rw [List.foldl_cons]
    refine ih hrest (fun w hw => ?_) (settle_falls h hv hP hfalls)
    rcases List.mem_cons.mp ((settle_perm less v kept).mem_iff.mp hw) with rfl | hw
    · exact hv
    · exact hP w hw

theorem insertAll_arranges {kept items : List α} (hP : ∀ x ∈ kept ++ items, P x)
    (hkept : Orderly less P → Rises less kept) :
    Arranges less P (kept ++ items) (insertAll less kept items) where
  perm := by
    refine (List.reverse_perm _).trans ((foldl_settle_perm less items kept.reverse).trans ?_)
    exact ((List.reverse_perm kept).append_left items).trans List.perm_append_comm
  rises h := by
    obtain ⟨hk, hi⟩ := List.forall_mem_append.mp hP
    rw [insertAll, Rises, List.pairwise_reverse]
    exact foldl_settle_falls h hi (fun w hw => hk w (List.mem_reverse.mp hw))
      (List.pairwise_reverse.mpr (hkept h))

end Insertion

section Halves

theorem Arranges.of_perm {items items' arranged : List α} (h : Arranges less P items arranged)
    (hperm : items.Perm items') : Arranges less P items' arranged :=
  ⟨h.perm.trans hperm, h.rises⟩

theorem pair_arranges {x y : α} (hx : P x) (hy : P y) :
    Arranges less P [x, y] [(pair less x y).1, (pair less x y).2] := by
  unfold pair
  split
  · rename_i hless
    exact ⟨.swap x y [], fun h => by simpa [Rises] using h.asymm hy hx hless⟩
  · rename_i hless
    exact ⟨.refl _, fun _ => by simpa [Rises] using hless⟩

/-- Two items are put in order between the least and the greatest. -/
theorem between_arranges {low x y high : α} (hlow : P low) (hx : P x) (hy : P y) (hhigh : P high)
    (hbounds : Orderly less P → (less x low = false ∧ less y low = false) ∧
      less high x = false ∧ less high y = false) :
    Arranges less P [low, x, y, high]
      (low :: [(pair less x y).1, (pair less x y).2] ++ [high]) := by
  have hpair : Arranges less P [x, y] _ := pair_arranges hx hy
  refine ⟨(hpair.perm.append_right [high]).cons low, fun h => ?_⟩
  obtain ⟨⟨hxl, hyl⟩, hhx, hhy⟩ := hbounds h
  have hhl : less high low = false := h.trans hlow hx hhigh hxl hhx
  have hmid : ∀ u ∈ [(pair less x y).1, (pair less x y).2],
      less u low = false ∧ less high u = false := by
    intro u hu
    obtain rfl | rfl : u = x ∨ u = y := by simpa using hpair.perm.mem_iff.mp hu
    · exact ⟨hxl, hhx⟩
    · exact ⟨hyl, hhy⟩
  refine List.pairwise_append.mpr ⟨?_, List.pairwise_singleton _ high, ?_⟩
  · exact List.pairwise_cons.mpr ⟨fun u hu => (hmid u hu).1, hpair.rises h⟩
  · refine List.forall_mem_cons.mpr ⟨by simpa using hhl, fun u hu => ?_⟩
    simpa using (hmid u hu).2

theorem four_arranges {w x y z : α} (hP : ∀ v ∈ [w, x, y, z], P v) :
    Arranges less P [w, x, y, z] (four less w x y z) := by
  have hab : Arranges less P [w, x] _ := pair_arranges (hP w (by simp)) (hP x (by simp))
  have hcd : Arranges less P [y, z] _ := pair_arranges (hP y (by simp)) (hP z (by simp))
  unfold four
  generalize pair less w x = first at hab ⊢
  generalize pair less y z = second at hcd ⊢
  obtain ⟨a, b⟩ := first
  obtain ⟨c, d⟩ := second
  have hperm : [a, b, c, d].Perm [w, x, y, z] := hab.perm.append hcd.perm
  obtain ⟨ha, hb, hc, hd⟩ : P a ∧ P b ∧ P c ∧ P d := by
    have hall : ∀ v ∈ [a, b, c, d], P v := fun v hv => hP v (hperm.mem_iff.mp hv)
    simpa using hall
  have hba (h : Orderly less P) : less b a = false := by simpa [Rises] using hab.rises h
  have hdc (h : Orderly less P) : less d c = false := by simpa [Rises] using hcd.rises h
  dsimp only
  cases hca : less c a <;> cases hdb : less d b
  · exact (between_arranges ha hb hc hd fun h => ⟨⟨hba h, hca⟩, hdb, hdc h⟩).of_perm hperm
  · refine (between_arranges ha hc hd hb fun h => ?_).of_perm (.trans ?_ hperm)
    · have hbd := h.asymm hd hb hdb
      exact ⟨⟨hca, h.trans ha hc hd hca (hdc h)⟩, h.trans hc hd hb (hdc h) hbd, hbd⟩
    · exact .cons a (.trans (.cons c (.swap b d [])) (.swap b c [d]))
  · refine (between_arranges hc ha hb hd fun h => ?_).of_perm (.trans ?_ hperm)
    · have hac := h.asymm hc ha hca
      exact ⟨⟨hac, h.trans hc ha hb hac (hba h)⟩, h.trans ha hb hd (hba h) hdb, hdb⟩
    · exact .trans (.swap a c [b, d]) (.cons a (.swap b c [d]))
  · refine (between_arranges hc ha hd hb fun h => ?_).of_perm (.trans ?_ hperm)
    · exact ⟨⟨h.asymm hc ha hca, hdc h⟩, hba h, h.asymm hd hb hdb⟩
    · exact .trans (.swap a c [d, b]) (.cons a (.trans (.cons c (.swap b d [])) (.swap b c [d])))

theorem half_arranges (fours : Bool) {items : List α} (hP : ∀ x ∈ items, P x) :
    Arranges less P items (half less fours items) := by
  unfold half
  split
  · rename_i w x y z rest
    have hfour : Arranges less P [w, x, y, z] _ :=
      four_arranges fun v hv => hP v (List.mem_append_left rest hv)
    refine (insertAll_arranges (fun v hv => hP v ?_) hfour.rises).of_perm
      (hfour.perm.append_right rest)
    exact (hfour.perm.append_right rest).mem_iff.mp hv
  · exact insertAll_arranges hP fun _ => .nil

end Halves

section Ends

/-- From the fronts `as` and `bs` of two lists items were `taken`, and `xs` and `ys` are left. -/
structure Parted (less : α → α → Bool) (P : α → Prop) (as xs bs ys taken : List α) : Prop where
  perm : taken.Perm (as ++ bs)
  rises : Orderly less P → Rises less taken
  before : Orderly less P → ∀ t ∈ taken, ∀ u ∈ xs ++ ys, less u t = false
  /-- An item of the second list was taken only for being less than what is left of the first. -/
  apart : Orderly less P → ∀ y ∈ bs, ∀ x ∈ xs, less y x = true

theorem Parted.mem_of_taken {as xs bs ys taken : List α} {u : α}
    (h : Parted less P as xs bs ys taken) (hu : u ∈ taken) : u ∈ (as ++ xs) ++ (bs ++ ys) := by
  rcases List.mem_append.mp (h.perm.mem_iff.mp hu) with hu | hu
  · exact List.mem_append_left _ (List.mem_append_left xs hu)
  · exact List.mem_append_right _ (List.mem_append_left ys hu)

theorem mem_of_left {as xs bs ys : List α} {u : α} (hu : u ∈ xs ++ ys) :
    u ∈ (as ++ xs) ++ (bs ++ ys) := by
  rcases List.mem_append.mp hu with hu | hu
  · exact List.mem_append_left _ (List.mem_append_right as hu)
  · exact List.mem_append_right _ (List.mem_append_right bs hu)

/-- The least item comes before what is taken later. -/
theorem Parted.take_left {as xs bs ys taken : List α} {x : α}
    (h : Parted less P as xs bs ys taken)
    (hleast : Orderly less P → ∀ u ∈ (as ++ xs) ++ (bs ++ ys), less u x = false) :
    Parted less P (x :: as) xs bs ys (x :: taken) where
  perm := h.perm.cons x
  rises ho := List.pairwise_cons.mpr ⟨fun u hu => hleast ho u (h.mem_of_taken hu), h.rises ho⟩
  before ho := List.forall_mem_cons.mpr ⟨fun u hu => hleast ho u (mem_of_left hu), h.before ho⟩
  apart := h.apart

theorem Parted.take_right {as xs bs ys taken : List α} {y : α}
    (h : Parted less P as xs bs ys taken)
    (hleast : Orderly less P → ∀ u ∈ (as ++ xs) ++ (bs ++ ys), less u y = false)
    (hless : Orderly less P → ∀ x ∈ xs, less y x = true) :
    Parted less P as xs (y :: bs) ys (y :: taken) where
  perm := (h.perm.cons y).trans List.perm_middle.symm
  rises ho := List.pairwise_cons.mpr ⟨fun u hu => hleast ho u (h.mem_of_taken hu), h.rises ho⟩
  before ho := List.forall_mem_cons.mpr ⟨fun u hu => hleast ho u (mem_of_left hu), h.before ho⟩
  apart ho := List.forall_mem_cons.mpr ⟨hless ho, h.apart ho⟩

theorem front_parted {n : Nat} {xs ys : List α} (hx : ∀ x ∈ xs, P x) (hy : ∀ y ∈ ys, P y)
    (hxs : Orderly less P → Rises less xs) (hys : Orderly less P → Rises less ys) :
    ∃ as bs, xs = as ++ (front less n xs ys).2.1 ∧ ys = bs ++ (front less n xs ys).2.2 ∧
      Parted less P as (front less n xs ys).2.1 bs (front less n xs ys).2.2 (front less n xs ys).1 ∧
      (n ≤ xs.length → n ≤ ys.length → (front less n xs ys).1.length = n) := by
  fun_induction front less n xs ys with
  | case1 n x xs y ys hless taken left hfront ih =>
    obtain ⟨hyP, hyt⟩ := List.forall_mem_cons.mp hy
    have hxP := hx x List.mem_cons_self
    rw [hfront] at ih
    obtain ⟨as, bs, hleft, hright, hparted, hlength⟩ :=
      ih hx hyt hxs fun ho => (List.pairwise_cons.mp (hys ho)).2
    have hxall (ho : Orderly less P) : ∀ u ∈ x :: xs, less u x = false :=
      List.forall_mem_cons.mpr ⟨ho.irrefl hxP, (List.pairwise_cons.mp (hxs ho)).1⟩
    refine ⟨as, y :: bs, hleft, congrArg (y :: ·) hright, hparted.take_right ?_ ?_, ?_⟩
    · intro ho u hu
      rw [← hleft, ← hright] at hu
      rcases List.mem_append.mp hu with hu | hu
      · exact ho.trans hyP hxP (hx u hu) (ho.asymm hyP hxP hless) (hxall ho u hu)
      · exact (List.pairwise_cons.mp (hys ho)).1 u hu
    · intro ho u hu
      have hmem : u ∈ x :: xs := hleft ▸ List.mem_append_right as hu
      exact ho.less_of_less hxP hyP (hx u hmem) hless (hxall ho u hmem)
    · intro hn hn'
      rw [List.length_cons, hlength (Nat.le_of_succ_le hn) (Nat.le_of_succ_le_succ hn')]
  | case2 n x xs y ys hless taken left hfront ih =>
    obtain ⟨hxP, hxt⟩ := List.forall_mem_cons.mp hx
    have hyP := hy y List.mem_cons_self
    rw [hfront] at ih
    obtain ⟨as, bs, hleft, hright, hparted, hlength⟩ :=
      ih hxt hy (fun ho => (List.pairwise_cons.mp (hxs ho)).2) hys
    have hyall (ho : Orderly less P) : ∀ u ∈ y :: ys, less u y = false :=
      List.forall_mem_cons.mpr ⟨ho.irrefl hyP, (List.pairwise_cons.mp (hys ho)).1⟩
    refine ⟨x :: as, bs, congrArg (x :: ·) hleft, hright, hparted.take_left ?_, ?_⟩
    · intro ho u hu
      rw [← hleft, ← hright] at hu
      rcases List.mem_append.mp hu with hu | hu
      · exact (List.pairwise_cons.mp (hxs ho)).1 u hu
      · exact ho.trans hxP hyP (hy u hu) (Bool.of_not_eq_true hless) (hyall ho u hu)
    · intro hn hn'
      rw [List.length_cons, hlength (Nat.le_of_succ_le_succ hn) (Nat.le_of_succ_le hn')]
  | case3 n xs ys hend =>
    refine ⟨[], [], rfl, rfl, ⟨.refl _, fun _ => .nil, by simp, by simp⟩, ?_⟩
    intro hn hn'
    match n, xs, ys with
    | 0, _, _ => rfl
    | n + 1, x :: xs, y :: ys => exact (hend n x xs y ys rfl rfl rfl).elim

/-- Merging the ends is merging the fronts of the lists turned around, with the comparison turned
around too. -/
theorem back_eq_front (n : Nat) (xs ys : List α) :
    back less n xs ys = ((front (fun x y => less y x) n ys xs).1,
      (front (fun x y => less y x) n ys xs).2.2, (front (fun x y => less y x) n ys xs).2.1) := by
  fun_induction back less n xs ys with
  | case1 n x xs y ys hless taken left hback ih =>
    rw [hback] at ih
    rw [front, if_pos hless]
    generalize front (fun x y => less y x) n (y :: ys) xs = parts at ih ⊢
    cases ih
    rfl
  | case2 n x xs y ys hless taken left hback ih =>
    rw [hback] at ih
    rw [front, if_neg hless]
    generalize front (fun x y => less y x) n ys (x :: xs) = parts at ih ⊢
    cases ih
    rfl
  | case3 n xs ys hend =>
    match n, xs, ys with
    | 0, _, _ => rfl
    | _ + 1, [], [] => rfl
    | _ + 1, [], _ :: _ => rfl
    | _ + 1, _ :: _, [] => rfl
    | n + 1, x :: xs, y :: ys => exact (hend n x xs y ys rfl rfl rfl).elim

/-- From the ends `cs` and `ds` of two lists items were `taken`, and `xs` and `ys` are left, all of
these with the last item first. -/
structure Ended (less : α → α → Bool) (P : α → Prop) (xs cs ys ds taken : List α) : Prop where
  perm : taken.Perm (cs ++ ds)
  rises : Orderly less P → Rises less taken.reverse
  after : Orderly less P → ∀ t ∈ taken, ∀ u ∈ xs ++ ys, less t u = false
  /-- An item of the first list was taken only if what is left of the second is less. -/
  apart : Orderly less P → ∀ x ∈ cs, ∀ y ∈ ys, less y x = true

theorem back_ended {n : Nat} {xs ys : List α} (hx : ∀ x ∈ xs, P x) (hy : ∀ y ∈ ys, P y)
    (hxs : Orderly less P → Rises less xs) (hys : Orderly less P → Rises less ys) :
    ∃ cs ds, let left := back less n xs.reverse ys.reverse
      xs = left.2.1.reverse ++ cs ∧ ys = left.2.2.reverse ++ ds ∧
      Ended less P left.2.1 cs left.2.2 ds left.1 ∧
      (n ≤ xs.length → n ≤ ys.length → left.1.length = n) := by
  have hfalls {zs : List α} (hzs : Orderly less P → Rises less zs)
      (ho : Orderly (fun x y => less y x) P) : Rises (fun x y => less y x) zs.reverse :=
    List.pairwise_reverse.mpr (hzs ho.flip)
  obtain ⟨ds, cs, hright, hleft, hparted, hlength⟩ := @front_parted α (fun x y => less y x) P n
    ys.reverse xs.reverse (by simpa using hy) (by simpa using hx) (hfalls hys) (hfalls hxs)
  rw [back_eq_front]
  generalize front (fun x y => less y x) n ys.reverse xs.reverse = parts at *
  obtain ⟨taken, ys', xs'⟩ := parts
  refine ⟨cs.reverse, ds.reverse, ?_, ?_, ⟨?_, ?_, ?_, ?_⟩, ?_⟩
  · rw [← List.reverse_append, ← hleft, List.reverse_reverse]
  · rw [← List.reverse_append, ← hright, List.reverse_reverse]
  · have hturned := (List.reverse_perm cs).append (List.reverse_perm ds)
    exact hparted.perm.trans (List.perm_append_comm.trans hturned.symm)
  · exact fun ho => List.pairwise_reverse.mpr (hparted.rises ho.flip)
  · intro ho t ht u hu
    exact hparted.before ho.flip t ht u (List.mem_append.mpr (List.mem_append.mp hu).symm)
  · intro ho x hx
    exact hparted.apart ho.flip x (List.mem_reverse.mp hx)
  · intro hn hn'
    exact hlength (by simpa using hn') (by simpa using hn)

/-- If one front of a list is longer than another one, it reaches into what comes after that. -/
theorem exists_mem_of_longer {as xs ps cs : List α} (h : as ++ xs = ps ++ cs)
    (hlonger : ps.length < as.length) : ∃ x ∈ as, x ∈ cs := by
  rcases List.append_eq_append_iff.mp h with ⟨mid, rfl, -⟩ | ⟨mid, rfl, hcs⟩
  · rw [List.length_append] at hlonger
    omega
  · cases mid with
    | nil => simp at hlonger
    | cons x mid => exact ⟨x, by simp, by simp [hcs]⟩

section Meeting

variable {as xs₁ bs ys₁ low cs xs₂ ds ys₂ high : List α}

/-- With an order the ends do not overlap. An item taken from the front of one list and from the end
of it too would have to be less, and not less, than one of the other list. -/
theorem Parted.apart_of_ended (hfront : Parted less P as xs₁ bs ys₁ low)
    (hback : Ended less P xs₂ cs ys₂ ds high) (ho : Orderly less P)
    (hfirst : as ++ xs₁ = xs₂.reverse ++ cs) (hsecond : bs ++ ys₁ = ys₂.reverse ++ ds)
    (hroom : as.length + bs.length ≤ xs₂.length + ys₂.length) :
    as.length ≤ xs₂.length ∧ bs.length ≤ ys₂.length := by
  have hxs₂ : xs₂.reverse.length = xs₂.length := List.length_reverse
  have hys₂ : ys₂.reverse.length = ys₂.length := List.length_reverse
  rw [← hxs₂, ← hys₂] at hroom ⊢
  constructor
  · refine Nat.le_of_not_lt fun hover => ?_
    obtain ⟨x, hxa, hxc⟩ := exists_mem_of_longer hfirst hover
    obtain ⟨y, hyq, hyr⟩ := exists_mem_of_longer hsecond.symm (by omega)
    have hfalse := hfront.before ho x (hfront.perm.mem_iff.mpr (List.mem_append_left bs hxa)) y
      (List.mem_append_right xs₁ hyr)
    rw [hback.apart ho x hxc y (List.mem_reverse.mp hyq)] at hfalse
    cases hfalse
  · refine Nat.le_of_not_lt fun hover => ?_
    obtain ⟨y, hyb, hyd⟩ := exists_mem_of_longer hsecond hover
    obtain ⟨x, hxp, hxr⟩ := exists_mem_of_longer hfirst.symm (by omega)
    have hfalse := hback.after ho y (hback.perm.mem_iff.mpr (List.mem_append_right cs hyd)) x
      (List.mem_append_left ys₂ (List.mem_reverse.mp hxp))
    rw [hfront.apart ho y hyb x hxr] at hfalse
    cases hfalse

/-- What lies between a front and an end that do not overlap. -/
theorem exists_between (h : as ++ xs₁ = xs₂.reverse ++ cs) (hapart : as.length ≤ xs₂.length) :
    ∃ mid, xs₁.take (xs₁.length + xs₂.length - (as ++ xs₁).length) = mid ∧ xs₁ = mid ++ cs ∧
      xs₂.reverse = as ++ mid := by
  rcases List.append_eq_append_iff.mp h with ⟨mid, hps, rfl⟩ | ⟨mid, rfl, rfl⟩
  · refine ⟨mid, ?_, rfl, hps⟩
    have hlength := congrArg List.length hps
    simp only [List.length_reverse, List.length_append] at hlength ⊢
    rw [List.take_append_of_le_length (by omega), List.take_of_length_le (by omega)]
  · obtain rfl : mid = [] := by
      simp only [List.length_append, List.length_reverse] at hapart
      exact List.length_eq_zero_iff.mp (by omega)
    refine ⟨[], ?_, rfl, by simp⟩
    simp [Nat.add_comm]

/-- Both ends with at most one item between them. -/
theorem Parted.arranges_with_ended {mid mid' : List α}
    (hfront : Parted less P as (mid ++ cs) bs (mid' ++ ds) low)
    (hback : Ended less P xs₂ cs ys₂ ds high) (hmid : ∀ u ∈ mid, u ∈ xs₂)
    (hmid' : ∀ u ∈ mid', u ∈ ys₂) (hone : (mid ++ mid').length ≤ 1) :
    Arranges less P ((as ++ (mid ++ cs)) ++ (bs ++ (mid' ++ ds)))
      (low ++ mid ++ mid' ++ high.reverse) := by
  constructor
  · classical
    rw [List.perm_iff_count]
    intro v
    have hlow := hfront.perm.count_eq v
    have hhigh := hback.perm.count_eq v
    simp only [List.count_append, List.count_reverse] at hlow hhigh ⊢
    omega
  · intro ho
    have hbetween : Rises less (mid ++ mid') := by
      generalize mid ++ mid' = between at hone ⊢
      match between with
      | [] => exact .nil
      | [u] => exact List.pairwise_singleton _ u
    rw [List.append_assoc low]
    refine List.pairwise_append.mpr ⟨List.pairwise_append.mpr ⟨hfront.rises ho, hbetween, ?_⟩,
      hback.rises ho, ?_⟩
    · intro t ht u hu
      refine hfront.before ho t ht u ?_
      rcases List.mem_append.mp hu with hu | hu <;> simp [hu]
    · intro t ht u hu
      have hu := List.mem_reverse.mp hu
      rcases List.mem_append.mp ht with ht | ht
      · refine hfront.before ho t ht u ?_
        rcases List.mem_append.mp (hback.perm.mem_iff.mp hu) with hu | hu <;> simp [hu]
      · refine hback.after ho u hu t (List.mem_append.mpr ?_)
        exact (List.mem_append.mp ht).imp (hmid t) (hmid' t)

end Meeting

theorem meet_gives {xs ys : List α} (hx : ∀ x ∈ xs, P x) (hy : ∀ y ∈ ys, P y)
    (hxs : Orderly less P → Rises less xs) (hys : Orderly less P → Rises less ys)
    (hle : xs.length ≤ ys.length) (hle' : ys.length ≤ xs.length + 1) :
    Gives (Orderly less P) (meet less xs ys) (Arranges less P (xs ++ ys)) := by
  obtain ⟨as, bs, hleft, hright, hfront, hlow⟩ :=
    @front_parted α less P xs.length xs ys hx hy hxs hys
  obtain ⟨cs, ds, hleft', hright', hback, hhigh⟩ :=
    @back_ended α less P xs.length xs ys hx hy hxs hys
  unfold meet
  generalize front less xs.length xs ys = fronts at *
  generalize back less xs.length xs.reverse ys.reverse = ends at *
  obtain ⟨low, xs₁, ys₁⟩ := fronts
  obtain ⟨high, xs₂, ys₂⟩ := ends
  dsimp only at *
  have hlow := hfront.perm.length_eq.symm.trans (hlow (Nat.le_refl _) hle)
  have hhigh := hback.perm.length_eq.symm.trans (hhigh (Nat.le_refl _) hle)
  have hlengths := And.intro (congrArg List.length hleft) (congrArg List.length hright)
  have hlengths' := And.intro (congrArg List.length hleft') (congrArg List.length hright')
  simp only [List.length_append, List.length_reverse] at hlow hhigh hlengths hlengths'
  constructor
  · intro merged hmerged
    split at hmerged
    · rename_i hapart
      cases hmerged
      obtain ⟨mid, htake, rfl, hps⟩ := exists_between (hleft.symm.trans hleft') (by omega)
      obtain ⟨mid', htake', rfl, hqs⟩ := exists_between (hright.symm.trans hright') (by omega)
      rw [← hleft] at htake
      rw [← hright] at htake'
      rw [htake, htake', hleft, hright]
      refine hfront.arranges_with_ended hback ?_ ?_ ?_
      · exact fun u hu => List.mem_reverse.mp (hps ▸ List.mem_append_right as hu)
      · exact fun u hu => List.mem_reverse.mp (hqs ▸ List.mem_append_right bs hu)
      · simp only [List.length_append] at hlengths ⊢
        omega
    · cases hmerged
  · intro ho
    have hapart := hfront.apart_of_ended hback ho (hleft.symm.trans hleft')
      (hright.symm.trans hright') (by omega)
    exact ⟨_, if_pos (by omega)⟩

end Ends

theorem short_gives {items : List α} (hP : ∀ x ∈ items, P x) :
    Gives (Orderly less P) (short less items) (Arranges less P items) := by
  unfold short
  generalize decide (8 ≤ items.length) = fours
  have hfirst : Arranges less P _ (half less fours (items.take (items.length / 2))) :=
    half_arranges fours fun x hx => hP x (List.mem_of_mem_take hx)
  have hsecond : Arranges less P _ (half less fours (items.drop (items.length / 2))) :=
    half_arranges fours fun x hx => hP x (List.mem_of_mem_drop hx)
  have hperm := hfirst.perm.append hsecond.perm
  rw [List.take_append_drop] at hperm
  have hlengths := And.intro hfirst.perm.length_eq hsecond.perm.length_eq
  rw [List.length_take, List.length_drop] at hlengths
  have hmerged := meet_gives (fun x hx => hP x (hperm.mem_iff.mp (List.mem_append_left _ hx)))
    (fun y hy => hP y (hperm.mem_iff.mp (List.mem_append_right _ hy))) hfirst.rises hsecond.rises
    (by omega) (by omega)
  exact hmerged.imp fun merged h => h.of_perm hperm

end FeatureFlow.StableSort
