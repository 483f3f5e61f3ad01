import FeatureFlow.Json.Record

/-! Records, lists and optional members as JSON. What is written with its members in the declared
order is read as it was, whichever of them are left out. -/
namespace FeatureFlow

variable {α β : Type}

theorem eq_ok_of_toOption {ε : Type} {x : Except ε α} {a : α} (h : x.toOption = some a) :
    x = .ok a := by
  cases x with
  | error cause => cases h
  | ok a' => exact congrArg _ (Option.some.inj h)

theorem mapM_map_eq_pure {m : Type → Type} [Monad m] [LawfulMonad m] {f : β → m α} {g : α → β}
    {as : List α} (h : ∀ a ∈ as, f (g a) = pure a) : (as.map g).mapM f = pure as := by
  induction as with
  | nil => exact List.mapM_nil
  | cons a as ih =>
    obtain ⟨ha, has⟩ := List.forall_mem_cons.mp h
    rw [List.map_cons, List.mapM_cons, ha, ih has, pure_bind, pure_bind]

theorem mapM_cons_eq_some {f : β → Option α} {b : β} {bs : List β} {as : List α}
    (h : (b :: bs).mapM f = some as) :
    ∃ a rest, f b = some a ∧ bs.mapM f = some rest ∧ as = a :: rest := by
  rw [List.mapM_cons] at h
  obtain ⟨a, ha, h⟩ := Option.bind_eq_some_iff.mp h
  obtain ⟨rest, hrest, h⟩ := Option.bind_eq_some_iff.mp h
  exact ⟨a, rest, ha, hrest, (Option.some.inj h).symm⟩

theorem exists_of_mem_mapM {f : β → Option α} {bs : List β} {as : List α}
    (h : bs.mapM f = some as) : ∀ a ∈ as, ∃ b ∈ bs, f b = some a := by
  induction bs generalizing as with
  | nil =>
    cases h
    exact nofun
  | cons b bs ih =>
    obtain ⟨a, rest, ha, hrest, rfl⟩ := mapM_cons_eq_some h
    refine List.forall_mem_cons.mpr ⟨⟨b, List.mem_cons_self, ha⟩, fun x hx => ?_⟩
    obtain ⟨y, hy, hread⟩ := ih hrest x hx
    exact ⟨y, List.mem_cons_of_mem _ hy, hread⟩

theorem forall_of_mapM {f : β → Option α} {P : α → Prop} (hf : ∀ b a, f b = some a → P a)
    {bs : List β} {as : List α} (h : bs.mapM f = some as) : ∀ a ∈ as, P a := by
  intro a ha
  obtain ⟨b, -, hb⟩ := exists_of_mem_mapM h a ha
  exact hf b a hb

theorem toOption_mapM {ε : Type} (f : β → Except ε α) (bs : List β) :
    (bs.mapM f).toOption = bs.mapM fun b => (f b).toOption := by
  induction bs with
  | nil => rfl
  | cons b bs ih =>
    rw [List.mapM_cons, List.mapM_cons, ← ih]
    cases f b with
    | error e => rfl
    | ok a => cases bs.mapM f with
      | error e => rfl
      | ok rest => rfl

namespace Json

theorem depth_lt_of_mem_items {items : List Json} {j : Json} (h : j ∈ items) :
    j.depth < (Json.array items).depth := by
  have hle : j.depth ≤ depthItems items := by
    induction items with
    | nil => cases h
    | cons first items ih =>
      rw [depthItems]
      rcases List.mem_cons.mp h with rfl | h
      · omega
      · have := ih h
        omega
  rw [depth]
  omega

theorem depth_lt_of_mem_members {members : List (String × Json)} {m : String × Json}
    (h : m ∈ members) :
    m.2.depth < (Json.object members).depth := by
  have hle : m.2.depth ≤ depthMembers members := by
    induction members with
    | nil => cases h
    | cons first members ih =>
      rw [depthMembers]
      rcases List.mem_cons.mp h with rfl | h
      · omega
      · have := ih h
        omega
  rw [depth]
  omega

theorem depth_lt_array_map {g : α → Json} {as : List α} {a : α} (h : a ∈ as) :
    (g a).depth < (Json.array (as.map g)).depth := depth_lt_of_mem_items (List.mem_map_of_mem h)

theorem depth_lt_object_map {g : α → Json} {entries : List (String × α)} {e : String × α}
    (h : e ∈ entries) :
    (g e.2).depth < (Json.object (entries.map fun e => (e.1, g e.2))).depth :=
  depth_lt_of_mem_members (m := (e.1, g e.2)) (List.mem_map.mpr ⟨e, h, rfl⟩)

theorem depth_variant (name : String) (body : Json) :
    (Json.object [(name, body)]).depth = body.depth + 1 := by
  rw [depth, depthMembers, depthMembers, Nat.max_zero]

section Readers

variable {item : Json → Option α} {P : α → Prop} {o : Option Json} {a : α}

theorem of_required? (hitem : ∀ j a, item j = some a → P a) (h : required? item o = some a) :
    P a := by
  cases o with
  | none => cases h
  | some j => exact hitem j a h

theorem of_optional? (hitem : ∀ j a, item j = some a → P a) {r : Option α}
    (h : optional? item o = some r) :
    ∀ a ∈ r, P a := by
  unfold optional? at h
  split at h
  · cases h
    exact nofun
  · cases h
    exact nofun
  · obtain ⟨a, ha, rfl⟩ := Option.map_eq_some_iff.mp h
    intro a' ha'
    cases ha'
    exact hitem _ a ha

theorem of_orElse? (hitem : ∀ j a, item j = some a → P a) {default : α} (hdefault : P default)
    (h : orElse? item default o = some a) : P a := by
  cases o with
  | none => exact Option.some.inj h ▸ hdefault
  | some j => exact hitem j a h

theorem of_list? (hitem : ∀ j a, item j = some a → P a) {j : Json} {as : List α}
    (h : j.list? item = some as) :
    ∀ a ∈ as, P a := by
  obtain ⟨items, -, h⟩ := Option.bind_eq_some_iff.mp h
  exact forall_of_mapM hitem h

theorem list?_array_map {g : α → Json} {as : List α} (h : ∀ a ∈ as, item (g a) = some a) :
    (Json.array (as.map g)).list? item = some as := mapM_map_eq_pure h

theorem optional?_map {g : α → Json} {r : Option α} (hnull : ∀ a, g a ≠ .null)
    (h : ∀ a ∈ r, item (g a) = some a) :
    optional? item (r.map g) = some r := by
  cases r with
  | none => rfl
  | some a =>
    rw [Option.map_some]
    unfold optional?
    split
    · contradiction
    · rename_i heq
      exact absurd (Option.some.inj heq) (hnull a)
    · rename_i heq
      cases heq
      rw [h a rfl]
      rfl

end Readers

/-- The members that hold something. -/
def present (fields : List (String × Option Json)) : List (String × Json) :=
  fields.filterMap fun f => f.2.map (f.1, ·)

@[simp] theorem present_none (name : String) (fields : List (String × Option Json)) :
    present ((name, none) :: fields) = present fields := rfl

@[simp] theorem present_some (name : String) (j : Json) (fields : List (String × Option Json)) :
    present ((name, some j) :: fields) = (name, j) :: present fields := rfl

theorem present_append (fields fields' : List (String × Option Json)) :
    present (fields ++ fields') = present fields ++ present fields' := List.filterMap_append

theorem optionalMember_eq (name : String) (o : Option Json) :
    optionalMember name o = present [(name, o)] := by
  cases o <;> rfl

theorem mem_names_of_mem_present {fields : List (String × Option Json)} {m : String × Json}
    (h : m ∈ present fields) :
    m.1 ∈ fields.map (·.1) := by
  obtain ⟨f, hf, hm⟩ := List.mem_filterMap.mp h
  obtain ⟨j, -, rfl⟩ := Option.map_eq_some_iff.mp hm
  exact List.mem_map_of_mem hf

/-- The members of a record are less deep than the record. -/
theorem depth_lt_of_present {fields : List (String × Option Json)} {n : Nat}
    (h : (Json.object (present fields)).depth < n) (name : String) {j : Json}
    (hj : (name, some j) ∈ fields) :
    j.depth < n := by
  have hmem : (name, j) ∈ present fields := List.mem_filterMap.mpr ⟨_, hj, rfl⟩
  exact Nat.lt_trans (depth_lt_of_mem_members hmem) h

theorem lookup_present {fields : List (String × Option Json)} (h : (fields.map (·.1)).Nodup)
    {f : String × Option Json} (hf : f ∈ fields) : (present fields).lookup f.1 = f.2 := by
  induction fields with
  | nil => cases hf
  | cons first fields ih =>
    obtain ⟨name, o⟩ := first
    obtain ⟨hname, hrest⟩ := List.nodup_cons.mp h
    rcases List.mem_cons.mp hf with rfl | hmem
    · cases o with
      | none =>
        rw [present_none, List.lookup_eq_none_iff]
        intro m hm
        have hne : name ≠ m.1 := fun heq => hname (heq ▸ mem_names_of_mem_present hm)
        simpa using hne
      | some j => rw [present_some, List.lookup_cons_self]
    · have hne : f.1 ≠ name := by
        rintro rfl
        exact hname (List.mem_map.mpr ⟨f, hmem, rfl⟩)
      cases o with
      | none => exact ih hrest hmem
      | some j =>
        rw [present_some, List.lookup_cons, beq_false_of_ne hne]
        exact ih hrest hmem

theorem length_filter_present_le {fields : List (String × Option Json)}
    (h : (fields.map (·.1)).Nodup) (name : String) :
    ((present fields).filter (·.1 == name)).length ≤ 1 := by
  induction fields with
  | nil => exact Nat.zero_le 1
  | cons first fields ih =>
    obtain ⟨name', o⟩ := first
    obtain ⟨hname, hrest⟩ := List.nodup_cons.mp h
    cases o with
    | none => exact ih hrest
    | some j =>
      rw [present_some]
      by_cases heq : name' = name
      · subst heq
        have hnone : (present fields).filter (·.1 == name') = [] := by
          rw [List.filter_eq_nil_iff]
          intro m hm hbeq
          exact hname (eq_of_beq hbeq ▸ mem_names_of_mem_present hm)
        simp [hnone]
      · rw [List.filter_cons_of_neg (by simpa using heq)]
        exact ih hrest

/-- A record whose members have different names is read member by member. -/
theorem members?_present {names : List String} (hnames : names.Nodup)
    {fields : List (String × Option Json)} (hfields : fields.map (·.1) = names) (least : Nat) :
    (Json.object (present fields)).members? names least = some (fields.map (·.2)) := by
  subst hfields
  have hone : ((fields.map (·.1)).all fun name => ((present fields).filter (·.1 == name)).length ≤
      1) = true := by
    rw [List.all_eq_true]
    intro name _
    exact decide_eq_true (length_filter_present_le hnames name)
  rw [members?, if_pos hone, List.map_map]
  exact congrArg some (List.map_congr_left fun f hf => lookup_present hnames hf)

end Json

end FeatureFlow
