import FeatureFlow.Proofs.Doubles
import FeatureFlow.Value.Json

/-! Values as JSON and back. Nothing is lost but the instants, which come back as texts, and the
doubles that are no numbers, which come back as null. -/
namespace FeatureFlow

namespace KeyMap

variable {α β : Type} {m : KeyMap α} {name : String} {a : α} {entries : List (String × α)}

theorem mem_of_mem_insert {e : String × α} (h : e ∈ m.insert name a) : e = (name, a) ∨ e ∈ m := by
  induction m with
  | nil => exact .inl (List.mem_singleton.mp h)
  | cons first m ih =>
    rw [insert] at h
    split at h
    · exact List.mem_cons.mp h
    · split at h
      · rcases List.mem_cons.mp h with h | h
        · exact .inl h
        · exact .inr (List.mem_cons_of_mem _ h)
      · rcases List.mem_cons.mp h with h | h
        · exact .inr (List.mem_cons.mpr (.inl h))
        · exact (ih h).imp_right (List.mem_cons_of_mem _)

theorem Ordered.insert (h : m.Ordered) (name : String) (a : α) : (m.insert name a).Ordered := by
  induction m with
  | nil => exact List.pairwise_singleton _ _
  | cons first m ih =>
    obtain ⟨hfirst, hm⟩ := List.pairwise_cons.mp h
    rw [KeyMap.insert]
    split
    · rename_i hlt
      refine List.pairwise_cons.mpr ⟨?_, h⟩
      intro e he
      rcases List.mem_cons.mp he with rfl | he
      · exact hlt
      · exact String.lt_trans hlt (hfirst e he)
    · rename_i hle
      split
      · rename_i heq
        exact List.pairwise_cons.mpr ⟨fun e he => heq ▸ hfirst e he, hm⟩
      · rename_i hne
        refine List.pairwise_cons.mpr ⟨?_, ih hm⟩
        intro e he
        rcases mem_of_mem_insert he with rfl | he
        · exact Std.lt_of_le_of_ne hle hne
        · exact hfirst e he

theorem Ordered.insertAll (h : m.Ordered) (entries : List (String × α)) :
    (m.insertAll entries).Ordered := by
  induction entries generalizing m with
  | nil => exact h
  | cons e entries ih => exact ih (h.insert e.1 e.2)

theorem ordered_ofList (entries : List (String × α)) : (ofList entries).Ordered :=
  Ordered.insertAll List.Pairwise.nil entries

theorem mem_of_mem_insertAll {e : String × α} (h : e ∈ m.insertAll entries) :
    e ∈ m ∨ e ∈ entries := by
  induction entries generalizing m with
  | nil => exact .inl h
  | cons first entries ih =>
    rcases ih h with h | h
    · rcases mem_of_mem_insert h with rfl | h
      · exact .inr List.mem_cons_self
      · exact .inl h
    · exact .inr (List.mem_cons_of_mem _ h)

theorem mem_of_mem_ofList {e : String × α} (h : e ∈ ofList entries) : e ∈ entries :=
  (mem_of_mem_insertAll h).resolve_left List.not_mem_nil

theorem insert_of_forall_lt (h : ∀ e ∈ m, e.1 < name) : m.insert name a = m ++ [(name, a)] := by
  induction m with
  | nil => rfl
  | cons first m ih =>
    obtain ⟨hfirst, hm⟩ := List.forall_mem_cons.mp h
    have hne : first.1 ≠ name := by
      intro heq
      exact String.lt_irrefl name (heq ▸ hfirst)
    rw [insert, if_neg (String.lt_asymm hfirst), if_neg hne, ih hm]
    rfl

theorem insertAll_of_ordered (h : Ordered (m ++ entries)) : m.insertAll entries = m ++ entries := by
  induction entries generalizing m with
  | nil => rw [insertAll, List.foldl_nil, List.append_nil]
  | cons e entries ih =>
    have hlt : ∀ e' ∈ m, e'.1 < e.1 := by
      intro e' he'
      exact (List.pairwise_append.mp h).2.2 e' he' e List.mem_cons_self
    have hstep : m.insertAll (e :: entries) = (m.insert e.1 e.2).insertAll entries := rfl
    rw [hstep, insert_of_forall_lt hlt]
    have hassoc : m ++ e :: entries = (m ++ [e]) ++ entries := by simp
    rw [hassoc] at h ⊢
    exact ih h

/-- What is in order already is kept as it is. -/
theorem ofList_of_ordered (h : Ordered entries) : ofList entries = entries := insertAll_of_ordered h

theorem insert_perm (h : name ∉ m.names) : (m.insert name a).Perm ((name, a) :: m) := by
  induction m with
  | nil => exact .refl _
  | cons first m ih =>
    have hne : first.1 ≠ name := fun heq => h (heq ▸ List.mem_cons_self)
    have hm : name ∉ names m := fun hmem => h (List.mem_cons_of_mem _ hmem)
    by_cases hlt : name < first.1
    · rw [insert, if_pos hlt]
    · rw [insert, if_neg hlt, if_neg hne]
      exact ((ih hm).cons first).trans (.swap ..)

theorem nodup_names_iff_of_perm {m' : KeyMap α} (h : m.Perm m') : m.names.Nodup ↔ m'.names.Nodup :=
  (h.map Prod.fst).nodup_iff

theorem insertAll_perm (h : (names (m ++ entries)).Nodup) :
    (m.insertAll entries).Perm (m ++ entries) := by
  induction entries generalizing m with
  | nil =>
    rw [List.append_nil]
    exact .refl _
  | cons e entries ih =>
    have hmid : (m ++ e :: entries).Perm (e :: (m ++ entries)) := List.perm_middle
    have hfresh : e.1 ∉ m.names := by
      intro hmem
      have hnodup : (e.1 :: names (m ++ entries)).Nodup := (nodup_names_iff_of_perm hmid).mp h
      refine (List.nodup_cons.mp hnodup).1 ?_
      rw [names, List.map_append]
      exact List.mem_append_left _ hmem
    have hinsert : (m.insert e.1 e.2 ++ entries).Perm (m ++ e :: entries) :=
      ((insert_perm hfresh).append_right entries).trans hmid.symm
    exact (ih ((nodup_names_iff_of_perm hinsert).mpr h)).trans hinsert

/-- Entries of different names are only put in order. -/
theorem ofList_perm (h : (names entries).Nodup) : (ofList entries).Perm entries := insertAll_perm h

theorem Ordered.mapValues (h : m.Ordered) (f : α → β) : Ordered (m.map fun e => (e.1, f e.2)) :=
  List.pairwise_map.mpr h

end KeyMap

theorem map_eq_self_iff {α : Type} {f : α → α} {l : List α} : l.map f = l ↔ ∀ a ∈ l, f a = a := by
  have h : l.map f = l.map id ↔ ∀ a ∈ l, f a = a := List.map_inj_left
  rwa [List.map_id] at h

theorem mem_zip_map {α β : Type} {f : α → β} {l : List α} {pair : α × β}
    (h : pair ∈ l.zip (l.map f)) :
    ∃ a ∈ l, pair = (a, f a) := by
  induction l with
  | nil => cases h
  | cons a l ih =>
    rw [List.map_cons, List.zip_cons_cons] at h
    rcases List.mem_cons.mp h with rfl | h
    · exact ⟨a, List.mem_cons_self, rfl⟩
    · obtain ⟨b, hb, rfl⟩ := ih h
      exact ⟨b, List.mem_cons_of_mem a hb, rfl⟩

namespace Json

/-- Induction over documents, with the hypothesis for everything that stands in an array or object.
-/
theorem induction {P : Json → Prop} (null : P .null) (bool : ∀ b, P (.bool b))
    (number : ∀ n, P (.number n)) (string : ∀ s, P (.string s))
    (array : ∀ items, (∀ j ∈ items, P j) → P (.array items))
    (object : ∀ members, (∀ m ∈ members, P m.2) → P (.object members)) (j : Json) : P j := by
  refine @Json.rec P (fun items => ∀ j ∈ items, P j) (fun members => ∀ m ∈ members, P m.2)
    (fun m => P m.2)
    null bool number string array object nofun ?_ nofun ?_ ?_ j
  · exact fun j items hj hitems => List.forall_mem_cons.mpr ⟨hj, hitems⟩
  · exact fun m members hm hmembers => List.forall_mem_cons.mpr ⟨hm, hmembers⟩
  · exact fun _ _ hj => hj

/-- No object repeats a name and no whole number is above the signed range, at any depth. -/
inductive Regular : Json → Prop where
  | null : Regular .null
  | bool (b : Bool) : Regular (.bool b)
  | int (n : Int64) : Regular (.number (.int n))
  | float (x : Finite) : Regular (.number (.float x))
  | string (s : String) : Regular (.string s)
  | array {items : List Json} (h : ∀ j ∈ items, Regular j) : Regular (.array items)
  | object {members : List (String × Json)} (names : (members.map (·.1)).Nodup)
      (h : ∀ m ∈ members, Regular m.2) :
      Regular (.object members)

/-- The same document up to the order in which objects have their members. -/
inductive Same : Json → Json → Prop where
  | null : Same .null .null
  | bool (b : Bool) : Same (.bool b) (.bool b)
  | number (n : Number) : Same (.number n) (.number n)
  | string (s : String) : Same (.string s) (.string s)
  | array {items items' : List Json} (length : items.length = items'.length)
      (h : ∀ pair ∈ items.zip items', Same pair.1 pair.2) : Same (.array items) (.array items')
  | object {members arranged members' : List (String × Json)}
      (names : members.map (·.1) = arranged.map (·.1))
      (h : ∀ pair ∈ members.zip arranged, Same pair.1.2 pair.2.2) (perm : arranged.Perm members') :
      Same (.object members) (.object members')

end Json

namespace Value

theorem ofItems_eq_map (items : List Json) : ofItems items = items.map ofJson := by
  induction items with
  | nil => rfl
  | cons j items ih => rw [ofItems, ih, List.map_cons]

theorem ofMembers_eq_map (members : List (String × Json)) :
    ofMembers members = members.map fun m => (m.1, ofJson m.2) := by
  induction members with
  | nil => rfl
  | cons m members ih => rw [ofMembers, ih, List.map_cons]

theorem toItems_eq_map (items : List Value) : toItems items = items.map toJson := by
  induction items with
  | nil => rfl
  | cons v items ih => rw [toItems, ih, List.map_cons]

theorem toMembers_eq_map (fields : List (String × Value)) :
    toMembers fields = fields.map fun f => (f.1, toJson f.2) := by
  induction fields with
  | nil => rfl
  | cons f fields ih => rw [toMembers, ih, List.map_cons]

theorem toJson_float {x : Float} (h : x.isFinite = true) :
    toJson (.float x) = .number (.float ⟨x, h⟩) := dif_pos h

theorem toJson_float_of_not {x : Float} (h : ¬ x.isFinite = true) : toJson (.float x) = .null :=
  dif_neg h

/-- Maps have their fields in ascending name order, at any depth. -/
inductive Ordered : Value → Prop where
  | null : Ordered .null
  | bool (b : Bool) : Ordered (.bool b)
  | int (n : Int64) : Ordered (.int n)
  | float (x : Float) : Ordered (.float x)
  | string (s : String) : Ordered (.string s)
  | timestamp (t : Timestamp) : Ordered (.timestamp t)
  | list {items : List Value} (h : ∀ v ∈ items, Ordered v) : Ordered (.list items)
  | map {fields : KeyMap Value} (order : fields.Ordered) (h : ∀ f ∈ fields, Ordered f.2) :
      Ordered (.map fields)

/-- No instant and no double that is no number, at any depth. -/
inductive Lossless : Value → Prop where
  | null : Lossless .null
  | bool (b : Bool) : Lossless (.bool b)
  | int (n : Int64) : Lossless (.int n)
  | float {x : Float} (h : x.isFinite = true) : Lossless (.float x)
  | string (s : String) : Lossless (.string s)
  | list {items : List Value} (h : ∀ v ∈ items, Lossless v) : Lossless (.list items)
  | map {fields : List (String × Value)} (h : ∀ f ∈ fields, Lossless f.2) : Lossless (.map fields)

theorem lossless_float_iff {x : Float} : Lossless (.float x) ↔ x.isFinite = true :=
  ⟨fun h => by cases h; assumption, .float⟩

theorem lossless_list_iff {items : List Value} : Lossless (.list items) ↔ ∀ v ∈ items, Lossless v :=
  ⟨fun h => by cases h; assumption, .list⟩

theorem lossless_map_iff {fields : List (String × Value)} :
    Lossless (.map fields) ↔ ∀ f ∈ fields, Lossless f.2 :=
  ⟨fun h => by cases h; assumption, .map⟩

theorem ofJson_toJson_list (items : List Value) :
    ofJson (toJson (.list items)) = .list (items.map fun v => ofJson (toJson v)) := by
  rw [toJson, ofJson, toItems_eq_map, ofItems_eq_map, List.map_map]
  rfl

theorem ofJson_toJson_map {fields : KeyMap Value} (h : fields.Ordered) :
    ofJson (toJson (.map fields)) = .map (fields.map fun f => (f.1, ofJson (toJson f.2))) := by
  have hmembers : ofMembers (toMembers fields) = fields.map fun f =>
      (f.1, ofJson (toJson f.2)) := by
    rw [toMembers_eq_map, ofMembers_eq_map, List.map_map]
    rfl
  have hordered : KeyMap.Ordered (fields.map fun f => (f.1, ofJson (toJson f.2)))  :=
    h.mapValues fun v => ofJson (toJson v)
  rw [toJson, ofJson, hmembers, KeyMap.ofList_of_ordered hordered]

/-- What was made JSON once is made the same JSON again. -/
theorem toJson_ofJson_toJson {v : Value} (h : v.Ordered) :
    toJson (ofJson (toJson v)) = toJson v := by
  induction h with
  | float x =>
    by_cases hx : x.isFinite = true
    · rw [toJson_float hx]
      exact toJson_float hx
    · rw [toJson_float_of_not hx]
      rfl
  | list _ ih =>
    rw [ofJson_toJson_list, toJson, toJson, toItems_eq_map, toItems_eq_map, List.map_map]
    exact congrArg Json.array (List.map_congr_left ih)
  | map order _ ih =>
    rw [ofJson_toJson_map order, toJson, toJson, toMembers_eq_map, toMembers_eq_map, List.map_map]
    refine congrArg Json.object (List.map_congr_left ?_)
    intro f hf
    exact congrArg (f.1, ·) (ih f hf)
  | _ => rfl

theorem ofJson_toJson_eq_iff {v : Value} (h : v.Ordered) : ofJson (toJson v) = v ↔ v.Lossless := by
  induction h with
  | null => exact ⟨fun _ => .null, fun _ => rfl⟩
  | bool b => exact ⟨fun _ => .bool b, fun _ => rfl⟩
  | int n => exact ⟨fun _ => .int n, fun _ => rfl⟩
  | string s => exact ⟨fun _ => .string s, fun _ => rfl⟩
  | timestamp t => exact ⟨nofun, nofun⟩
  | float x =>
    rw [lossless_float_iff]
    by_cases hx : x.isFinite = true
    · rw [toJson_float hx]
      exact ⟨fun _ => hx, fun _ => rfl⟩
    · rw [toJson_float_of_not hx]
      exact ⟨nofun, fun h => absurd h hx⟩
  | list _ ih =>
    rw [ofJson_toJson_list, lossless_list_iff, list.injEq, map_eq_self_iff]
    exact forall₂_congr ih
  | map order _ ih =>
    rw [ofJson_toJson_map order, lossless_map_iff, map.injEq, map_eq_self_iff]
    refine forall₂_congr fun f hf => ?_
    rw [← ih f hf, Prod.ext_iff]
    exact and_iff_right rfl

theorem ofJson_object (members : List (String × Json)) :
    ofJson (.object members) = .map (KeyMap.ofList (members.map fun m => (m.1, ofJson m.2))) := by
  rw [ofJson, ofMembers_eq_map]

theorem forall_mem_ofList_members {P : Value → Prop} {members : List (String × Json)}
    (h : ∀ m ∈ members, P (ofJson m.2)) :
    ∀ f ∈ KeyMap.ofList (members.map fun m => (m.1, ofJson m.2)), P f.2 := by
  intro f hf
  obtain ⟨m, hm, rfl⟩ := List.mem_map.mp (KeyMap.mem_of_mem_ofList hf)
  exact h m hm

theorem ordered_ofJson (j : Json) : (ofJson j).Ordered := by
  induction j using Json.induction with
  | null => exact .null
  | bool b => exact .bool b
  | number n =>
    cases n with
    | int n => exact .int n
    | wide n => exact .float _
    | float x => exact .float _
  | string s => exact .string s
  | array items ih =>
    rw [ofJson, ofItems_eq_map]
    exact .list (List.forall_mem_map.mpr ih)
  | object members ih =>
    rw [ofJson_object]
    exact .map (KeyMap.ordered_ofList _) (forall_mem_ofList_members ih)

theorem lossless_ofJson (j : Json) : (ofJson j).Lossless := by
  induction j using Json.induction with
  | null => exact .null
  | bool b => exact .bool b
  | number n =>
    have hn := n.isFinite_toFloat
    cases n with
    | int n => exact .int n
    | wide n => exact .float hn
    | float x => exact .float hn
  | string s => exact .string s
  | array items ih =>
    rw [ofJson, ofItems_eq_map]
    exact .list (List.forall_mem_map.mpr ih)
  | object members ih =>
    rw [ofJson_object]
    exact .map (forall_mem_ofList_members ih)

/-- What was read from JSON comes back. -/
theorem ofJson_toJson_ofJson (j : Json) : ofJson (toJson (ofJson j)) = ofJson j :=
  (ofJson_toJson_eq_iff (ordered_ofJson j)).mpr (lossless_ofJson j)

theorem same_toJson_ofJson {j : Json} (h : j.Regular) : j.Same (toJson (ofJson j)) := by
  induction h with
  | null => exact .null
  | bool b => exact .bool b
  | int n => exact .number _
  | float x =>
    rw [show toJson (ofJson (.number (.float x))) = .number (.float x) from toJson_float x.isFinite]
    exact .number _
  | string s => exact .string s
  | @array items _ ih =>
    have hitems : toJson (ofJson (.array items)) =
        .array (items.map fun j => toJson (ofJson j)) := by
      rw [ofJson, toJson, ofItems_eq_map, toItems_eq_map, List.map_map]
      rfl
    rw [hitems]
    refine .array (by rw [List.length_map]) ?_
    intro pair hpair
    obtain ⟨j, hj, rfl⟩ := mem_zip_map hpair
    exact ih j hj
  | @object members names _ ih =>
    let back (m : String × Json) : String × Json := (m.1, toJson (ofJson m.2))
    have hnames : (KeyMap.names (members.map fun m => (m.1, ofJson m.2))).Nodup := by
      rw [KeyMap.names, List.map_map]
      exact names
    have hperm : (members.map back).Perm (toMembers
        (KeyMap.ofList (members.map fun m => (m.1, ofJson m.2)))) := by
      rw [toMembers_eq_map]
      have hsorted := ((KeyMap.ofList_perm hnames).map fun f => (f.1, toJson f.2)).symm
      rw [List.map_map] at hsorted
      exact hsorted
    rw [ofJson_object, toJson]
    refine .object ?_ ?_ hperm
    · rw [List.map_map]
      rfl
    · intro pair hpair
      obtain ⟨m, hm, rfl⟩ := mem_zip_map hpair
      exact ih m hm

/-- A value comes back from JSON unless it has instants or doubles that are no numbers, and even
then it is made the same JSON again. What JSON a value is made from comes back up to the order of
members, unless it has whole numbers above the signed range. -/
theorem json_round_trips :
    (∀ v : Value, v.Ordered →
      toJson (ofJson (toJson v)) = toJson v ∧ (ofJson (toJson v) = v ↔ v.Lossless)) ∧
    ∀ j : Json, (ofJson j).Ordered ∧ (j.Regular → j.Same (toJson (ofJson j))) :=
  ⟨fun _ h => ⟨toJson_ofJson_toJson h, ofJson_toJson_eq_iff h⟩, fun j =>
    ⟨ordered_ofJson j, same_toJson_ofJson⟩⟩

/-- A value with an infinite double deep inside does not come back. A document comes back in another
order. -/
theorem infinite_double_is_lost :
    let endless : Float := Float.ofBits 0x7FF0000000000000
    let v : Value := .map [("rates", .list [.int 2, .map [("limit", .float endless)]]),
      ("set", .bool true)]
    let j : Json := .object [("b", .array [.object [("y", .null), ("x", .int 1)]]),
      ("a", .string "t")]
    let sorted : Json := .object [("a", .string "t"),
      ("b", .array [.object [("x", .int 1), ("y", .null)]])]
    v.Ordered ∧ toJson (ofJson (toJson v)) = toJson v ∧ ofJson (toJson v) ≠ v ∧
      j.Regular ∧ toJson (ofJson j) = sorted ∧ j.Same sorted := by
  intro endless v j sorted
  have hv : v.Ordered := by
    have hlimit : Ordered (.map [("limit", .float endless)]) :=
      .map (List.pairwise_singleton _ _) (by simp [Ordered.float])
    have hrates : Ordered (.list [.int 2, .map [("limit", .float endless)]]) :=
      .list (by simp [Ordered.int, hlimit])
    have hnames : "rates" < "set" := by decide
    refine .map ?_ (by simp [Ordered.bool, hrates])
    exact List.pairwise_cons.mpr ⟨List.forall_mem_singleton.mpr hnames, List.pairwise_singleton _ _⟩
  have hlost : ¬ v.Lossless := by
    have hendless : ¬ endless.isFinite = true := by decide +kernel
    simp [v, lossless_map_iff, lossless_list_iff, lossless_float_iff, hendless]
  have hj : j.Regular := by
    have hinner : Json.Regular (.object [("y", .null), ("x", .int 1)]) :=
      .object (by simp) (by simp [Json.Regular.null, Json.int, Json.Regular.int])
    exact .object (by simp) (by simp [Json.Regular.string, Json.Regular.array, hinner])
  have hsorted : toJson (ofJson j) = sorted := rfl
  obtain ⟨hagain, hiff⟩ := json_round_trips.1 v hv
  exact ⟨hv, hagain, fun heq => hlost (hiff.mp heq), hj, hsorted,
    hsorted ▸ (json_round_trips.2 j).2 hj⟩

end Value

end FeatureFlow
