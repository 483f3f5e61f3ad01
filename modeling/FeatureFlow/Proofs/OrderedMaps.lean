import FeatureFlow.Proofs.Changes

/-! Repositories as ordered maps. A repository answers like a map from keys to the last entity
stored under each, and holds its entities in the order in which their keys first came. -/
namespace FeatureFlow

/-- A map from keys to entities that keeps its keys in the order in which they first came. -/
structure OrderedMap where
  keys : List String
  latest : String → Option Value
  nodup : keys.Nodup
  mem_keys : ∀ key, key ∈ keys ↔ (latest key).isSome = true

namespace OrderedMap

variable {m : OrderedMap} {key : String} {entity : Value}

def empty : OrderedMap := ⟨[], fun _ => none, List.nodup_nil, by simp⟩

/-- The entities in the order of their keys. -/
def values (m : OrderedMap) : List Value := m.keys.filterMap m.latest

theorem mem_values_iff {e : Value} : e ∈ m.values ↔ ∃ key, m.latest key = some e := by
  constructor
  · intro he
    obtain ⟨key, -, hlatest⟩ := List.mem_filterMap.mp he
    exact ⟨key, hlatest⟩
  · rintro ⟨key, hlatest⟩
    have hkey : key ∈ m.keys := (m.mem_keys key).mpr (by rw [hlatest]; rfl)
    exact List.mem_filterMap.mpr ⟨key, hkey, hlatest⟩

theorem not_mem_keys (h : m.latest key = none) : key ∉ m.keys := by
  intro hkey
  have hsome := (m.mem_keys key).mp hkey
  rw [h] at hsome
  cases hsome

/-- An entity takes the place of the one of its key; a key that is new comes last. -/
def put (m : OrderedMap) (key : String) (entity : Value) : OrderedMap where
  keys := if (m.latest key).isSome then m.keys else m.keys ++ [key]
  latest other := if other = key then some entity else m.latest other
  nodup := by
    by_cases h : (m.latest key).isSome
    · rw [if_pos h]
      exact m.nodup
    · have hkey : key ∉ m.keys := fun hmem => h ((m.mem_keys key).mp hmem)
      rw [if_neg h, List.nodup_append]
      refine ⟨m.nodup, by simp, ?_⟩
      intro a ha b hb hab
      rw [List.mem_singleton.mp hb] at hab
      exact hkey (hab ▸ ha)
  mem_keys := by
    intro other
    have hold := m.mem_keys other
    by_cases h : (m.latest key).isSome <;> by_cases ho : other = key
    · rw [if_pos h, if_pos ho, ho]
      exact ⟨fun _ => rfl, fun _ => (m.mem_keys key).mpr h⟩
    · rw [if_pos h, if_neg ho]
      exact hold
    · rw [if_neg h, if_pos ho, ho]
      simp
    · rw [if_neg h, if_neg ho, ← hold]
      simp [ho]

theorem latest_put (m : OrderedMap) (key other : String) (entity : Value) :
    (m.put key entity).latest other = if other = key then some entity else m.latest other := rfl

theorem filterMap_put {keys : List String} (h : key ∉ keys) :
    keys.filterMap (m.put key entity).latest = keys.filterMap m.latest := by
  induction keys with
  | nil => rfl
  | cons other keys ih =>
    rw [List.mem_cons, not_or] at h
    rw [List.filterMap_cons, List.filterMap_cons, latest_put, if_neg (Ne.symm h.1), ih h.2]

/-- Under a key that is new, the entity comes last. -/
theorem values_put_of_none (h : m.latest key = none) :
    (m.put key entity).values = m.values ++ [entity] := by
  have hkeys : (m.put key entity).keys = m.keys ++ [key] := by simp [put, h]
  have hlatest : (m.put key entity).latest key = some entity := if_pos rfl
  rw [values, hkeys, List.filterMap_append, filterMap_put (not_mem_keys h)]
  simp [hlatest, values]

/-- Under a key that is there, the entity comes where the one before it stood. -/
theorem values_put_of_some {old : Value} (h : m.latest key = some old) (entity : Value) :
    ∃ before after : List String, key ∉ before ∧
      m.values = before.filterMap m.latest ++ old :: after.filterMap m.latest ∧
      (m.put key entity).values = before.filterMap m.latest ++ entity ::
        after.filterMap m.latest := by
  have hmem : key ∈ m.keys := (m.mem_keys key).mpr (by rw [h]; rfl)
  obtain ⟨before, after, hsplit⟩ := List.append_of_mem hmem
  have hnodup := m.nodup
  rw [hsplit, List.nodup_append, List.nodup_cons] at hnodup
  obtain ⟨-, ⟨hafter, -⟩, hdisjoint⟩ := hnodup
  have hbefore : key ∉ before := fun hkey => hdisjoint key hkey key List.mem_cons_self rfl
  have hkeys : (m.put key entity).keys = before ++ key :: after := by simp [put, h, hsplit]
  have hlatest : (m.put key entity).latest key = some entity := if_pos rfl
  refine ⟨before, after, hbefore, ?_, ?_⟩
  · rw [values, hsplit, List.filterMap_append, List.filterMap_cons_some h]
  · rw [values, hkeys, List.filterMap_append, List.filterMap_cons_some hlatest,
      filterMap_put hbefore,
      filterMap_put hafter]

end OrderedMap

/-- A store: the value, the repository it is for, and the id that is drawn for it. -/
structure Deposit where
  repository : String
  value : Value
  fresh : Uuid

/-- Maps are entities, known by the text of their id. One that has none, or null for it, is given
the fresh one. -/
def Deposit.entity? (d : Deposit) : Option (String × Value) :=
  match d.value with
  | .map fields =>
    match KeyMap.get? fields "id" with
    | none | some .null =>
      some (d.fresh.text, .map (KeyMap.insert fields "id" (.string d.fresh.text)))
    | some id => some (id.display, .map fields)
  | _ => none

/-- Calls made one after the other: their answers, and the state they leave. -/
def inTurn {σ α β : Type} (step : σ → α → β × σ) : σ → List α → List β × σ
  | s, [] => ([], s)
  | s, a :: as => ((step s a).1 :: (inTurn step (step s a).2 as).1, (inTurn step (step s a).2 as).2)

/-- Steps that give the same answers and keep two states related do so in turn. -/
theorem inTurn_simulates {σ τ α β : Type} {step : σ → α → β × σ} {step' : τ → α → β × τ}
    {R : σ → τ → Prop}
    (h : ∀ s t a, R s t → (step s a).1 = (step' t a).1 ∧ R (step s a).2 (step' t a).2) {s : σ}
    {t : τ} (hR : R s t) (as : List α) :
    (inTurn step s as).1 = (inTurn step' t as).1 ∧
      R (inTurn step s as).2 (inTurn step' t as).2 := by
  induction as generalizing s t with
  | nil => exact ⟨rfl, hR⟩
  | cons a as ih =>
    obtain ⟨hanswer, hnext⟩ := h s t a hR
    obtain ⟨hanswers, hlast⟩ := ih hnext
    exact ⟨List.cons_eq_cons.mpr ⟨hanswer, hanswers⟩, hlast⟩

/-- A store into ordered maps, one for each repository. -/
def OrderedMap.deposit (m : String → OrderedMap) (d : Deposit) :
    Except RepositoryError Receipt × (String → OrderedMap) :=
  match d.entity? with
  | some (key, entity) =>
    let previous := (m d.repository).latest key
    (.ok ⟨key, if previous.isSome then .updated else .created, entity, previous⟩,
      fun name => if name = d.repository then (m name).put key entity else m name)
  | none => (.error (.rejected d.repository d.value.typeName), m)

namespace Repositories

def deposit (r : Repositories) (d : Deposit) : Except RepositoryError Receipt × Repositories :=
  r.store d.fresh d.repository d.value

/-- The text of an id is there for maps that have an id which is not null. -/
theorem key?_eq_some_iff {e : Value} {key : String} :
    key? e = some key ↔
      ∃ fields id, e = .map fields ∧ KeyMap.get? fields "id" = some id ∧ id.isNull = false ∧
        id.display = key := by
  constructor
  · intro h
    obtain ⟨id, hid, hkey⟩ := Option.map_eq_some_iff.mp h
    obtain ⟨hfield, hnull⟩ := Option.filter_eq_some_iff.mp hid
    cases e with
    | map fields => exact ⟨fields, id, rfl, hfield, by simpa using hnull, hkey⟩
    | _ => cases hfield
  · rintro ⟨fields, id, rfl, hfield, hnull, rfl⟩
    have hid : Value.field? (.map fields) "id" = some id := hfield
    simp [key?, hid, Option.filter, hnull]

theorem entity?_eq_identify {d : Deposit} {fields : KeyMap Value} (h : d.value = .map fields) :
    d.entity? = some (identify d.fresh fields) := by
  have hfield : Value.field? (.map fields) "id" = KeyMap.get? fields "id" := rfl
  unfold Deposit.entity? identify key?
  rw [h, hfield]
  dsimp only
  cases KeyMap.get? fields "id" with
  | none => rfl
  | some id => cases id <;> rfl

/-- How an entity comes among others, with the kind of change and the entity it replaces: last if no
other has its key, or else in the place of one that has. -/
inductive Placed (key : String) (entity : Value) :
    List Value → List Value → ChangeKind → Option Value → Prop where
  | last {entities : List Value} (absent : ∀ e ∈ entities, key? e ≠ some key) :
      Placed key entity entities (entities ++ [entity]) .created none
  | inPlace {before after : List Value} {old : Value} (absent : ∀ e ∈ before, key? e ≠ some key)
      (key_eq : key? old = some key) :
      Placed key entity (before ++ old :: after) (before ++ entity :: after) .updated (some old)

section Placing

variable {key : String} {entity : Value} {entities entities' : List Value} {kind : ChangeKind}
  {previous : Option Value}

theorem Placed.held_eq (h : Placed key entity entities entities' kind previous) :
    held key entities = previous := by
  cases h with
  | last absent => simpa [held] using absent
  | inPlace absent key_eq =>
    rw [held, List.find?_append, List.find?_eq_none.mpr (by simpa using absent)]
    simp [key_eq]

theorem Placed.replace_eq (h : Placed key entity entities entities' kind previous) :
    replace key entity entities = entities' := by
  cases h with
  | last absent =>
    have hnone : entities.findIdx? (fun e => key? e = some key) = none := by simpa using absent
    rw [replace, hnone]
  | @inPlace before after old absent key_eq =>
    have hsome : (before ++ old :: after).findIdx? (fun e => key? e = some key) =
        some before.length := by
      have hnone : before.findIdx? (fun e => key? e = some key) = none := by simpa using absent
      rw [List.findIdx?_append, hnone, List.findIdx?_cons]
      simp [key_eq]
    rw [replace, hsome]
    simp

theorem Placed.kind_eq (h : Placed key entity entities entities' kind previous) :
    kind = if previous.isSome then .updated else .created := by
  cases h <;> rfl

end Placing

/-- The repositories hold what the maps hold, and each entity is known by its key. -/
structure Refines (r : Repositories) (m : String → OrderedMap) : Prop where
  unreachable : r.unreachable = []
  contents : ∀ name, r.contents name = (m name).values
  known : ∀ name key e, (m name).latest key = some e → key? e = some key

section Refinement

variable {r : Repositories} {m : String → OrderedMap} {d : Deposit}

theorem Refines.placed (h : Refines r m) (name key : String) (entity : Value) :
    ∃ kind, Placed key entity (r.contents name) ((m name).put key entity).values kind
      ((m name).latest key) := by
  have hknown {keys : List String} {e : Value} (hkey : key ∉ keys)
    (he : e ∈ keys.filterMap (m name).latest) :
      key? e ≠ some key := by
    obtain ⟨other, hother, hlatest⟩ := List.mem_filterMap.mp he
    rw [h.known name other e hlatest]
    rintro ⟨⟩
    exact hkey hother
  rw [h.contents]
  cases hlatest : (m name).latest key with
  | none =>
    rw [OrderedMap.values_put_of_none hlatest]
    exact ⟨.created, .last fun e => hknown (OrderedMap.not_mem_keys hlatest)⟩
  | some old =>
    obtain ⟨before, after, hbefore, hvalues, hput⟩ := OrderedMap.values_put_of_some hlatest entity
    rw [hvalues, hput]
    exact ⟨.updated, .inPlace (fun e => hknown hbefore) (h.known name key old hlatest)⟩

/-- What a store does: a value that is no map is refused, and an entity comes into its repository.
-/
inductive Deposited (r : Repositories) (d : Deposit) :
    Except RepositoryError Receipt → Repositories → Prop where
  | refused (h : ∀ fields, d.value ≠ .map fields) :
      Deposited r d (.error (.rejected d.repository d.value.typeName)) r
  | stored {receipt : Receipt} {r' : Repositories}
      (entity : d.entity? = some (receipt.entityId, receipt.stored))
      (placed : Placed receipt.entityId receipt.stored (r.contents d.repository)
        (r'.contents d.repository) receipt.kind receipt.previous)
      (others : ∀ name, name ≠ d.repository → r'.contents name = r.contents name) :
      Deposited r d (.ok receipt) r'

theorem deposit_of_none (hr : r.unreachable = []) (h : d.entity? = none) :
    (∀ fields, d.value ≠ .map fields) ∧ r.deposit d =
      (.error (.rejected d.repository d.value.typeName), r) := by
  have hvalue : ∀ fields, d.value ≠ .map fields := by
    intro fields hv
    rw [entity?_eq_identify hv] at h
    cases h
  refine ⟨hvalue, ?_⟩
  unfold deposit store
  rw [hr, if_neg List.not_mem_nil]
  split
  · rename_i fields hv
    exact absurd hv (hvalue fields)
  · rfl

theorem deposit_of_some {key : String} {entity : Value} (hr : r.unreachable = [])
    (h : d.entity? = some (key, entity)) :
    key? entity = some key ∧
      r.deposit d = (.ok (r.put d.repository key entity).1, (r.put d.repository key entity).2) := by
  cases hv : d.value with
  | map fields =>
    rw [entity?_eq_identify hv] at h
    have hkey := key?_identify d.fresh fields
    rw [Option.some.inj h] at hkey
    refine ⟨hkey, ?_⟩
    rw [deposit, hv, store, hr, if_neg List.not_mem_nil, Option.some.inj h]
  | _ =>
    rw [Deposit.entity?, hv] at h
    cases h

/-- To put an entity into a repository is to put it into the map. -/
theorem Refines.put (h : Refines r m) (name : String) {key : String} {entity : Value}
    (hkey : key? entity = some key) :
    Refines (r.put name key entity).2 fun n => if n = name then (m n).put key entity else m n := by
  obtain ⟨kind, hplaced⟩ := h.placed name key entity
  refine ⟨h.unreachable, ?_, ?_⟩
  · intro other
    rw [contents_put]
    by_cases hother : other = name
    · rw [if_pos hother, if_pos hother, hplaced.replace_eq, hother]
    · rw [if_neg hother, if_neg hother, h.contents]
  · intro other k e he
    by_cases hother : other = name
    · rw [if_pos hother] at he
      by_cases hk : k = key
      · have hlatest : some entity = some e := by rw [← he, hk, OrderedMap.latest_put, if_pos rfl]
        rw [← Option.some.inj hlatest, hk, hkey]
      · rw [OrderedMap.latest_put, if_neg hk] at he
        exact h.known other k e he
    · rw [if_neg hother] at he
      exact h.known other k e he

/-- A store into the repositories is one into the maps. -/
theorem Refines.deposit (h : Refines r m) (d : Deposit) :
    (r.deposit d).1 = (OrderedMap.deposit m d).1 ∧
      Refines (r.deposit d).2 (OrderedMap.deposit m d).2 := by
  cases hentity : d.entity? with
  | none =>
    have hspec : OrderedMap.deposit m d =
        (.error (.rejected d.repository d.value.typeName), m) := by
      rw [OrderedMap.deposit, hentity]
    rw [(deposit_of_none h.unreachable hentity).2, hspec]
    exact ⟨rfl, h⟩
  | some entry =>
    obtain ⟨key, entity⟩ := entry
    obtain ⟨hkey, hdeposit⟩ := deposit_of_some h.unreachable hentity
    obtain ⟨kind, hplaced⟩ := h.placed d.repository key entity
    rw [OrderedMap.deposit, hentity, hdeposit]
    refine ⟨?_, h.put d.repository hkey⟩
    rw [Repositories.put, upsert_eq, hplaced.held_eq]

theorem Refines.deposited (h : Refines r m) (d : Deposit) :
    Deposited r d (r.deposit d).1 (r.deposit d).2 := by
  cases hentity : d.entity? with
  | none =>
    obtain ⟨hvalue, hdeposit⟩ := deposit_of_none h.unreachable hentity
    rw [hdeposit]
    exact .refused hvalue
  | some entry =>
    obtain ⟨key, entity⟩ := entry
    obtain ⟨-, hdeposit⟩ := deposit_of_some h.unreachable hentity
    obtain ⟨kind, hplaced⟩ := h.placed d.repository key entity
    have hreceipt : (r.put d.repository key entity).1 =
        ⟨key, kind, entity, (m d.repository).latest key⟩ := by
      rw [Repositories.put, upsert_eq, hplaced.held_eq, hplaced.kind_eq]
    rw [hdeposit, hreceipt]
    refine .stored hentity ?_ ?_
    · rw [contents_put, if_pos rfl, hplaced.replace_eq]
      exact hplaced
    · intro name hname
      rw [contents_put, if_neg hname]

theorem refines_empty : Refines {} fun _ => .empty :=
  ⟨rfl, fun _ => rfl, by rintro _ _ _ ⟨⟩⟩

/-- Stores made one after the other get the answers of the maps, and go on holding what the maps
hold. -/
theorem refines_inTurn (deposits : List Deposit) :
    (inTurn deposit {} deposits).1 = (inTurn OrderedMap.deposit (fun _ => .empty) deposits).1 ∧
      Refines (inTurn deposit {} deposits).2
        (inTurn OrderedMap.deposit (fun _ => .empty) deposits).2 :=
  inTurn_simulates (R := Refines) (fun _ _ d h => h.deposit d) refines_empty deposits

/-- The keys of the entities that are held, in order. -/
theorem Refines.map_key? (h : Refines r m) (name : String) :
    (r.contents name).map key? = (m name).keys.map some := by
  have hkeys {keys : List String} (hmem : ∀ key ∈ keys, key ∈ (m name).keys) :
      (keys.filterMap (m name).latest).map key? = keys.map some := by
    induction keys with
    | nil => rfl
    | cons key keys ih =>
      obtain ⟨hkey, hrest⟩ := List.forall_mem_cons.mp hmem
      obtain ⟨e, he⟩ := Option.isSome_iff_exists.mp (((m name).mem_keys key).mp hkey)
      rw [List.filterMap_cons_some he, List.map_cons, List.map_cons,
        h.known name key e he, ih hrest]
  rw [h.contents]
  exact hkeys fun _ => id

theorem Refines.isEntity (h : Refines r m) {name : String} {e : Value} (he : e ∈ r.contents name) :
    ∃ fields id, e = .map fields ∧ KeyMap.get? fields "id" = some id ∧ id.isNull = false := by
  obtain ⟨key, -, hkey⟩ := List.mem_map.mp (h.map_key? name ▸ List.mem_map_of_mem he)
  obtain ⟨fields, id, hfields, hid, hnull, -⟩ := key?_eq_some_iff.mp hkey.symm
  exact ⟨fields, id, hfields, hid, hnull⟩

/-- All fields that the filter asks for are there and loosely equal. -/
def Meets (filter : Option Value) (e : Value) : Prop :=
  ∀ fields, filter = some (.map fields) → ∀ name v, (name, v) ∈ fields →
    ∃ actual, e.field? name = some actual ∧ actual.looseEq v = true

theorem fits_iff {filter : Option Value} {e : Value} :
    filter.all (fits · e) = true ↔ Meets filter e := by
  cases filter with
  | none => exact ⟨fun _ _ h => (nomatch h), fun _ => rfl⟩
  | some v =>
    cases v with
    | map fields =>
      have hfits : fits (.map fields) e = true ↔ ∀ field ∈ fields,
          (e.field? field.1).any (·.looseEq field.2) = true :=
        List.all_eq_true
      rw [Option.all_some, hfits]
      constructor
      · rintro h _ ⟨⟩ name v hfield
        exact (Option.any_eq_true _ _).mp (h (name, v) hfield)
      · intro h field hfield
        obtain ⟨actual, hactual, hloose⟩ := h fields rfl field.1 field.2 hfield
        rw [hactual]
        exact hloose
    | _ => exact ⟨fun _ _ h => (nomatch h), fun _ => rfl⟩

theorem retrieve_eq_find (hr : r.unreachable = []) (name : String) (filter : Option Value) :
    r.retrieve name filter = .ok (r.find name filter) := by
  rw [retrieve, hr, if_neg List.not_mem_nil]

theorem mem_find {name : String} {filter : Option Value} {e : Value} :
    e ∈ r.find name filter ↔ e ∈ r.contents name ∧ Meets filter e := by
  rw [find, List.mem_filter, fits_iff]

end Refinement

/-- Whatever is stored, the repositories answer like ordered maps and hold their entities in the
order of their keys. What holds after some stores is also told of the next one, and of what can be
retrieved. -/
theorem stores_refine_ordered_maps (deposits : List Deposit) :
    let r := (inTurn deposit {} deposits).2
    let m := (inTurn OrderedMap.deposit (fun _ => .empty) deposits).2
    (inTurn deposit {} deposits).1 = (inTurn OrderedMap.deposit (fun _ => .empty) deposits).1 ∧
    (∀ name, r.contents name = (m name).values ∧
      (r.contents name).map key? = (m name).keys.map some ∧
      ((r.contents name).map key?).Nodup ∧ ∀ e ∈ r.contents name, ∃ fields id,
        e = .map fields ∧ KeyMap.get? fields "id" = some id ∧ id.isNull = false) ∧
    (∀ d, Deposited r d (r.deposit d).1 (r.deposit d).2) ∧
    (∀ name, r.retrieve name none = .ok (r.contents name)) ∧
    ∀ name filter, ∃ found, r.retrieve name filter = .ok found ∧ found.Sublist (r.contents name) ∧
      ∀ e, e ∈ found ↔ e ∈ r.contents name ∧ Meets filter e := by
  intro r m
  obtain ⟨hanswers, (href : Refines r m)⟩ := refines_inTurn deposits
  refine ⟨hanswers, ?_, href.deposited, ?_, ?_⟩
  · intro name
    have hkeys := href.map_key? name
    refine ⟨href.contents name, hkeys, ?_, fun e => href.isEntity⟩
    rw [hkeys]
    exact List.Pairwise.map some (fun _ _ hne heq => hne (Option.some.inj heq)) (m name).nodup
  · intro name
    simp [retrieve_eq_find href.unreachable, find]
  · intro name filter
    exact ⟨_, retrieve_eq_find href.unreachable name filter, List.filter_sublist, fun e => mem_find⟩

end Repositories

end FeatureFlow
