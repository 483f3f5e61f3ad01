import FeatureFlow.Proofs.OrderedMaps
import FeatureFlow.Proofs.Texts

/-! Which entity an id stands for. A store goes by the text of the id and a lookup by loose
equality, so the two can differ on an entity: the texts of 1 and "1" are the same, and 0.0 and -0.0
are loosely equal. -/
namespace FeatureFlow.Repositories

/-- The store puts an entity in the place of this one. -/
def Replaces (r : Repositories) (d : Deposit) (e : Value) : Prop :=
  ∃ receipt, (r.deposit d).1 = .ok receipt ∧ receipt.previous = some e

/-- The lookup by the id returns the entity. -/
def Finds (r : Repositories) (name : String) (id e : Value) : Prop :=
  ∃ found, r.retrieve name (some (.map [("id", id)])) = .ok found ∧ e ∈ found

variable {r : Repositories} {m : String → OrderedMap} {d : Deposit} {name : String} {e id : Value}

/-- Of each key there is one entity, the latest. -/
theorem Refines.latest_eq_some_iff (h : Refines r m) {key : String} :
    (m name).latest key = some e ↔ e ∈ r.contents name ∧ key? e = some key := by
  rw [h.contents, OrderedMap.mem_values_iff]
  constructor
  · intro hlatest
    exact ⟨⟨key, hlatest⟩, h.known name key e hlatest⟩
  · rintro ⟨⟨other, hlatest⟩, hkey⟩
    rw [h.known name other e hlatest] at hkey
    cases hkey
    exact hlatest

theorem entity?_of_id {fields : KeyMap Value} (hvalue : d.value = .map fields)
    (hid : fields.get? "id" = some id) (hnull : id.isNull = false) :
    d.entity? = some (id.display, .map fields) := by
  have hkey : key? (.map fields) = some id.display :=
    key?_eq_some_iff.mpr ⟨fields, id, rfl, hid, hnull, rfl⟩
  rw [entity?_eq_identify hvalue, identify, hkey]

theorem Refines.replaces_iff (h : Refines r m) {key : String} {entity : Value}
    (hd : d.entity? = some (key, entity)) :
    Replaces r d e ↔ e ∈ r.contents d.repository ∧ key? e = some key := by
  rw [← h.latest_eq_some_iff, Replaces, (h.deposit d).1, OrderedMap.deposit, hd]
  simp

theorem Refines.finds_iff (h : Refines r m) :
    Finds r name id e ↔
      e ∈ r.contents name ∧ ∃ held, e.field? "id" = some held ∧ held.looseEq id = true := by
  rw [Finds, retrieve_eq_find h.unreachable]
  simp [mem_find, Meets]

/-- With one entity in the repository, only the two ids count. -/
theorem replaces_and_finds_only {a b : Value} (ha : a.isNull = false) (hb : b.isNull = false)
    (others : KeyMap Value) :
    let e : Value := .map (("id", a) :: others)
    let r := (inTurn deposit {} [⟨"users", e, ⟨0⟩⟩]).2
    (Replaces r ⟨"users", .map [("id", b)], ⟨1⟩⟩ e ↔ a.display = b.display) ∧
      (Finds r "users" b e ↔ a.looseEq b = true) := by
  intro e r
  obtain ⟨-, (href : Refines r _)⟩ := refines_inTurn [⟨"users", e, ⟨0⟩⟩]
  have hfield : e.field? "id" = some a := rfl
  have hkey : key? e = some a.display := key?_eq_some_iff.mpr ⟨_, a, rfl, rfl, ha, rfl⟩
  have hcontents : r.contents "users" = [e] := by
    have hstored := entity?_of_id (d := ⟨"users", e, ⟨0⟩⟩) rfl rfl ha
    rw [show r = (deposit {} ⟨"users", e, ⟨0⟩⟩).2 from
      rfl, (deposit_of_some rfl hstored).2, contents_put]
    rfl
  rw [href.replaces_iff (entity?_of_id rfl rfl hb), href.finds_iff, hcontents, hkey, hfield]
  simp

/-- A store replaces the entity whose id has the text of the new id, and a lookup finds those whose
ids are loosely equal to it. Without doubles, all that is found would be replaced. Ids of one kind
without doubles and instants stand for the same entity both ways; an id of another kind finds none.
-/
theorem store_and_lookup_by_id (deposits : List Deposit) (d : Deposit) {fields : KeyMap Value}
    {id : Value} (hvalue : d.value = .map fields) (hid : fields.get? "id" = some id)
    (hnull : id.isNull = false) :
    let r := (inTurn deposit {} deposits).2
    (∀ e, Replaces r d e ∨ Finds r d.repository id e → e ∈ r.contents d.repository) ∧
    ∀ e ∈ r.contents d.repository, ∃ held, e.field? "id" = some held ∧ held.isNull = false ∧
      (Replaces r d e ↔ held.display = id.display) ∧
        (Finds r d.repository id e ↔ held.looseEq id = true) ∧
      (held.Discrete True → id.Discrete True → Finds r d.repository id e → Replaces r d e) ∧
      (held.Discrete False → id.Discrete False →
        (held.typeName = id.typeName → (Replaces r d e ↔ Finds r d.repository id e)) ∧
        (held.typeName ≠ id.typeName → ¬ Finds r d.repository id e)) := by
  intro r
  obtain ⟨-, (href : Refines r _)⟩ := refines_inTurn deposits
  have hentity := entity?_of_id hvalue hid hnull
  constructor
  · rintro e (hreplaces | hfinds)
    · exact (href.replaces_iff hentity |>.mp hreplaces).1
    · exact (href.finds_iff.mp hfinds).1
  · intro e he
    obtain ⟨fields', held, rfl, hheld, hheldNull⟩ := href.isEntity he
    have hfield : Value.field? (.map fields') "id" = some held := hheld
    have hreplaces : Replaces r d (.map fields') ↔ held.display = id.display := by
      rw [href.replaces_iff hentity, key?_eq_some_iff]
      simp [he, hheld, hheldNull]
    have hfinds : Finds r d.repository id (.map fields') ↔ held.looseEq id = true := by
      rw [href.finds_iff]
      simp [he, hfield]
    refine ⟨held, hfield, hheldNull, hreplaces, hfinds, ?_, ?_⟩
    · intro hdiscrete hdiscrete' hfound
      rw [hreplaces, (hdiscrete.looseEq_iff hdiscrete').mp (hfinds.mp hfound)]
    · intro hdiscrete hdiscrete'
      rw [hreplaces, hfinds, hdiscrete.looseEq_iff hdiscrete']
      refine ⟨fun hkind => ⟨hdiscrete.display_inj hdiscrete' hkind, fun heq => heq ▸ rfl⟩, ?_⟩
      rintro hkind rfl
      exact hkind rfl

/-- Ids of one kind: the entity that is found is the one that is replaced. -/
theorem same_text_replaced_and_found :
    let ada : Value := .map [("id", .string "u1"), ("name", .string "Ada")]
    let d : Deposit := ⟨"users", .map [("id", .string "u1"), ("name", .string "Grace")], ⟨1⟩⟩
    let r := (inTurn deposit {} [⟨"users", ada, ⟨0⟩⟩]).2
    Replaces r d ada ∧ Finds r "users" (.string "u1") ada := by
  intro ada d r
  obtain ⟨-, hall⟩ := store_and_lookup_by_id [⟨"users", ada, ⟨0⟩⟩] d rfl rfl rfl
  obtain ⟨held, hheld, -, hreplaces, -, -, hagree⟩ := hall ada (List.mem_singleton.mpr rfl)
  cases hheld
  have hsame := (hagree (.string "u1") (.string "u1")).1 rfl
  have hreplaced : Replaces r d ada := hreplaces.mpr rfl
  exact ⟨hreplaced, hsame.mp hreplaced⟩

/-- A store replaces an entity that the lookup does not find: 1 for "1", and an instant for another
of the same millisecond. A lookup finds one that the store does not replace: by -0.0, that of 0.0.
-/
theorem store_replaces_unfound_entity :
    let one : Value := .map [("id", .string "1"), ("name", .string "Ada")]
    let r := (inTurn deposit {} [⟨"users", one, ⟨0⟩⟩]).2
    let instant : Value := .map [("id", .timestamp ⟨0, 1⟩)]
    let r' := (inTurn deposit {} [⟨"users", instant, ⟨0⟩⟩]).2
    let zero : Value := .map [("id", .float 0.0)]
    let r'' := (inTurn deposit {} [⟨"users", zero, ⟨0⟩⟩]).2
    (Replaces r ⟨"users", .map [("id", .int 1)], ⟨1⟩⟩ one ∧ ¬ Finds r "users" (.int 1) one) ∧
    (Replaces r' ⟨"users", .map [("id", .timestamp ⟨0, 2⟩)], ⟨1⟩⟩ instant ∧
      ¬ Finds r' "users" (.timestamp ⟨0, 2⟩) instant) ∧
    Finds r'' "users" (.float (-0.0)) zero ∧ ¬ Replaces r'' ⟨"users", .map [("id", .float (-0.0))],
      ⟨1⟩⟩ zero := by
  intro one r instant r' zero r''
  obtain ⟨hreplaces, hfinds⟩ := replaces_and_finds_only (a := .string "1") (b := .int 1) rfl rfl
    [("name", .string "Ada")]
  obtain ⟨hreplaces', hfinds'⟩ := replaces_and_finds_only (a := .timestamp ⟨0, 1⟩)
    (b := .timestamp ⟨0, 2⟩) rfl rfl []
  obtain ⟨hreplaces'', hfinds''⟩ := replaces_and_finds_only (a := .float 0.0)
    (b := .float (-0.0)) rfl rfl []
  refine ⟨⟨hreplaces.mpr ?_, ?_⟩, ⟨hreplaces'.mpr ?_, ?_⟩, hfinds''.mpr ?_, ?_⟩
  · decide +kernel
  · rw [hfinds]
    decide +kernel
  · decide +kernel
  · rw [hfinds']
    decide +kernel
  · decide +kernel
  · rw [hreplaces'']
    decide +kernel

end FeatureFlow.Repositories
