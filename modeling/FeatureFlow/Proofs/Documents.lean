import FeatureFlow.Proofs.Conversions
import FeatureFlow.Proofs.Records
import FeatureFlow.Proofs.Specifiers
import FeatureFlow.Statement.Document

/-! Applications come back from the JSON that they are written as. -/
namespace FeatureFlow

open Json (present members?_present)
open Option (bind_eq_some_iff)

namespace Specifier

/-- The text of a specifier, which is left out where all is selected. -/
def text? (s : Specifier) : Option Json := if s.isWhole then none else some (.string s.render)

theorem member_eq (s : Specifier) : s.member = present [("specifier", s.text?)] := by
  unfold member text?
  split <;> rfl

theorem read_text? {s : Specifier} (h : s.Proper) :
    Json.orElse? ofJson? .whole s.text? = some s := by
  unfold text?
  split
  · rename_i hwhole
    rw [eq_of_beq hwhole]
    rfl
  · exact parse?_render h

theorem proper_of_member {o : Option Json} {s : Specifier}
    (h : Json.orElse? ofJson? .whole o = some s) : s.Proper := by
  have hwhole : Proper .whole := trivial
  refine Json.of_orElse? ?_ hwhole h
  intro j s hs
  obtain ⟨text, -, hs⟩ := bind_eq_some_iff.mp hs
  exact proper_of_parse? hs

end Specifier

namespace Expression

theorem toItems_eq_map (items : List Expression) : toItems items = items.map toJson := by
  induction items with
  | nil => rfl
  | cons e items ih => rw [toItems, ih, List.map_cons]

theorem toMembers_eq_map (entries : List (String × Expression)) :
    toMembers entries = entries.map fun e => (e.1, toJson e.2) := by
  induction entries with
  | nil => rfl
  | cons e entries ih => rw [toMembers, ih, List.map_cons]

/-- What expressions in documents are made of: values that come back from JSON, specifiers that can
be written, and maps in order. -/
inductive Canonical : Expression → Prop where
  | literal {v : Value} (h : Value.ofJson v.toJson = v) : Canonical (.literal v)
  | reference (name : String) (path : List String) {s : Specifier} (h : s.Proper) :
      Canonical (.reference name path s)
  | list {items : List Expression} (h : ∀ e ∈ items, Canonical e) : Canonical (.list items)
  | map {entries : KeyMap Expression} (order : entries.Ordered) (h : ∀ e ∈ entries, Canonical e.2) :
      Canonical (.map entries)
  | unary (op : UnaryOp) {operand : Expression} (h : Canonical operand) :
      Canonical (.unary op operand)
  | binary (op : BinaryOp) {left right : Expression} (hleft : Canonical left)
      (hright : Canonical right) :
      Canonical (.binary op left right)

theorem canonical_of_read? {name? : Json → Option String} {nesting : Nat} {j : Json}
    {e : Expression} (h : read? name? nesting j = some e) : e.Canonical := by
  induction nesting generalizing j e with
  | zero => cases h
  | succ nesting ih =>
    rw [read?] at h
    obtain ⟨⟨kind, body⟩, -, h⟩ := bind_eq_some_iff.mp h
    split at h
    · cases h
      exact .literal (Value.ofJson_toJson_ofJson _)
    · obtain ⟨members, -, h⟩ := bind_eq_some_iff.mp h
      split at h
      · obtain ⟨name, -, h⟩ := bind_eq_some_iff.mp h
        obtain ⟨path, -, h⟩ := bind_eq_some_iff.mp h
        obtain ⟨s, hs, h⟩ := bind_eq_some_iff.mp h
        cases h
        exact .reference name path (Specifier.proper_of_member hs)
      · cases h
    · obtain ⟨items, hitems, h⟩ := bind_eq_some_iff.mp h
      cases h
      exact .list (Json.of_list? (fun _ _ => ih) hitems)
    · obtain ⟨entries, hentries, h⟩ := bind_eq_some_iff.mp h
      cases h
      have hall : ∀ e ∈ entries, e.2.Canonical := by
        refine forall_of_mapM ?_ hentries
        rintro ⟨name, j⟩ entry hentry
        obtain ⟨e, he, rfl⟩ := Option.map_eq_some_iff.mp hentry
        exact ih he
      exact .map (KeyMap.ordered_ofList entries) fun e he => hall e (KeyMap.mem_of_mem_ofList he)
    · obtain ⟨members, -, h⟩ := bind_eq_some_iff.mp h
      split at h
      · obtain ⟨op, -, h⟩ := bind_eq_some_iff.mp h
        obtain ⟨operand, hoperand, h⟩ := bind_eq_some_iff.mp h
        cases h
        exact .unary op (Json.of_required? (fun _ _ => ih) hoperand)
      · cases h
    · obtain ⟨members, -, h⟩ := bind_eq_some_iff.mp h
      split at h
      · obtain ⟨op, -, h⟩ := bind_eq_some_iff.mp h
        obtain ⟨left, hleft, h⟩ := bind_eq_some_iff.mp h
        obtain ⟨right, hright, h⟩ := bind_eq_some_iff.mp h
        cases h
        exact .binary op (Json.of_required? (fun _ _ => ih) hleft)
          (Json.of_required? (fun _ _ => ih) hright)
      · cases h
    · cases h

section Writing

variable {name? : Json → Option String} {nesting : Nat}

/-- The names on a path, which are left out where there are none. -/
def path? (path : List String) : Option Json := if path.isEmpty then none else some (.strings path)

theorem read_path? (path : List String) :
    Json.orElse? (Json.list? Json.string?) [] (path? path) = some path := by
  unfold path?
  split
  · rename_i hempty
    rw [List.isEmpty_iff.mp hempty]
    rfl
  · exact Json.list?_array_map fun _ _ => rfl

theorem toJson_reference (name : String) (path : List String) (s : Specifier) :
    toJson (.reference name path s) =
      .object [("variable", .object (present
        [("name", some (.string name)), ("path", path? path), ("specifier", s.text?)]))] := by
  rw [toJson, s.member_eq, path?]
  split <;> rfl

theorem toJson_unary (op : UnaryOp) (operand : Expression) :
    toJson (.unary op operand) =
      .object [("unary", .object (present
        [("op", some (.string op.symbol)), ("operand", some operand.toJson)]))] := by
  rw [toJson]
  rfl

theorem toJson_binary (op : BinaryOp) (left right : Expression) :
    toJson (.binary op left right) =
      .object [("binary", .object (present
        [("op", some (.string op.symbol)), ("left", some left.toJson),
          ("right", some right.toJson)]))] := by
  rw [toJson]
  rfl

/-- An expression is read as it is written, given nesting enough. -/
theorem Canonical.read?_toJson {e : Expression} (h : e.Canonical)
    (hname : ∀ s, name? (.string s) = some s) (hdepth : e.toJson.depth < nesting) :
    read? name? nesting e.toJson = some e := by
  induction h generalizing nesting with
  | @literal v h =>
    obtain ⟨nesting, rfl⟩ := Nat.exists_eq_add_one_of_ne_zero (Nat.ne_zero_of_lt hdepth)
    rw [toJson, read?]
    exact congrArg (fun v => some (Expression.literal v)) h
  | @reference name path s h =>
    obtain ⟨nesting, rfl⟩ := Nat.exists_eq_add_one_of_ne_zero (Nat.ne_zero_of_lt hdepth)
    rw [toJson_reference, read?]
    refine bind_eq_some_iff.mpr ⟨_, rfl, ?_⟩
    refine bind_eq_some_iff.mpr ⟨_, members?_present (by decide) (by rfl) 1, ?_⟩
    exact bind_eq_some_iff.mpr ⟨name, rfl, bind_eq_some_iff.mpr ⟨path, read_path? path,
      bind_eq_some_iff.mpr ⟨s, Specifier.read_text? h, rfl⟩⟩⟩
  | @list items h ih =>
    obtain ⟨nesting, rfl⟩ := Nat.exists_eq_add_one_of_ne_zero (Nat.ne_zero_of_lt hdepth)
    rw [toJson, toItems_eq_map] at hdepth ⊢
    rw [Json.depth_variant] at hdepth
    rw [read?]
    refine bind_eq_some_iff.mpr ⟨_, rfl, bind_eq_some_iff.mpr ⟨items, ?_, rfl⟩⟩
    apply Json.list?_array_map
    intro e he
    have hitem := Json.depth_lt_array_map (g := toJson) he
    exact ih e he (by omega)
  | @map entries order h ih =>
    obtain ⟨nesting, rfl⟩ := Nat.exists_eq_add_one_of_ne_zero (Nat.ne_zero_of_lt hdepth)
    rw [toJson, toMembers_eq_map] at hdepth ⊢
    rw [Json.depth_variant] at hdepth
    rw [read?]
    refine bind_eq_some_iff.mpr ⟨_, rfl, bind_eq_some_iff.mpr ⟨entries, ?_, ?_⟩⟩
    · apply mapM_map_eq_pure
      intro e he
      have hmember := Json.depth_lt_object_map (g := toJson) he
      exact Option.map_eq_some_iff.mpr ⟨e.2, ih e he (by omega), rfl⟩
    · exact congrArg (fun m => some (Expression.map m)) (KeyMap.ofList_of_ordered order)
  | @unary op operand h ih =>
    obtain ⟨nesting, rfl⟩ := Nat.exists_eq_add_one_of_ne_zero (Nat.ne_zero_of_lt hdepth)
    rw [toJson_unary] at hdepth ⊢
    rw [Json.depth_variant] at hdepth
    rw [read?]
    refine bind_eq_some_iff.mpr ⟨_, rfl, ?_⟩
    refine bind_eq_some_iff.mpr ⟨_, members?_present (by decide) (by rfl) 2, ?_⟩
    have hop : (name? (.string op.symbol)).bind UnaryOp.ofSymbol? = some op := by
      rw [hname, Option.bind_some, op.ofSymbol?_symbol]
    have hpart := Json.depth_lt_of_present (Nat.lt_of_succ_lt_succ hdepth)
    exact bind_eq_some_iff.mpr ⟨op, hop,
      bind_eq_some_iff.mpr ⟨operand, ih (hpart "operand" (by simp)), rfl⟩⟩
  | @binary op left right hleft hright ihleft ihright =>
    obtain ⟨nesting, rfl⟩ := Nat.exists_eq_add_one_of_ne_zero (Nat.ne_zero_of_lt hdepth)
    rw [toJson_binary] at hdepth ⊢
    rw [Json.depth_variant] at hdepth
    rw [read?]
    refine bind_eq_some_iff.mpr ⟨_, rfl, ?_⟩
    refine bind_eq_some_iff.mpr ⟨_, members?_present (by decide) (by rfl) 3, ?_⟩
    have hop : (name? (.string op.symbol)).bind BinaryOp.ofSymbol? = some op := by
      rw [hname, Option.bind_some, op.ofSymbol?_symbol]
    have hpart := Json.depth_lt_of_present (Nat.lt_of_succ_lt_succ hdepth)
    exact bind_eq_some_iff.mpr ⟨op, hop,
      bind_eq_some_iff.mpr ⟨left, ihleft (hpart "left" (by simp)),
        bind_eq_some_iff.mpr ⟨right, ihright (hpart "right" (by simp)), rfl⟩⟩⟩

end Writing

theorem toJson_ne_null (e : Expression) : e.toJson ≠ .null := by
  cases e <;> simp [toJson]

theorem Canonical.ofLooseJson?_toJson {e : Expression} (h : e.Canonical) :
    ofLooseJson? e.toJson = some e :=
  h.read?_toJson (fun _ => rfl) (Nat.lt_succ_self _)

theorem Canonical.optional?_toJson {guard : Option Expression} (h : ∀ e ∈ guard, e.Canonical) :
    Json.optional? ofLooseJson? (guard.map toJson) = some guard :=
  Json.optional?_map toJson_ne_null fun e he => (h e he).ofLooseJson?_toJson

theorem canonical_of_ofLooseJson? {j : Json} {e : Expression} (h : ofLooseJson? j = some e) :
    e.Canonical :=
  canonical_of_read? h

end Expression

namespace Target

def Canonical (t : Target) : Prop := t.specifier.Proper

theorem canonical_of_ofJson? {j : Json} {t : Target} (h : ofJson? j = some t) : t.Canonical := by
  obtain ⟨members, -, h⟩ := bind_eq_some_iff.mp h
  split at h
  · obtain ⟨name, -, h⟩ := bind_eq_some_iff.mp h
    obtain ⟨qualifier, -, h⟩ := bind_eq_some_iff.mp h
    obtain ⟨s, hs, h⟩ := bind_eq_some_iff.mp h
    cases h
    exact Specifier.proper_of_member hs
  · cases h

theorem toJson_eq (t : Target) : t.toJson = .object (present
    [("name", some (.string t.name)), ("qualifier", t.qualifier.map .string),
      ("specifier", t.specifier.text?)]) := by
  rw [toJson, Json.optionalMember_eq, Specifier.member_eq]
  change Json.object (present [("name", some (.string t.name))] ++ _ ++ _) = _
  rw [← Json.present_append, ← Json.present_append]
  rfl

theorem Canonical.ofJson?_toJson {t : Target} (h : t.Canonical) : ofJson? t.toJson = some t := by
  rw [toJson_eq, ofJson?]
  refine bind_eq_some_iff.mpr ⟨_, members?_present (by decide) (by rfl) 1, ?_⟩
  have hqualifier : Json.optional? Json.string? (t.qualifier.map .string) = some t.qualifier :=
    Json.optional?_map nofun fun _ _ => rfl
  exact bind_eq_some_iff.mpr ⟨_, rfl, bind_eq_some_iff.mpr ⟨_, hqualifier,
    bind_eq_some_iff.mpr ⟨_, Specifier.read_text? h, rfl⟩⟩⟩

end Target

theorem Preposition.ofText?_text (p : Preposition) : ofText? p.text = some p := by
  cases p <;> rfl

namespace Object

structure Canonical (o : Object) : Prop where
  source : o.source.Canonical
  filter : ∀ e ∈ o.filter, e.Canonical

theorem canonical_of_ofJson? {j : Json} {o : Object} (h : ofJson? j = some o) : o.Canonical := by
  obtain ⟨members, -, h⟩ := bind_eq_some_iff.mp h
  split at h
  · obtain ⟨preposition, -, h⟩ := bind_eq_some_iff.mp h
    obtain ⟨source, hsource, h⟩ := bind_eq_some_iff.mp h
    obtain ⟨filter, hfilter, h⟩ := bind_eq_some_iff.mp h
    cases h
    exact ⟨Json.of_required? (fun _ _ => Expression.canonical_of_ofLooseJson?) hsource,
      Json.of_optional? (fun _ _ => Expression.canonical_of_ofLooseJson?) hfilter⟩
  · cases h

theorem toJson_eq (o : Object) :
    o.toJson = .object (present [("preposition", some (.string o.preposition.text)),
    ("source", some o.source.toJson), ("where", o.filter.map Expression.toJson)]) := by
  rw [toJson, Json.optionalMember_eq]
  rfl

theorem Canonical.ofJson?_toJson {o : Object} (h : o.Canonical) : ofJson? o.toJson = some o := by
  rw [toJson_eq, ofJson?]
  refine bind_eq_some_iff.mpr ⟨_, members?_present (by decide) (by rfl) 2, ?_⟩
  exact bind_eq_some_iff.mpr ⟨_, o.preposition.ofText?_text,
    bind_eq_some_iff.mpr ⟨_, h.source.ofLooseJson?_toJson,
      bind_eq_some_iff.mpr ⟨_, Expression.Canonical.optional?_toJson h.filter, rfl⟩⟩⟩

end Object

namespace Command

structure Canonical (c : Command) : Prop where
  result : c.result.Canonical
  object : c.object.Canonical
  guard : ∀ e ∈ c.guard, e.Canonical

theorem canonical_of_ofJson? {j : Json} {c : Command} (h : ofJson? j = some c) : c.Canonical := by
  obtain ⟨members, -, h⟩ := bind_eq_some_iff.mp h
  split at h
  · obtain ⟨action, -, h⟩ := bind_eq_some_iff.mp h
    obtain ⟨result, hresult, h⟩ := bind_eq_some_iff.mp h
    obtain ⟨object, hobject, h⟩ := bind_eq_some_iff.mp h
    obtain ⟨guard, hguard, h⟩ := bind_eq_some_iff.mp h
    cases h
    exact ⟨Json.of_required? (fun _ _ => Target.canonical_of_ofJson?) hresult,
      Json.of_required? (fun _ _ => Object.canonical_of_ofJson?) hobject,
      Json.of_optional? (fun _ _ => Expression.canonical_of_ofLooseJson?) hguard⟩
  · cases h

/-- The members of a command. -/
def fields (c : Command) : List (String × Option Json) :=
  [("action", some (.string c.action)), ("result", some c.result.toJson),
    ("object", some c.object.toJson),
    ("when", c.guard.map Expression.toJson)]

theorem members_eq (c : Command) : c.members = present c.fields := by
  rw [members, Json.optionalMember_eq]
  rfl

theorem Canonical.ofJson?_members {c : Command} (h : c.Canonical) :
    ofJson? (.object (present c.fields)) = some c := by
  refine bind_eq_some_iff.mpr ⟨_, members?_present (by decide) (by rfl) 3, ?_⟩
  exact bind_eq_some_iff.mpr ⟨_, rfl,
    bind_eq_some_iff.mpr ⟨_, h.result.ofJson?_toJson,
      bind_eq_some_iff.mpr ⟨_, h.object.ofJson?_toJson,
        bind_eq_some_iff.mpr ⟨_, Expression.Canonical.optional?_toJson h.guard, rfl⟩⟩⟩⟩

end Command

namespace Pattern

/-- Values that come back from JSON, and bounds that are numbers. -/
def Canonical : Pattern → Prop
  | .literal v => Value.ofJson v.toJson = v
  | .range low high => low.isFinite = true ∧ high.isFinite = true
  | .regex _ => True

theorem isFinite_of_float? {o : Option Json} {x : Float} (h : Json.required? float? o = some x) :
    x.isFinite = true := by
  refine Json.of_required? (P := fun x => x.isFinite = true) ?_ h
  intro j x hx
  cases j with
  | number n =>
    cases hx
    exact n.isFinite_toFloat
  | _ => cases hx

theorem canonical_of_ofJson? {j : Json} {p : Pattern} (h : ofJson? j = some p) : p.Canonical := by
  obtain ⟨⟨kind, body⟩, -, h⟩ := bind_eq_some_iff.mp h
  split at h
  · cases h
    exact Value.ofJson_toJson_ofJson _
  · obtain ⟨members, -, h⟩ := bind_eq_some_iff.mp h
    split at h
    · obtain ⟨low, hlow, h⟩ := bind_eq_some_iff.mp h
      obtain ⟨high, hhigh, h⟩ := bind_eq_some_iff.mp h
      cases h
      exact ⟨isFinite_of_float? hlow, isFinite_of_float? hhigh⟩
    · cases h
  · obtain ⟨members, -, h⟩ := bind_eq_some_iff.mp h
    split at h
    · obtain ⟨text, -, h⟩ := bind_eq_some_iff.mp h
      cases h
      trivial
    · cases h
  · cases h

theorem float?_float {x : Float} (h : x.isFinite = true) : float? (.float x) = some x := by
  rw [Json.float, dif_pos h]
  rfl

theorem Canonical.ofJson?_toJson {p : Pattern} (h : p.Canonical) : ofJson? p.toJson = some p := by
  cases p with
  | literal v => exact congrArg (fun v => some (Pattern.literal v)) h
  | range low high =>
    have hfields : [("low", Json.float low), ("high", Json.float high)] =
        present [("low", some (.float low)), ("high", some (.float high))] := rfl
    rw [toJson, hfields, ofJson?]
    refine bind_eq_some_iff.mpr ⟨_, rfl, ?_⟩
    refine bind_eq_some_iff.mpr ⟨_, members?_present (by decide) (by rfl) 2, ?_⟩
    exact bind_eq_some_iff.mpr ⟨_, float?_float h.1,
      bind_eq_some_iff.mpr ⟨_, float?_float h.2, rfl⟩⟩
  | regex text => rfl

end Pattern

namespace Statement

theorem toItems_eq_map (items : List Statement) : toItems items = items.map toJson := by
  induction items with
  | nil => rfl
  | cons s items ih => rw [toItems, ih, List.map_cons]

theorem toCases_eq_map (cases : List (Case Statement)) : toCases cases = cases.map toCase := by
  induction cases with
  | nil => rfl
  | cons c cases ih => rw [toCases, ih, List.map_cons]

/-- A block as JSON. -/
def toBlock (body : List Statement) : Json := .array (body.map toJson)

theorem toCase_eq (c : Case Statement) : toCase c = .object (present
    [("pattern", some c.pattern.toJson), ("where", c.guard.map Expression.toJson),
      ("body", some (toBlock c.body))]) := by
  obtain ⟨pattern, guard, body⟩ := c
  rw [toCase, Json.optionalMember_eq, toItems_eq_map]
  change Json.object (present [("pattern", some pattern.toJson)] ++ _ ++
    present [("body", some (toBlock body))]) = _
  rw [← Json.present_append, ← Json.present_append]
  rfl

theorem toOtherwise_eq (otherwise : Option (List Statement)) :
    toOtherwise otherwise = present [("otherwise", otherwise.map toBlock)] := by
  cases otherwise with
  | none => rfl
  | some body =>
    rw [toOtherwise, toItems_eq_map]
    rfl

inductive Canonical : Statement → Prop where
  | act {c : Command} (h : c.Canonical) : Canonical (.act c)
  | choose {subject : Expression} {cases : List (Case Statement)}
      {otherwise : Option (List Statement)} (hsubject : subject.Canonical)
      (hpatterns : ∀ c ∈ cases, c.pattern.Canonical)
      (hguards : ∀ c ∈ cases, ∀ e ∈ c.guard, e.Canonical)
      (hbodies : ∀ c ∈ cases, ∀ s ∈ c.body, Canonical s)
      (hotherwise : ∀ body ∈ otherwise, ∀ s ∈ body, Canonical s) :
      Canonical (.choose subject cases otherwise)
  | forEach (item : String) (index : Option String) {collection : Expression}
      {filter : Option Expression} {body : List Statement} (hcollection : collection.Canonical)
      (hfilter : ∀ e ∈ filter, e.Canonical) (hbody : ∀ s ∈ body, Canonical s) :
      Canonical (.forEach item index collection filter body)

theorem of_caseOfJson? {statement? : Json → Option Statement} {P : Statement → Prop}
    (hs : ∀ j s, statement? j = some s → P s) {j : Json} {c : Case Statement}
    (h : caseOfJson? statement? j = some c) :
    c.pattern.Canonical ∧ (∀ e ∈ c.guard, e.Canonical) ∧ ∀ s ∈ c.body, P s := by
  obtain ⟨members, -, h⟩ := bind_eq_some_iff.mp h
  split at h
  · obtain ⟨pattern, hpattern, h⟩ := bind_eq_some_iff.mp h
    obtain ⟨guard, hguard, h⟩ := bind_eq_some_iff.mp h
    obtain ⟨body, hbody, h⟩ := bind_eq_some_iff.mp h
    cases h
    exact ⟨Json.of_required? (fun _ _ => Pattern.canonical_of_ofJson?) hpattern,
      Json.of_optional? (fun _ _ => Expression.canonical_of_ofLooseJson?) hguard,
      Json.of_required? (fun _ _ => Json.of_list? hs) hbody⟩
  · cases h

theorem canonical_of_read? {inner : Bool} {nesting : Nat} {j : Json} {s : Statement}
    (h : read? inner nesting j = some s) : s.Canonical := by
  induction nesting generalizing inner j s with
  | zero => cases h
  | succ nesting ih =>
    rw [read?] at h
    obtain ⟨⟨kind, body⟩, -, h⟩ := bind_eq_some_iff.mp h
    split at h
    · obtain ⟨c, hc, h⟩ := bind_eq_some_iff.mp h
      cases h
      exact .act (Command.canonical_of_ofJson? hc)
    · obtain ⟨members, -, h⟩ := bind_eq_some_iff.mp h
      split at h
      · obtain ⟨subject, hsubject, h⟩ := bind_eq_some_iff.mp h
        obtain ⟨cases, hcases, h⟩ := bind_eq_some_iff.mp h
        obtain ⟨otherwise, hotherwise, h⟩ := bind_eq_some_iff.mp h
        cases h
        have hall := Json.of_required? (fun _ _ => Json.of_list? fun _ _ =>
          of_caseOfJson? fun _ _ => ih) hcases
        exact .choose (Json.of_required? (fun _ _ => Expression.canonical_of_ofLooseJson?) hsubject)
          (fun c hc => (hall c hc).1) (fun c hc => (hall c hc).2.1) (fun c hc => (hall c hc).2.2)
          (Json.of_optional? (fun _ _ => Json.of_list? fun _ _ => ih) hotherwise)
      · cases h
    · obtain ⟨members, -, h⟩ := bind_eq_some_iff.mp h
      split at h
      · obtain ⟨item, -, h⟩ := bind_eq_some_iff.mp h
        obtain ⟨index, -, h⟩ := bind_eq_some_iff.mp h
        obtain ⟨collection, hcollection, h⟩ := bind_eq_some_iff.mp h
        obtain ⟨filter, hfilter, h⟩ := bind_eq_some_iff.mp h
        obtain ⟨body, hbody, h⟩ := bind_eq_some_iff.mp h
        cases h
        exact .forEach item index
          (Json.of_required? (fun _ _ => Expression.canonical_of_ofLooseJson?) hcollection)
          (Json.of_optional? (fun _ _ => Expression.canonical_of_ofLooseJson?) hfilter)
          (Json.of_required? (fun _ _ => Json.of_list? fun _ _ => ih) hbody)
      · cases h

section Writing

variable {inner : Bool} {nesting : Nat}

/-- A statement is written with its kind first. -/
theorem split?_present {text : String} {kind : Kind} (hkind : Kind.ofName? text = some kind)
    (names : List String) (hnames : "kind" ∉ names) {fields : List (String × Option Json)}
    (hfields : fields.map (·.1) = names) :
    split? inner (.object (present (("kind", some (.string text)) :: fields))) =
      some (kind, .object (present fields)) := by
  have hother : ∀ m ∈ present fields, m.1 ≠ "kind" := by
    intro m hm heq
    exact hnames (hfields ▸ heq ▸ Json.mem_names_of_mem_present hm)
  have hnone : (present fields).filter (·.1 == "kind") = [] := by
    rw [List.filter_eq_nil_iff]
    intro m hm hbeq
    exact hother m hm (eq_of_beq hbeq)
  have hall : (present fields).filter (·.1 != "kind") = present fields := by
    rw [List.filter_eq_self]
    intro m hm
    exact bne_iff_ne.mpr (hother m hm)
  have hfirst : (("kind", Json.string text) :: present fields).filter (·.1 == "kind") =
      [("kind", .string text)] :=
    congrArg (("kind", Json.string text) :: ·) hnone
  have hrest : (("kind", Json.string text) :: present fields).filter (·.1 != "kind") =
      present fields := hall
  rw [Json.present_some, split?, hfirst, hrest]
  exact Option.map_eq_some_iff.mpr ⟨kind, hkind, rfl⟩

theorem toJson_act (c : Command) :
    toJson (.act c) = .object (present (("kind", some (.string "aro")) :: c.fields)) := by
  rw [toJson, c.members_eq]
  rfl

theorem toJson_choose (subject : Expression) (cases : List (Case Statement))
    (otherwise : Option (List Statement)) :
    toJson (.choose subject cases otherwise) = .object (present [("kind", some (.string "match")),
      ("subject", some subject.toJson), ("cases", some (.array (cases.map toCase))),
      ("otherwise", otherwise.map toBlock)]) := by
  rw [toJson, toCases_eq_map, toOtherwise_eq]
  rfl

theorem toJson_forEach (item : String) (index : Option String) (collection : Expression)
    (filter : Option Expression) (body : List Statement) :
    toJson (.forEach item index collection filter body) = .object (present
      [("kind", some (.string "forEach")), ("item", some (.string item)),
        ("index", index.map .string), ("collection", some collection.toJson),
        ("where", filter.map Expression.toJson), ("body", some (toBlock body))]) := by
  rw [toJson, Json.optionalMember_eq, Json.optionalMember_eq, toItems_eq_map]
  change Json.object
    (present [("kind", some (.string "forEach")), ("item", some (.string item))] ++ _ ++
      present [("collection", some collection.toJson)] ++ _ ++
      present [("body", some (toBlock body))]) = _
  rw [← Json.present_append, ← Json.present_append, ← Json.present_append, ← Json.present_append]
  rfl

theorem caseOfJson?_toCase {statement? : Json → Option Statement} {c : Case Statement}
    (hpattern : c.pattern.Canonical) (hguard : ∀ e ∈ c.guard, e.Canonical)
    (hbody : (toBlock c.body).list? statement? = some c.body) :
    caseOfJson? statement? (toCase c) = some c := by
  rw [toCase_eq, caseOfJson?]
  refine bind_eq_some_iff.mpr ⟨_, members?_present (by decide) (by rfl) 3, ?_⟩
  exact bind_eq_some_iff.mpr ⟨_, hpattern.ofJson?_toJson,
    bind_eq_some_iff.mpr ⟨_, Expression.Canonical.optional?_toJson hguard,
      bind_eq_some_iff.mpr ⟨_, hbody, rfl⟩⟩⟩

/-- A block is read if each of its statements is, given nesting enough. -/
theorem list?_toBlock {body : List Statement}
    (h : ∀ s ∈ body, ∀ {inner : Bool} {nesting : Nat},
      s.toJson.depth < nesting → read? inner nesting s.toJson = some s)
    (hdepth : (toBlock body).depth ≤ nesting) :
    (toBlock body).list? (read? true nesting) = some body := by
  apply Json.list?_array_map
  intro s hs
  have hlt : s.toJson.depth < (toBlock body).depth := Json.depth_lt_array_map hs
  exact h s hs (by omega)

/-- A statement is read as it is written, given nesting enough. -/
theorem Canonical.read?_toJson {s : Statement} (h : s.Canonical)
    (hdepth : s.toJson.depth < nesting) :
    read? inner nesting s.toJson = some s := by
  induction h generalizing inner nesting with
  | @act c h =>
    obtain ⟨nesting, rfl⟩ := Nat.exists_eq_add_one_of_ne_zero (Nat.ne_zero_of_lt hdepth)
    rw [toJson_act, read?]
    refine bind_eq_some_iff.mpr
      ⟨_, split?_present rfl ["action", "result", "object", "when"] (by decide) rfl, ?_⟩
    exact bind_eq_some_iff.mpr ⟨c, h.ofJson?_members, rfl⟩
  | @choose subject cases otherwise hsubject hpatterns hguards hbodies hotherwise ihbodies
      ihotherwise =>
    obtain ⟨nesting, rfl⟩ := Nat.exists_eq_add_one_of_ne_zero (Nat.ne_zero_of_lt hdepth)
    rw [toJson_choose] at hdepth ⊢
    rw [read?]
    refine bind_eq_some_iff.mpr
      ⟨_, split?_present rfl ["subject", "cases", "otherwise"] (by decide) rfl, ?_⟩
    refine bind_eq_some_iff.mpr ⟨_, members?_present (by decide) (by rfl) 2, ?_⟩
    have hpart := Json.depth_lt_of_present hdepth
    have hcases : (Json.array (cases.map toCase)).list? (caseOfJson? (read? true nesting)) =
        some cases := by
      apply Json.list?_array_map
      intro c hc
      have hlt := Json.depth_lt_array_map (g := toCase) hc
      have hle := hpart "cases" (j := .array (cases.map toCase)) (by simp)
      have hcase : (toCase c).depth < nesting := by omega
      rw [toCase_eq] at hcase
      have hbody := Json.depth_lt_of_present hcase "body" (j := toBlock c.body) (by simp)
      exact caseOfJson?_toCase (hpatterns c hc) (hguards c hc)
        (list?_toBlock (ihbodies c hc) (by omega))
    have hother : Json.optional? (Json.list? (read? true nesting)) (otherwise.map toBlock) =
        some otherwise := by
      refine Json.optional?_map nofun ?_
      intro body hbody
      have hmem : some (toBlock body) = otherwise.map toBlock := by
        rw [hbody]
        rfl
      have hle := hpart "otherwise" (j := toBlock body) (by simp [hmem])
      exact list?_toBlock (ihotherwise body hbody) (by omega)
    exact bind_eq_some_iff.mpr ⟨_, hsubject.ofLooseJson?_toJson,
      bind_eq_some_iff.mpr ⟨_, hcases, bind_eq_some_iff.mpr ⟨_, hother, rfl⟩⟩⟩
  | @forEach item index collection filter body hcollection hfilter hbody ih =>
    obtain ⟨nesting, rfl⟩ := Nat.exists_eq_add_one_of_ne_zero (Nat.ne_zero_of_lt hdepth)
    rw [toJson_forEach] at hdepth ⊢
    rw [read?]
    refine bind_eq_some_iff.mpr
      ⟨_, split?_present rfl ["item", "index", "collection", "where", "body"] (by decide) rfl, ?_⟩
    refine bind_eq_some_iff.mpr ⟨_, members?_present (by decide) (by rfl) 5, ?_⟩
    have hindex : Json.optional? Json.string? (index.map .string) = some index :=
      Json.optional?_map nofun fun _ _ => rfl
    have hblock : (toBlock body).list? (read? true nesting) = some body := by
      have hle := Json.depth_lt_of_present hdepth "body" (j := toBlock body) (by simp)
      exact list?_toBlock ih (by omega)
    exact bind_eq_some_iff.mpr ⟨_, rfl, bind_eq_some_iff.mpr ⟨_, hindex,
      bind_eq_some_iff.mpr ⟨_, hcollection.ofLooseJson?_toJson,
        bind_eq_some_iff.mpr ⟨_, Expression.Canonical.optional?_toJson hfilter,
          bind_eq_some_iff.mpr ⟨_, hblock, rfl⟩⟩⟩⟩⟩

end Writing

end Statement

namespace FeatureSet

def Canonical (f : FeatureSet) : Prop := ∀ s ∈ f.statements, s.Canonical

theorem canonical_of_ofJson? {j : Json} {f : FeatureSet} (h : ofJson? j = some f) :
    f.Canonical := by
  obtain ⟨members, -, h⟩ := bind_eq_some_iff.mp h
  split at h
  · obtain ⟨name, -, h⟩ := bind_eq_some_iff.mp h
    obtain ⟨activity, -, h⟩ := bind_eq_some_iff.mp h
    obtain ⟨statements, hstatements, h⟩ := bind_eq_some_iff.mp h
    cases h
    exact Json.of_orElse? (P := fun statements => ∀ s ∈ statements, s.Canonical)
      (fun _ _ => Json.of_list? fun _ _ => Statement.canonical_of_read?) nofun hstatements
  · cases h

theorem Canonical.ofJson?_toJson {f : FeatureSet} (h : f.Canonical) :
    ofJson? f.toJson = some f := by
  have hfields : f.toJson = .object (present [("name", some (.string f.name)),
      ("businessActivity", some (.string f.activity)),
      ("statements", some (Statement.toBlock f.statements))]) := by
    rw [toJson, Statement.toItems_eq_map]
    rfl
  have hstatements : (Statement.toBlock f.statements).list? Statement.ofJson? = some f.statements :=
    Json.list?_array_map fun s hs => (h s hs).read?_toJson (Nat.lt_succ_self _)
  rw [hfields, ofJson?]
  refine bind_eq_some_iff.mpr ⟨_, members?_present (by decide) (by rfl) 1, ?_⟩
  exact bind_eq_some_iff.mpr ⟨_, rfl, bind_eq_some_iff.mpr ⟨_, rfl,
    bind_eq_some_iff.mpr ⟨_, hstatements, rfl⟩⟩⟩

end FeatureSet

namespace Application

def Canonical (a : Application) : Prop := ∀ f ∈ a.featureSets, f.Canonical

theorem canonical_of_ofJson? {j : Json} {a : Application} (h : ofJson? j = some a) :
    a.Canonical := by
  obtain ⟨members, -, h⟩ := bind_eq_some_iff.mp h
  split at h
  · obtain ⟨name, -, h⟩ := bind_eq_some_iff.mp h
    obtain ⟨featureSets, hfeatureSets, h⟩ := bind_eq_some_iff.mp h
    cases h
    exact Json.of_orElse? (P := fun featureSets => ∀ f ∈ featureSets, f.Canonical)
      (fun _ _ => Json.of_list? fun _ _ => FeatureSet.canonical_of_ofJson?) nofun hfeatureSets
  · cases h

theorem Canonical.ofJson?_toJson {a : Application} (h : a.Canonical) :
    ofJson? a.toJson = some a := by
  have hfields : a.toJson = .object (present
      [("name", some (.string a.name)),
        ("featureSets", some (.array (a.featureSets.map FeatureSet.toJson)))]) := rfl
  have hfeatureSets : (Json.array (a.featureSets.map FeatureSet.toJson)).list? FeatureSet.ofJson? =
      some a.featureSets :=
    Json.list?_array_map fun f hf => (h f hf).ofJson?_toJson
  rw [hfields, ofJson?]
  refine bind_eq_some_iff.mpr ⟨_, members?_present (by decide) (by rfl) 0, ?_⟩
  exact bind_eq_some_iff.mpr ⟨_, rfl, bind_eq_some_iff.mpr ⟨_, hfeatureSets, rfl⟩⟩

/-- Whatever document an application is read from, it is written as a document from which it is read
again, and from then on it is written the same. -/
theorem documents_round_trip :
    (∀ (j : Json) (a : Application), ofJson? j = some a →
      ofJson? a.toJson = some a ∧ (ofJson? a.toJson).map toJson = some a.toJson) ∧
    ∀ (text : String) (a : Application), read? text = some a →
      ofJson? a.toJson = some a ∧ (ofJson? a.toJson).map toJson = some a.toJson := by
  have hround {j : Json} {a : Application} (h : ofJson? j = some a) :
      ofJson? a.toJson = some a ∧ (ofJson? a.toJson).map toJson = some a.toJson := by
    have hagain := (canonical_of_ofJson? h).ofJson?_toJson
    refine ⟨hagain, ?_⟩
    rw [hagain]
    rfl
  refine ⟨fun _ _ => hround, ?_⟩
  intro text a h
  obtain ⟨j, -, hj⟩ := bind_eq_some_iff.mp h
  exact hround hj

/-- A document with records as arrays, members that are null or unknown, whole numbers for bounds
and for the kind of a statement, a number above the signed range and a specifier with blanks and a
sign. -/
theorem terse_document_round_trip :
    let target : Json := .array [.string "order", .null, .string " +3 - 1 "]
    let object : Json := .array [.object [("with", .null)],
      .object [("literal", .number (.wide 18446744073709551615))]]
    let create : Json := .array [.int 0, .string "Create", target, object, .null]
    let case : Json := .object
      [("body", .array [create]), ("note", .null),
        ("pattern", .object [("range", .array [.int 1, .int 10])])]
    let subject : Json := .object [("variable", .array [.string "x"])]
    let choose : Json := .object [("subject", subject), ("kind", .string "match"),
      ("cases", .array [case])]
    let j : Json := .array [.string "shop",
      .array [.object [("name", .string "f"), ("statements", .array [choose])]]]
    ∃ a, ofJson? j = some a ∧ a.name = "shop" ∧ a.toJson ≠ j ∧ ofJson? a.toJson = some a ∧
      (ofJson? a.toJson).map toJson = some a.toJson := by
  intro target object create case subject choose j
  have hname : (ofJson? j).map (·.name) = some "shop" := by decide +kernel
  obtain ⟨a, ha, hshop⟩ := Option.map_eq_some_iff.mp hname
  exact ⟨a, ha, hshop, nofun, documents_round_trip.1 j a ha⟩

end Application

end FeatureFlow
