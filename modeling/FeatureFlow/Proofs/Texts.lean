import FeatureFlow.Json.Reader
import FeatureFlow.Value.Json
import FeatureFlow.Value.Order

/-! Values and their texts. Values without doubles are equal only if they are the same. If they also
hold no instants, their texts tell all those of one kind apart. -/
namespace FeatureFlow

namespace Json

theorem hexWord?_control :
    ∀ n < 0x20, hexWord? '0' '0' (Text.hexDigit (n / 16)) (Text.hexDigit (n % 16)) = some n := by
  decide

/-- What is written for a character reads back as it. -/
theorem readString_escape (c : Char) (cs : List Char) :
    readString (escape c ++ cs) = (readString cs).map fun p => (c :: p.1, p.2) := by
  fun_cases escape c with
  | case1 hc | case2 _ hc | case3 _ _ hc | case4 _ _ _ hc | case5 _ _ _ _ hc =>
    subst c
    rfl
  | case6 _ _ _ _ _ hback =>
    have hc : c = '\x08' := Char.toNat_inj.mp hback
    subst c
    rfl
  | case7 _ _ _ _ _ _ hfeed =>
    have hc : c = '\x0c' := Char.toNat_inj.mp hfeed
    subst c
    rfl
  | case8 _ _ _ _ _ _ _ hcontrol =>
    have hword := hexWord?_control c.toNat hcontrol
    simp only [List.cons_append, List.nil_append]
    rw [readString, hword]
    dsimp only
    rw [if_pos (by omega), Char.ofNat_toNat]
  | case9 hquote hslash _ _ _ _ _ hcontrol =>
    rw [List.cons_append, readString, if_neg (by simp [hcontrol, hslash])]
    all_goals simp [hquote, hslash]

theorem readString_quoted (s rest : List Char) :
    readString (s.flatMap escape ++ '"' :: rest) = some (s, rest) := by
  induction s with
  | nil => rfl
  | cons c s ih => rw [List.flatMap_cons, List.append_assoc, readString_escape, ih, Option.map_some]

/-- A quoted text ends by itself, so it tells what was quoted. -/
theorem quoted_append_inj {s s' : String} {r r' : List Char}
    (h : (quoted s).toList ++ r = (quoted s').toList ++ r') : s = s' ∧ r = r' := by
  have hread (s : String) (r : List Char) : readString (((quoted s).toList ++ r).drop 1) =
      some (s.toList, r) := by
    rw [quoted, String.toList_ofList, List.cons_append, List.drop_one, List.tail_cons,
      List.append_assoc]
    exact readString_quoted s.toList r
  have hsame := hread s r
  rw [h, hread s' r'] at hsame
  obtain ⟨hs, hr⟩ := Prod.mk.inj (Option.some.inj hsame)
  exact ⟨String.toList_inj.mp hs.symm, hr.symm⟩

def IsEnd (c : Char) : Prop := c = ',' ∨ c = ']' ∨ c = '\x7d'

def Ended (rest : List Char) : Prop := ∀ c ∈ rest.head?, IsEnd c

theorem ended_nil : Ended [] := by
  rintro c ⟨⟩

theorem ended_cons {c : Char} {cs : List Char} (h : IsEnd c) : Ended (c :: cs) := by
  rintro _ ⟨⟩
  exact h

/-- A text in which no end stands goes up to the first one. -/
theorem append_inj_of_not_isEnd {s s' r r' : List Char} (hs : ∀ c ∈ s, ¬ IsEnd c)
    (hs' : ∀ c ∈ s', ¬ IsEnd c) (hr : Ended r) (hr' : Ended r') (h : s ++ r = s' ++ r') :
    s = s' ∧ r = r' := by
  induction s generalizing s' with
  | nil =>
    cases s' with
    | nil => exact ⟨rfl, h⟩
    | cons c s' =>
      rw [List.nil_append] at h
      exact absurd (hr c (by rw [h]; rfl)) (hs' c List.mem_cons_self)
  | cons c s ih =>
    cases s' with
    | nil =>
      rw [List.nil_append] at h
      exact absurd (hr' c (by rw [← h]; rfl)) (hs c List.mem_cons_self)
    | cons c' s' =>
      rw [List.cons_append, List.cons_append, List.cons.injEq] at h
      obtain ⟨rfl, hrest⟩ := h
      obtain ⟨rfl, hr⟩ := ih (List.forall_mem_cons.mp hs).2 (List.forall_mem_cons.mp hs').2 hrest
      exact ⟨rfl, hr⟩

section Separated

variable {α : Type} {text : α → List Char} {close : Char}

/-- Texts with commas between them: the first, and each other after a comma. -/
theorem intercalate_comma_cons (s : List Char) (texts : List (List Char)) :
    [','].intercalate (s :: texts) = s ++ texts.flatMap (',' :: ·) := by
  induction texts generalizing s with
  | nil => simp
  | cons s' texts ih => rw [List.intercalate_cons_cons, ih, List.flatMap_cons]; simp

/-- The text tells the thing, also with more after it. -/
def Tells (text : α → List Char) (a b : α) : Prop :=
  ∀ r r', Ended r → Ended r' → text a ++ r = text b ++ r' → a = b ∧ r = r'

theorem ended_flatMap (hclose : IsEnd close) (as : List α) (r : List Char) :
    Ended (as.flatMap (fun a => ',' :: text a) ++ close :: r) := by
  cases as with
  | nil => exact ended_cons hclose
  | cons a as => exact ended_cons (.inl rfl)

theorem flatMap_comma_inj (hclose : IsEnd close) (hcomma : close ≠ ',') {as bs : List α}
    (htells : ∀ a ∈ as, ∀ b ∈ bs, Tells text a b) {r r' : List Char}
    (h : as.flatMap (fun a => ',' :: text a) ++ close :: r =
      bs.flatMap (fun b => ',' :: text b) ++ close :: r') :
    as = bs ∧ r = r' := by
  induction as generalizing bs with
  | nil =>
    cases bs with
    | nil => exact ⟨rfl, (List.cons.inj h).2⟩
    | cons b bs => exact absurd (List.cons.inj h).1 hcomma
  | cons a as ih =>
    cases bs with
    | nil => exact absurd (List.cons.inj h).1.symm hcomma
    | cons b bs =>
      simp only [List.flatMap_cons, List.cons_append, List.append_assoc, List.cons.injEq,
        true_and] at h
      obtain ⟨rfl, hrest⟩ := htells a List.mem_cons_self b List.mem_cons_self _ _
        (ended_flatMap hclose as r) (ended_flatMap hclose bs r') h
      obtain ⟨rfl, hr⟩ := ih (fun a ha b hb => htells a (List.mem_cons_of_mem _ ha) b
        (List.mem_cons_of_mem _ hb)) hrest
      exact ⟨rfl, hr⟩

/-- Texts with commas between them and a bracket at the end tell the things, if each text does and
none begins with the bracket. -/
theorem intercalate_comma_inj (hclose : IsEnd close) (hcomma : close ≠ ',') {as bs : List α}
    (htells : ∀ a ∈ as, ∀ b ∈ bs, Tells text a b)
    (has : ∀ a ∈ as, ∃ c cs, text a = c :: cs ∧ c ≠ close)
    (hbs : ∀ b ∈ bs, ∃ c cs, text b = c :: cs ∧ c ≠ close) {r r' : List Char}
    (h : [','].intercalate (as.map text) ++ close :: r =
      [','].intercalate (bs.map text) ++ close :: r') :
    as = bs ∧ r = r' := by
  have hcons (a : α) (as : List α) (r : List Char) :
    [','].intercalate ((a :: as).map text) ++ close :: r =
      text a ++ (as.flatMap (fun a => ',' :: text a) ++ close :: r) := by
    rw [List.map_cons, intercalate_comma_cons, List.flatMap_map, List.append_assoc]
  cases as with
  | nil =>
    cases bs with
    | nil => exact ⟨rfl, (List.cons.inj h).2⟩
    | cons b bs =>
      obtain ⟨c, cs, hb, hc⟩ := hbs b List.mem_cons_self
      rw [hcons, hb] at h
      exact absurd (List.cons.inj h).1.symm hc
  | cons a as =>
    cases bs with
    | nil =>
      obtain ⟨c, cs, ha, hc⟩ := has a List.mem_cons_self
      rw [hcons, ha] at h
      exact absurd (List.cons.inj h).1 hc
    | cons b bs =>
      rw [hcons, hcons] at h
      obtain ⟨rfl, hrest⟩ := htells a List.mem_cons_self b List.mem_cons_self _ _
        (ended_flatMap hclose as r) (ended_flatMap hclose bs r') h
      obtain ⟨rfl, hr⟩ := flatMap_comma_inj hclose hcomma
        (fun a ha b hb => htells a (List.mem_cons_of_mem _ ha) b (List.mem_cons_of_mem _ hb)) hrest
      exact ⟨rfl, hr⟩

end Separated

end Json

namespace Value

/-- No double stands in the value, and an instant only if instants may. -/
inductive Discrete (instants : Prop) : Value → Prop where
  | null : Discrete instants .null
  | bool (b : Bool) : Discrete instants (.bool b)
  | int (n : Int64) : Discrete instants (.int n)
  | string (s : String) : Discrete instants (.string s)
  | timestamp (t : Timestamp) (h : instants) : Discrete instants (.timestamp t)
  | list {items : List Value} (h : ∀ v ∈ items, Discrete instants v) :
      Discrete instants (.list items)
  | map {fields : List (String × Value)} (h : ∀ field ∈ fields, Discrete instants field.2) :
      Discrete instants (.map fields)

variable {instants : Prop} {a b : Value}

theorem equalItems_iff {as bs : List Value} (h : ∀ a ∈ as, ∀ b, a.equal b = true ↔ a = b) :
    equalItems as bs = true ↔ as = bs := by
  induction as generalizing bs with
  | nil => cases bs <;> simp [equalItems]
  | cons a as ih =>
    obtain ⟨ha, has⟩ := List.forall_mem_cons.mp h
    cases bs with
    | nil => simp [equalItems]
    | cons b bs => rw [equalItems, Bool.and_eq_true, ha, ih has, List.cons.injEq]

theorem equalFields_iff {as bs : List (String × Value)}
    (h : ∀ a ∈ as, ∀ b, a.2.equal b = true ↔ a.2 = b) :
    equalFields as bs = true ↔ as = bs := by
  induction as generalizing bs with
  | nil => cases bs <;> simp [equalFields]
  | cons a as ih =>
    obtain ⟨ha, has⟩ := List.forall_mem_cons.mp h
    cases bs with
    | nil => simp [equalFields]
    | cons b bs =>
      rw [equalFields, Bool.and_eq_true, Bool.and_eq_true, ha, ih has, beq_iff_eq, List.cons.injEq,
        Prod.ext_iff]

/-- Without doubles, equal values are the same. -/
theorem Discrete.equal_iff (h : Discrete instants a) (b : Value) : a.equal b = true ↔ a = b := by
  induction h generalizing b with
  | list _ ih => cases b <;> simp [equal, equalItems_iff ih]
  | map _ ih => cases b <;> simp [equal, equalFields_iff ih]
  | _ => cases b <;> simp [equal]

theorem Discrete.looseEq_iff (ha : Discrete instants a) (hb : Discrete instants b) :
    a.looseEq b = true ↔ a = b := by
  have hloose : a.looseEq b = a.equal b := by
    cases ha <;> cases hb <;> rfl
  rw [hloose, ha.equal_iff]

theorem isDigit_of_mem_repr {n : Nat} {c : Char} (h : c ∈ n.repr.toList) : c.isDigit = true := by
  rw [Nat.toList_repr] at h
  exact Nat.isDigit_of_mem_toDigits (by decide) (by decide) h

theorem natRepr_inj {m n : Nat} (h : m.repr = n.repr) : m = n := by
  have hdigits : Nat.toDigits 10 m = Nat.toDigits 10 n := by
    rw [← Nat.toList_repr, ← Nat.toList_repr, h]
  rw [← @Nat.ofDigitChars_ten_toDigits m, hdigits, Nat.ofDigitChars_ten_toDigits]

theorem minus_append_ne_repr {s : String} (n : Nat) : "-" ++ s ≠ n.repr := by
  intro h
  have hmem : '-' ∈ n.repr.toList := by rw [← h]; simp
  exact absurd (isDigit_of_mem_repr hmem) (by decide)

theorem intText_inj {m n : Int} (h : toString m = toString n) : m = n := by
  rw [Int.toString_eq_repr, Int.toString_eq_repr, Int.repr_eq_if, Int.repr_eq_if] at h
  by_cases hm : 0 ≤ m <;> by_cases hn : 0 ≤ n
  · rw [if_pos hm, if_pos hn] at h
    have := natRepr_inj h
    omega
  · rw [if_pos hm, if_neg hn] at h
    exact absurd h.symm (minus_append_ne_repr _)
  · rw [if_neg hm, if_pos hn] at h
    exact absurd h (minus_append_ne_repr _)
  · rw [if_neg hm, if_neg hn] at h
    have := natRepr_inj ((String.append_right_inj "-").mp h)
    omega

theorem mem_intText {n : Int} {c : Char} (h : c ∈ (toString n).toList) :
    c.isDigit = true ∨ c = '-' := by
  rw [Int.toString_eq_repr, Int.repr_eq_if] at h
  by_cases hn : 0 ≤ n
  · rw [if_pos hn] at h
    exact .inl (isDigit_of_mem_repr h)
  · rw [if_neg hn, String.toList_append] at h
    rcases List.mem_append.mp h with hminus | hdigit
    · exact .inr (by simpa using hminus)
    · exact .inl (isDigit_of_mem_repr hdigit)

theorem intText_ne_nil (n : Int) : (toString n).toList ≠ [] := by
  rw [Int.toString_eq_repr, Int.repr_eq_if]
  by_cases hn : 0 ≤ n
  · rw [if_pos hn, Nat.toList_repr]
    exact Nat.toDigits_ne_nil
  · rw [if_neg hn]
    simp

/-- The JSON text. -/
def written (v : Value) : List Char := v.toJson.render.toList

def writtenField (field : String × Value) : List Char :=
  (Json.quoted field.1).toList ++ ':' :: written field.2

theorem renderItems_toItems (items : List Value) :
    (Json.renderItems (toItems items)).map String.toList = items.map written := by
  induction items with
  | nil => rfl
  | cons v items ih => rw [toItems, Json.renderItems, List.map_cons, List.map_cons, ih, written]

theorem renderMembers_toMembers (fields : List (String × Value)) :
    (Json.renderMembers (toMembers fields)).map String.toList = fields.map writtenField := by
  induction fields with
  | nil => rfl
  | cons field fields ih =>
    rw [toMembers, Json.renderMembers, List.map_cons, List.map_cons, ih, writtenField, written]
    simp

theorem written_list (items : List Value) :
    written (.list items) = '[' :: ([','].intercalate (items.map written) ++ [']']) := by
  rw [written, toJson, Json.render, String.toList_append, String.toList_append,
    String.toList_intercalate,
    renderItems_toItems]
  rfl

theorem written_map (fields : List (String × Value)) :
    written (.map fields) = '\x7b' :: ([','].intercalate (fields.map writtenField) ++
      ['\x7d']) := by
  rw [written, toJson, Json.render, String.toList_append, String.toList_append,
    String.toList_intercalate,
    renderMembers_toMembers]
  rfl

/-- The kind that the first character of a text tells. -/
def kindOf (c : Char) : String :=
  if c = 'n' then "null" else if c = 't' ∨ c = 'f' then "bool" else if c.isDigit ∨
    c = '-' then "int"
  else if c = '"' then "string" else if c = '[' then "list" else if c = '\x7b' then "map" else ""

theorem kindOf_numeral {c : Char} (h : c.isDigit = true ∨ c = '-') : kindOf c = "int" := by
  have hne (d : Char) (hd : d.isDigit = false ∧ d ≠ '-') : c ≠ d := by
    rintro rfl
    simp [hd] at h
  rw [kindOf, if_neg (hne 'n' (by decide)), if_neg, if_pos h]
  exact not_or.mpr ⟨hne 't' (by decide), hne 'f' (by decide)⟩

theorem not_isEnd_numeral {c : Char} (h : c.isDigit = true ∨ c = '-') : ¬ Json.IsEnd c := by
  rintro (rfl | rfl | rfl) <;> revert h <;> decide

theorem Discrete.head_written (h : Discrete False a) :
    ∃ c cs, written a = c :: cs ∧ kindOf c = a.typeName := by
  cases h with
  | null => exact ⟨'n', _, rfl, rfl⟩
  | bool b => cases b <;> exact ⟨_, _, rfl, rfl⟩
  | int n =>
    obtain ⟨c, cs, hcons⟩ := List.exists_cons_of_ne_nil (intText_ne_nil n.toInt)
    exact ⟨c, cs, hcons, kindOf_numeral (mem_intText (by rw [hcons]; exact List.mem_cons_self))⟩
  | string s => exact ⟨'"', _, String.toList_ofList, rfl⟩
  | timestamp _ h => exact h.elim
  | list _ => exact ⟨'[', _, written_list _, rfl⟩
  | map _ => exact ⟨'\x7b', _, written_map _, rfl⟩

theorem typeName_ne_empty (v : Value) : v.typeName ≠ "" := by
  cases v <;> simp [typeName]

theorem Discrete.head_written_ne (h : Discrete False a) {close : Char} (hclose : Json.IsEnd close) :
    ∃ c cs, written a = c :: cs ∧ c ≠ close := by
  obtain ⟨c, cs, hcons, hkind⟩ := h.head_written
  refine ⟨c, cs, hcons, ?_⟩
  rintro rfl
  have hempty : kindOf c = "" := by
    rcases hclose with rfl | rfl | rfl <;> rfl
  exact typeName_ne_empty a (hkind.symm.trans hempty)

theorem typeName_eq_of_written (ha : Discrete False a) (hb : Discrete False b) {r r' : List Char}
    (h : written a ++ r = written b ++ r') : a.typeName = b.typeName := by
  obtain ⟨c, cs, hca, hka⟩ := ha.head_written
  obtain ⟨d, ds, hdb, hkb⟩ := hb.head_written
  rw [hca, hdb] at h
  rw [← hka, ← hkb, (List.cons.inj h).1]

/-- The text of a field tells it if the text of its value does. -/
theorem tells_writtenField {f g : String × Value} (h : Json.Tells written f.2 g.2) :
    Json.Tells writtenField f g := by
  intro r r' hr hr' heq
  rw [writtenField, writtenField, List.append_assoc, List.append_assoc] at heq
  obtain ⟨hname, hrest⟩ := Json.quoted_append_inj heq
  obtain ⟨hvalue, hr⟩ := h r r' hr hr' (List.cons.inj hrest).2
  exact ⟨Prod.ext hname hvalue, hr⟩

/-- Without doubles and instants, the JSON text of a value tells it. -/
theorem Discrete.tells_written (ha : Discrete False a) (hb : Discrete False b) :
    Json.Tells written a b := by
  intro r r' hr hr' h
  have hkind := typeName_eq_of_written ha hb h
  induction ha generalizing b r r' with
  | null =>
    cases hb with
    | null => exact ⟨rfl, List.append_cancel_left h⟩
    | _ => simp [typeName] at hkind
  | bool x =>
    cases hb with
    | bool y =>
      cases x <;> cases y
      · exact ⟨rfl, List.append_cancel_left h⟩
      · cases (List.cons.inj h).1
      · cases (List.cons.inj h).1
      · exact ⟨rfl, List.append_cancel_left h⟩
    | _ => simp [typeName] at hkind
  | int m =>
    cases hb with
    | int n =>
      obtain ⟨htext, hr⟩ := Json.append_inj_of_not_isEnd
        (fun c hc => not_isEnd_numeral (mem_intText hc))
        (fun c hc => not_isEnd_numeral (mem_intText hc)) hr hr' h
      have hn : m = n := Int64.toInt_inj.mp (intText_inj (String.toList_inj.mp htext))
      exact ⟨hn ▸ rfl, hr⟩
    | _ => simp [typeName] at hkind
  | string s =>
    cases hb with
    | string s' =>
      obtain ⟨hs, hr⟩ := Json.quoted_append_inj h
      exact ⟨hs ▸ rfl, hr⟩
    | _ => simp [typeName] at hkind
  | timestamp _ hno => exact hno.elim
  | @list items hitems ih =>
    cases hb with
    | @list items' hitems' =>
      have hend : Json.IsEnd ']' := .inr (.inl rfl)
      have htells : ∀ v ∈ items, ∀ w ∈ items', Json.Tells written v w := by
        intro v hv w hw s s' hs hs' heq
        exact ih v hv (hitems' w hw) s s' hs hs' heq
          (typeName_eq_of_written (hitems v hv) (hitems' w hw) heq)
      simp only [written_list, List.cons_append, List.append_assoc, List.cons.injEq, true_and] at h
      obtain ⟨rfl, hr⟩ := Json.intercalate_comma_inj hend (by decide) htells
        (fun v hv => (hitems v hv).head_written_ne hend)
          (fun v hv => (hitems' v hv).head_written_ne hend) h
      exact ⟨rfl, hr⟩
    | _ => simp [typeName] at hkind
  | @map fields hfields ih =>
    cases hb with
    | @map fields' hfields' =>
      have hend : Json.IsEnd '\x7d' := .inr (.inr rfl)
      have hquote (field : String × Value) : ∃ c cs, writtenField field = c :: cs ∧ c ≠ '\x7d' :=
        ⟨'"', _, by rw [writtenField, Json.quoted, String.toList_ofList, List.cons_append],
          by decide⟩
      have htells : ∀ f ∈ fields, ∀ g ∈ fields', Json.Tells writtenField f g := by
        intro f hf g hg
        apply tells_writtenField
        intro s s' hs hs' heq
        exact ih f hf (hfields' g hg) s s' hs hs' heq
          (typeName_eq_of_written (hfields f hf) (hfields' g hg) heq)
      simp only [written_map, List.cons_append, List.append_assoc, List.cons.injEq, true_and] at h
      obtain ⟨rfl, hr⟩ := Json.intercalate_comma_inj hend (by decide) htells
        (fun field _ => hquote field)
        (fun field _ => hquote field) h
      exact ⟨rfl, hr⟩
    | _ => simp [typeName] at hkind

/-- Only a string is shown otherwise than it is written. -/
theorem Discrete.display_eq (h : Discrete False a) (hs : a.typeName ≠ "string") :
    a.display = a.toJson.render := by
  cases h with
  | string s => exact absurd rfl hs
  | timestamp _ h => exact h.elim
  | _ => rfl

/-- Without doubles and instants, what is shown of a value tells it from all others of its kind. -/
theorem Discrete.display_inj (ha : Discrete False a) (hb : Discrete False b)
    (hkind : a.typeName = b.typeName) (h : a.display = b.display) : a = b := by
  by_cases hs : a.typeName = "string"
  · cases ha <;> cases hb <;> simp_all [typeName, display]
  · rw [ha.display_eq hs, hb.display_eq (hkind ▸ hs)] at h
    have htext : written a ++ [] = written b ++ [] := by rw [written, written, h]
    exact (ha.tells_written hb [] [] Json.ended_nil Json.ended_nil htext).1

end Value

end FeatureFlow
