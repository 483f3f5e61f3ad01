import FeatureFlow.Http.Template
import FeatureFlow.Proofs.Conversions
import FeatureFlow.Proofs.Escapes
import FeatureFlow.Proofs.Records

/-! Path templates. A grammar says which texts are templates, and what is wrong with one that is
none is said of the first part that does not fit. A path with its captures filled in, escaped as it
has to be, gives the captures back. -/
namespace FeatureFlow

/-- The name of a capture. -/
def Segment.name? : Segment → Option String
  | literal _ => none
  | capture name => some name

namespace Template

open Text

variable {part name : List Char} {seg : Segment} {segs : List Segment} {seen : List String}
    {e : TemplateError}

def BraceFree (cs : List Char) : Prop := '{' ∉ cs ∧ '}' ∉ cs

/-- A part of a template and the segment it stands for. -/
inductive Spells : List Char → Segment → Prop where
  | literal {part : List Char} (h : BraceFree part) : Spells part (.literal (String.ofList part))
  | capture {name : List Char} (hne : name ≠ []) (h : BraceFree name) :
    Spells ('{' :: (name ++ ['}'])) (.capture (String.ofList name))

inductive SpellsAll : List (List Char) → List Segment → Prop where
  | nil : SpellsAll [] []
  | cons {part : List Char} {seg : Segment} {parts : List (List Char)} {segs : List Segment}
      (h : Spells part seg) (hrest : SpellsAll parts segs) : SpellsAll (part :: parts) (seg :: segs)

/-- The names of the captures in their order. -/
def captures (segs : List Segment) : List String := segs.filterMap Segment.name?

/-- What is wrong with a part that comes after captures with the names `seen`. -/
inductive Offends (seen : List String) : List Char → TemplateError → Prop where
  | empty : Offends seen ['{', '}'] .emptyCapture
  | mixed {part : List Char} (hbrace : ¬ BraceFree part)
    (hname : ∀ name, BraceFree name → part ≠ '{' :: (name ++ ['}'])) :
    Offends seen part (.partialCapture (String.ofList part))
  | repeated {name : List Char} (hne : name ≠ []) (h : BraceFree name)
      (hseen : String.ofList name ∈ seen) :
    Offends seen ('{' :: (name ++ ['}'])) (.duplicateCapture (String.ofList name))

theorem hasBrace_eq_false_iff {cs : List Char} : hasBrace cs = false ↔ BraceFree cs := by
  rw [hasBrace, List.any_eq_false]
  constructor
  · intro h
    exact ⟨fun hmem => h _ hmem rfl, fun hmem => h _ hmem rfl⟩
  · rintro ⟨hopen, hclose⟩ c hc hbrace
    rcases Bool.or_eq_true_iff.mp hbrace with heq | heq
    · exact hopen (eq_of_beq heq ▸ hc)
    · exact hclose (eq_of_beq heq ▸ hc)

theorem unwrap?_eq_some_iff : unwrap? part = some name ↔ part = '{' :: (name ++ ['}']) := by
  constructor
  · intro h
    unfold unwrap? at h
    split at h
    · rename_i rest
      split at h
      · rename_i hlast
        obtain ⟨init, rfl⟩ := List.getLast?_eq_some_iff.mp hlast
        rw [List.dropLast_concat] at h
        cases h
        rfl
      · cases h
    · cases h
  · rintro rfl
    rw [unwrap?, if_pos (by simp), List.dropLast_concat]

theorem unwrap?_of_braceFree (h : BraceFree part) : unwrap? part = none := by
  cases hunwrap : unwrap? part with
  | none => rfl
  | some name =>
    rw [unwrap?_eq_some_iff] at hunwrap
    exact absurd (hunwrap ▸ List.mem_cons_self) h.1

theorem parsePart_of_spells (h : Spells part seg) : parsePart part = .ok seg := by
  cases h with
  | literal h =>
    rw [parsePart, unwrap?_of_braceFree h]
    simp [hasBrace_eq_false_iff.mpr h]
  | @capture name hne h =>
    rw [parsePart, unwrap?_eq_some_iff.mpr rfl]
    cases name with
    | nil => exact absurd rfl hne
    | cons c name => simp [hasBrace_eq_false_iff.mpr h]

/-- A part that stands for no segment is wrong by itself. -/
theorem parsePart_cases (part : List Char) :
    (∃ seg, Spells part seg) ∨ ∃ e, parsePart part = .error e ∧ ∀ seen, Offends seen part e := by
  cases hunwrap : unwrap? part with
  | none =>
    by_cases hfree : BraceFree part
    · exact .inl ⟨_, .literal hfree⟩
    · have hbrace : hasBrace part = true := by simpa using mt hasBrace_eq_false_iff.mp hfree
      refine .inr ⟨.partialCapture (String.ofList part), ?_, fun seen => .mixed hfree ?_⟩
      · rw [parsePart, hunwrap]
        simp [hbrace]
      · intro name _ heq
        rw [unwrap?_eq_some_iff.mpr heq] at hunwrap
        cases hunwrap
  | some name =>
    obtain rfl := unwrap?_eq_some_iff.mp hunwrap
    cases name with
    | nil => exact .inr ⟨.emptyCapture, rfl, fun seen => .empty⟩
    | cons c name =>
      by_cases hfree : BraceFree (c :: name)
      · exact .inl ⟨_, .capture (List.cons_ne_nil c name) hfree⟩
      · have hbrace : hasBrace (c :: name) = true := by
          simpa using mt hasBrace_eq_false_iff.mp hfree
        refine .inr ⟨.partialCapture (String.ofList _), ?_, fun seen => .mixed ?_ ?_⟩
        · rw [parsePart, hunwrap]
          simp [hbrace]
        · exact fun h => h.1 List.mem_cons_self
        · intro other hother heq
          have hsame : c :: name = other := List.append_cancel_right (List.cons.inj heq).2
          exact hfree (hsame ▸ hother)

theorem Offends.mono {more : List String} (h : Offends seen part e) (hsub : ∀ n ∈ seen, n ∈ more) :
    Offends more part e := by
  cases h with
  | empty => exact .empty
  | mixed hbrace hname => exact .mixed hbrace hname
  | repeated hne h hseen => exact .repeated hne h (hsub _ hseen)

section Parts

variable {parts : List (List Char)}

theorem captures_cons (seg : Segment) (segs : List Segment) :
    captures (seg :: segs) = seg.name?.toList ++ captures segs := by
  rw [captures, List.filterMap_cons, captures]
  cases seg.name? <;> rfl

theorem parseParts_cons_error (h : parsePart part = .error e) :
    parseParts seen (part :: parts) = .error e := by
  rw [parseParts, h]
  rfl

theorem parseParts_cons_ok (h : parsePart part = .ok seg) (hnew : ∀ n ∈ seg.name?, n ∉ seen) :
    parseParts seen (part :: parts) = (parseParts (seg.name?.toList ++ seen) parts).map
      (seg :: ·) := by
  rw [parseParts, h]
  cases seg with
  | literal text =>
    change (parseParts seen parts >>= _) = (parseParts seen parts).map _
    cases parseParts seen parts <;> rfl
  | capture name =>
    have hnot : name ∉ seen := hnew name rfl
    change (if name ∈ seen then _ else _) = _
    rw [if_neg hnot]
    change (parseParts (name :: seen) parts >>= _) = (parseParts (name :: seen) parts).map _
    cases parseParts (name :: seen) parts <;> rfl

theorem parseParts_cons_repeated {n : String} (h : parsePart part = .ok (.capture n))
    (hseen : n ∈ seen) :
    parseParts seen (part :: parts) = .error (.duplicateCapture n) := by
  rw [parseParts, h]
  change (if n ∈ seen then _ else _) = _
  rw [if_pos hseen]
  rfl

/-- The parts stand for these segments, whose captures have names of their own. -/
structure Reads (seen : List String) (parts : List (List Char)) (segs : List Segment) : Prop where
  spells : SpellsAll parts segs
  nodup : (captures segs).Nodup
  fresh : ∀ n ∈ captures segs, n ∉ seen

/-- The first part that does not fit, after parts that do. -/
def FirstOffence (seen : List String) (parts : List (List Char)) (e : TemplateError) : Prop :=
  ∃ before part after segs, parts = before ++ part :: after ∧ Reads seen before segs ∧
    Offends (captures segs ++ seen) part e

theorem reads_cons_iff : Reads seen (part :: parts) (seg :: segs) ↔
    Spells part seg ∧ (∀ n ∈ seg.name?, n ∉ seen) ∧
      Reads (seg.name?.toList ++ seen) parts segs := by
  constructor
  · rintro ⟨hspells, hnodup, hfresh⟩
    rw [captures_cons] at hnodup hfresh
    obtain ⟨-, hrest, hapart⟩ := List.nodup_append.mp hnodup
    cases hspells with
    | cons h hspells =>
      refine ⟨h, fun n hn => hfresh n (List.mem_append_left _ (Option.mem_toList.mpr hn)), hspells,
        hrest, ?_⟩
      intro n hn hmem
      rcases List.mem_append.mp hmem with hmem | hmem
      · exact hapart n hmem n hn rfl
      · exact hfresh n (List.mem_append_right _ hn) hmem
  · rintro ⟨h, hnew, hspells, hnodup, hfresh⟩
    refine ⟨.cons h hspells, ?_, ?_⟩
    · rw [captures_cons, List.nodup_append]
      refine ⟨?_, hnodup, ?_⟩
      · cases seg.name? <;> simp
      · rintro n hn _ hmem rfl
        exact hfresh n hmem (List.mem_append_left _ hn)
    · intro n hn
      rw [captures_cons] at hn
      rcases List.mem_append.mp hn with hn | hn
      · exact hnew n (Option.mem_toList.mp hn)
      · exact fun hmem => hfresh n hn (List.mem_append_right _ hmem)

theorem parseParts_of_reads (h : Reads seen parts segs) : parseParts seen parts = .ok segs := by
  induction parts generalizing seen segs with
  | nil =>
    cases h.spells
    rfl
  | cons part parts ih =>
    cases segs with
    | nil => cases h.spells
    | cons seg segs =>
      obtain ⟨hspells, hnew, hrest⟩ := reads_cons_iff.mp h
      rw [parseParts_cons_ok (parsePart_of_spells hspells) hnew, ih hrest]
      rfl

theorem parseParts_of_offends (h : Offends seen part e) :
    parseParts seen (part :: parts) = .error e := by
  cases h with
  | empty => exact parseParts_cons_error rfl
  | mixed hbrace hname =>
    rcases parsePart_cases part with ⟨seg, hspells⟩ | ⟨e, he, hoffends⟩
    · cases hspells with
      | literal h => exact absurd h hbrace
      | capture _ h => exact absurd rfl (hname _ h)
    · cases hoffends seen with
      | empty => exact absurd rfl (hname [] ⟨List.not_mem_nil, List.not_mem_nil⟩)
      | mixed => exact parseParts_cons_error he
      | repeated _ h => exact absurd rfl (hname _ h)
  | repeated hne h hseen =>
    exact parseParts_cons_repeated (parsePart_of_spells (.capture hne h)) hseen

theorem parseParts_of_firstOffence (h : FirstOffence seen parts e) :
    parseParts seen parts = .error e := by
  obtain ⟨before, part, after, segs, rfl, hreads, hoffends⟩ := h
  induction before generalizing seen segs with
  | nil =>
    cases hreads.spells
    exact parseParts_of_offends hoffends
  | cons first before ih =>
    cases segs with
    | nil => cases hreads.spells
    | cons seg segs =>
      obtain ⟨hspells, hnew, hrest⟩ := reads_cons_iff.mp hreads
      have hsame : Offends (captures segs ++ (seg.name?.toList ++ seen)) part e := by
        refine hoffends.mono fun n hn => ?_
        rw [captures_cons, List.mem_append, List.mem_append] at hn
        rw [List.mem_append, List.mem_append]
        rcases hn with (hn | hn) | hn
        · exact .inr (.inl hn)
        · exact .inl hn
        · exact .inr (.inr hn)
      rw [List.cons_append, parseParts_cons_ok (parsePart_of_spells hspells) hnew,
        ih segs hrest hsame]
      rfl

/-- Parts that do not all fit have a first one that does not. -/
theorem reads_or_firstOffence (seen : List String) (parts : List (List Char)) :
    (∃ segs, Reads seen parts segs) ∨ ∃ e, FirstOffence seen parts e := by
  induction parts generalizing seen with
  | nil => exact .inl ⟨[], .nil, .nil, fun _ hn => absurd hn List.not_mem_nil⟩
  | cons part parts ih =>
    have hempty : Reads seen [] [] := ⟨.nil, .nil, fun _ hn => absurd hn List.not_mem_nil⟩
    rcases parsePart_cases part with ⟨seg, hspells⟩ | ⟨e, -, hoffends⟩
    · by_cases hnew : ∀ n ∈ seg.name?, n ∉ seen
      · rcases ih (seg.name?.toList ++ seen) with ⟨segs, hreads⟩ | ⟨e, before, other, after, segs,
          rfl, hreads, hoffends⟩
        · exact .inl ⟨seg :: segs, reads_cons_iff.mpr ⟨hspells, hnew, hreads⟩⟩
        · refine .inr ⟨e, part :: before, other, after, seg :: segs, rfl,
            reads_cons_iff.mpr ⟨hspells, hnew, hreads⟩, ?_⟩
          refine hoffends.mono fun n hn => ?_
          rw [List.mem_append, List.mem_append] at hn
          rw [captures_cons, List.mem_append, List.mem_append]
          rcases hn with hn | hn | hn
          · exact .inl (.inr hn)
          · exact .inl (.inl hn)
          · exact .inr hn
      · cases hspells with
        | literal => exact absurd (fun n hn => by cases hn) hnew
        | @capture name hne h =>
          have hseen : String.ofList name ∈ seen := by
            refine Decidable.byContradiction fun hnot => hnew fun n hn => ?_
            cases hn
            exact hnot
          exact .inr ⟨_, [], _, parts, [], rfl, hempty, .repeated hne h hseen⟩
    · exact .inr ⟨e, [], part, parts, [], rfl, hempty, hoffends _⟩

theorem parseParts_ok_iff : parseParts seen parts = .ok segs ↔ Reads seen parts segs := by
  refine ⟨fun h => ?_, parseParts_of_reads⟩
  rcases reads_or_firstOffence seen parts with ⟨segs', hreads⟩ | ⟨e, hfirst⟩
  · rw [parseParts_of_reads hreads] at h
    cases h
    exact hreads
  · rw [parseParts_of_firstOffence hfirst] at h
    cases h

theorem parseParts_error_iff : parseParts seen parts = .error e ↔ FirstOffence seen parts e := by
  refine ⟨fun h => ?_, parseParts_of_firstOffence⟩
  rcases reads_or_firstOffence seen parts with ⟨segs, hreads⟩ | ⟨e', hfirst⟩
  · rw [parseParts_of_reads hreads] at h
    cases h
  · rw [parseParts_of_firstOffence hfirst] at h
    cases h
    exact hfirst

end Parts

theorem parse_of_absolute {text : String} (h : text.toList.head? = some '/') :
    parse text = (parseParts [] (parts text.toList)).map (⟨text, ·⟩) := if_pos h

theorem parse_of_not_absolute {text : String} (h : text.toList.head? ≠ some '/') :
    parse text = .error .notAbsolute :=
  if_neg h

theorem parse_ok_iff {text : String} {t : Template} : parse text = .ok t ↔
    t.text = text ∧ text.toList.head? = some '/' ∧ Reads [] (parts text.toList) t.segments := by
  by_cases habs : text.toList.head? = some '/'
  · rw [parse_of_absolute habs, ← parseParts_ok_iff]
    cases hparts : parseParts [] (parts text.toList) with
    | error e =>
      constructor
      · intro h
        cases h
      · rintro ⟨-, -, h⟩
        cases h
    | ok segs =>
      constructor
      · intro h
        cases h
        exact ⟨rfl, habs, rfl⟩
      · rintro ⟨rfl, -, h⟩
        cases h
        rfl
  · rw [parse_of_not_absolute habs]
    constructor
    · intro h
      cases h
    · rintro ⟨-, h, -⟩
      exact absurd h habs

theorem parse_error_iff {text : String} : parse text = .error e ↔
    text.toList.head? ≠ some '/' ∧ e = .notAbsolute ∨
      text.toList.head? = some '/' ∧ FirstOffence [] (parts text.toList) e := by
  by_cases habs : text.toList.head? = some '/'
  · rw [parse_of_absolute habs, ← parseParts_error_iff]
    cases hparts : parseParts [] (parts text.toList) with
    | error e' =>
      constructor
      · intro h
        cases h
        exact .inr ⟨habs, rfl⟩
      · rintro (⟨h, -⟩ | ⟨-, h⟩)
        · exact absurd habs h
        · cases h
          rfl
    | ok segs =>
      constructor
      · intro h
        cases h
      · rintro (⟨h, -⟩ | ⟨-, h⟩)
        · exact absurd habs h
        · cases h
  · rw [parse_of_not_absolute habs]
    constructor
    · intro h
      cases h
      exact .inl ⟨habs, rfl⟩
    · rintro (⟨-, rfl⟩ | ⟨h, -⟩)
      · rfl
      · exact absurd h habs

/-- What a segment stands for when the captures have these values. -/
def value (values : String → String) : Segment → String
  | .literal text => text
  | .capture name => values name

/-- The parts of a path for the segments, escaped, with the captures filled in. -/
inductive Filled (values : String → String) : List Segment → List (List Char) → Prop where
  | nil : Filled values [] []
  | cons {seg : Segment} {segs : List Segment} {part : List Char} {parts : List (List Char)}
    (h : Escaped false (value values seg).toList part) (hrest : Filled values segs parts) :
    Filled values (seg :: segs) (part :: parts)

section Matching

variable {values : String → String} {parts : List (List Char)} {entries : List (String × String)}

theorem exists_filled (values : String → String) (segs : List Segment) :
    ∃ parts, Filled values segs parts := by
  induction segs with
  | nil => exact ⟨[], .nil⟩
  | cons seg segs ih =>
    obtain ⟨parts, hparts⟩ := ih
    obtain ⟨part, hpart⟩ := exists_escaped false (value values seg).toList
    exact ⟨part :: parts, .cons hpart hparts⟩

/-- Segments that stand for something are written as parts that no slash cuts and that are not
empty. -/
theorem Filled.parts_proper (h : Filled values segs parts)
    (hne : ∀ seg ∈ segs, value values seg ≠ "") :
    (∀ part ∈ parts, part ≠ []) ∧ ∀ part ∈ parts, '/' ∉ part := by
  induction h with
  | nil => exact ⟨fun _ hp => absurd hp List.not_mem_nil, fun _ hp => absurd hp List.not_mem_nil⟩
  | cons h _ ih =>
    obtain ⟨hseg, hsegs⟩ := List.forall_mem_cons.mp hne
    obtain ⟨hnes, hfrees⟩ := ih hsegs
    have hpart := h.ne_nil (mt String.toList_eq_nil_iff.mp hseg)
    have hfree := h.not_mem (c := '/') (by decide) (by decide) (by decide)
    exact ⟨List.forall_mem_cons.mpr ⟨hpart, hnes⟩, List.forall_mem_cons.mpr ⟨hfree, hfrees⟩⟩

theorem Filled.align? (h : Filled values segs parts) :
    align? segs parts = some ((captures segs).map fun name => (name, values name)) := by
  induction h with
  | nil => rfl
  | @cons seg segs part parts h _ ih =>
    have hdecode : String.ofList (percentDecode part) = value values seg := by
      rw [h.percentDecode, String.ofList_toList]
    cases seg with
    | literal text =>
      change String.ofList (percentDecode part) = text at hdecode
      rw [Template.align?, if_pos hdecode, ih, captures_cons]
      rfl
    | capture name =>
      rw [Template.align?, ih, captures_cons, hdecode]
      rfl

/-- A literal whose place in a path is taken by a part that decodes to something else. -/
def Differs (segs : List Segment) (parts : List (List Char)) : Prop :=
  ∃ (i : Nat) (text : String) (part : List Char), segs[i]? = some (Segment.literal text) ∧
    parts[i]? = some part ∧
    String.ofList (percentDecode part) ≠ text

theorem differs_cons_iff {part : List Char} : Differs (seg :: segs) (part :: parts) ↔
    (∃ text, seg = .literal text ∧ String.ofList (percentDecode part) ≠ text) ∨
      Differs segs parts := by
  constructor
  · rintro ⟨i, text, other, hseg, hpart, hne⟩
    cases i with
    | zero =>
      cases hseg
      cases hpart
      exact .inl ⟨text, rfl, hne⟩
    | succ i => exact .inr ⟨i, text, other, hseg, hpart, hne⟩
  · rintro (⟨text, rfl, hne⟩ | ⟨i, text, other, hseg, hpart, hne⟩)
    · exact ⟨0, text, part, rfl, rfl, hne⟩
    · exact ⟨i + 1, text, other, hseg, hpart, hne⟩

theorem align?_eq_none_iff :
    align? segs parts = none ↔ parts.length ≠ segs.length ∨ Differs segs parts := by
  induction segs generalizing parts with
  | nil =>
    cases parts with
    | nil =>
      constructor
      · intro h
        cases h
      · rintro (h | ⟨_, _, _, h, -⟩)
        · exact absurd rfl h
        · cases h
    | cons part parts => exact ⟨fun _ => .inl (Nat.succ_ne_zero _), fun _ => rfl⟩
  | cons seg segs ih =>
    cases parts with
    | nil =>
      refine ⟨fun _ => .inl (Nat.succ_ne_zero _).symm, fun _ => ?_⟩
      cases seg <;> rfl
    | cons part parts =>
      have hstep : align? (seg :: segs) (part :: parts) = none ↔
          (∃ text, seg = .literal text ∧ String.ofList (percentDecode part) ≠ text) ∨
            align? segs parts = none := by
        cases seg with
        | literal text =>
          rw [Template.align?]
          by_cases heq : String.ofList (percentDecode part) = text
          · rw [if_pos heq]
            refine ⟨.inr, ?_⟩
            rintro (⟨_, hliteral, hne⟩ | h)
            · cases hliteral
              exact absurd heq hne
            · exact h
          · rw [if_neg heq]
            exact ⟨fun _ => .inl ⟨text, rfl, heq⟩, fun _ => rfl⟩
        | capture name =>
          rw [Template.align?, Option.map_eq_none_iff]
          refine ⟨.inr, ?_⟩
          rintro (⟨_, hliteral, -⟩ | h)
          · cases hliteral
          · exact h
      have hlength : parts.length + 1 ≠ segs.length + 1 ↔ parts.length ≠ segs.length :=
        not_congr Nat.succ_inj
      rw [hstep, ih, differs_cons_iff, List.length_cons, List.length_cons, hlength]
      exact or_left_comm

theorem match?_eq_none_iff {t : Template} {path : String} : t.match? path = none ↔
    (Template.parts path.toList).length ≠ t.segments.length ∨
      Differs t.segments (Template.parts path.toList) := by
  rw [match?, Option.map_eq_none_iff, align?_eq_none_iff]

theorem match?_of_filled {t : Template} {path : String} (h : Filled values t.segments parts)
    (hne : ∀ seg ∈ t.segments, value values seg ≠ "") (hpath : Separated '/' parts path.toList) :
    t.match? path = some (KeyMap.ofList
      ((captures t.segments).map fun name => (name, values name))) := by
  obtain ⟨hnes, hfrees⟩ := h.parts_proper hne
  have hparts : Template.parts path.toList = parts := hpath.filter_splitOn hnes hfrees
  rw [match?, hparts, h.align?]
  rfl

end Matching

/-- The map from names to their values. -/
theorem get?_ofList_values (names : List String) (values : String → String) (name : String) :
    (KeyMap.ofList (names.map fun n => (n, values n))).get? name =
      if name ∈ names then some (values name) else none := by
  have hmem {entry : String × String}
    (h : entry ∈ (names.map fun n => (n, values n)).filter (·.1 = name)) :
      name ∈ names ∧ entry.2 = values name := by
    obtain ⟨hentry, heq⟩ := List.mem_filter.mp h
    obtain ⟨n, hn, rfl⟩ := List.mem_map.mp hentry
    obtain rfl : n = name := of_decide_eq_true heq
    exact ⟨hn, rfl⟩
  rw [KeyMap.get?_ofList]
  cases hlast : ((names.map fun n => (n, values n)).filter (·.1 = name)).getLast? with
  | none =>
    rw [List.getLast?_eq_none_iff, List.filter_eq_nil_iff] at hlast
    have hnot : name ∉ names := by
      intro hn
      exact hlast (name, values name) (List.mem_map.mpr ⟨name, hn, rfl⟩) (decide_eq_true rfl)
    rw [if_neg hnot]
    rfl
  | some entry =>
    obtain ⟨hn, heq⟩ := hmem (List.mem_of_getLast? hlast)
    rw [if_pos hn, Option.map_some, heq]

theorem value_ne_empty {parts : List (List Char)} {values : String → String}
    (h : SpellsAll parts segs) (hparts : ∀ part ∈ parts, part ≠ [])
    (hvalues : ∀ name ∈ captures segs, values name ≠ "") :
    ∀ seg ∈ segs, value values seg ≠ "" := by
  induction h with
  | nil => exact fun _ hseg => absurd hseg List.not_mem_nil
  | @cons part seg parts segs h _ ih =>
    obtain ⟨hpart, hrest⟩ := List.forall_mem_cons.mp hparts
    rw [captures_cons] at hvalues
    refine List.forall_mem_cons.mpr
      ⟨?_, ih hrest fun name hname => hvalues name (List.mem_append_right _ hname)⟩
    cases h with
    | literal =>
      intro heq
      have hnil := congrArg String.toList heq
      rw [value, String.toList_ofList] at hnil
      exact hpart hnil
    | capture => exact hvalues _ (List.mem_append_left _ List.mem_cons_self)

/-- A text is a template exactly if it starts with a slash and each of its parts is free of braces
or a name without braces between two of them, the names being different; of any other text the first
part that does not fit is told. Whatever the captures are, as long as none is empty, a path that has
them in their places, everything escaped and with any slashes between, before and after its parts,
matches and gives the captures back. A path does not match exactly if it has another number of
parts, or a part that decodes to something else than the literal in its place. -/
theorem templates_match_what_they_spell (text : String) :
    (∀ t, parse text = .ok t ↔
      t.text = text ∧ text.toList.head? = some '/' ∧ SpellsAll (parts text.toList) t.segments ∧
        (captures t.segments).Nodup) ∧
    (∀ e, parse text = .error e ↔
      text.toList.head? ≠ some '/' ∧ e = .notAbsolute ∨
      text.toList.head? = some '/' ∧ ∃ before part after segs,
        parts text.toList = before ++ part :: after ∧
        SpellsAll before segs ∧ (captures segs).Nodup ∧ Offends (captures segs) part e) ∧
    ∀ t, parse text = .ok t →
      (∀ values : String → String, (∀ name ∈ captures t.segments, values name ≠ "") →
        (∃ pieces, Filled values t.segments pieces) ∧
        ∀ pieces path, Filled values t.segments pieces → Separated '/' pieces path.toList →
          ∃ params, t.match? path = some params ∧ params.Ordered ∧
            ∀ name, params.get? name = if name ∈
              captures t.segments then some (values name) else none) ∧
      ∀ path, t.match? path = none ↔
        (parts path.toList).length ≠ t.segments.length ∨
          Differs t.segments (parts path.toList) := by
  have hreads {ps : List (List Char)} {segs : List Segment} :
      Reads [] ps segs ↔ SpellsAll ps segs ∧ (captures segs).Nodup :=
    ⟨fun h => ⟨h.spells, h.nodup⟩, fun h => ⟨h.1, h.2, fun _ _ => List.not_mem_nil⟩⟩
  refine ⟨fun t => ?_, fun e => ?_, fun t ht =>
    ⟨fun values hvalues => ⟨exists_filled values _, ?_⟩, ?_⟩⟩
  · rw [parse_ok_iff, hreads]
  · simp only [parse_error_iff, FirstOffence, hreads, List.append_nil, and_assoc]
  · intro pieces path hfilled hpath
    have hparts : ∀ part ∈ parts text.toList, part ≠ [] :=
      fun part hpart => by simpa using (List.mem_filter.mp hpart).2
    have hne := value_ne_empty (parse_ok_iff.mp ht).2.2.spells hparts hvalues
    exact ⟨_, match?_of_filled hfilled hne hpath, KeyMap.ordered_ofList _,
      get?_ofList_values _ values⟩
  · exact fun path => match?_eq_none_iff

/-- A slash in a capture is escaped, so that it cuts nothing. -/
theorem escaped_slash_is_captured :
    let text := "/users/\x7bid\x7d"
    let t : Template := ⟨text, [.literal "users", .capture "id"]⟩
    let values : String → String := fun _ => "é/"
    let pieces := [['u', 's', 'e', 'r', 's'], ['%', 'C', '3', '%', 'A', '9', '%', '2', 'f']]
    let path := "/users//%C3%A9%2f/"
    parse text = .ok t ∧ (∀ name ∈ captures t.segments, values name ≠ "") ∧
      Filled values t.segments pieces ∧
    Separated '/' pieces path.toList ∧ ∃ params, t.match? path = some params ∧ params.Ordered ∧
      ∀ name, params.get? name =
        if name ∈ captures t.segments then some (values name) else none := by
  intro text t values pieces path
  have hparse : parse text = .ok t := eq_ok_of_toOption (by decide)
  have hvalues : ∀ name ∈ captures t.segments, values name ≠ "" := fun _ _ => by decide
  have hfilled : Filled values t.segments pieces := by
    refine .cons ?_ (.cons ?_ .nil)
    · have htext : "users".toList = ['u', 's', 'e', 'r', 's'] := rfl
      change Escaped false "users".toList _
      rw [htext]
      exact .plain (by decide) (.plain (by decide) (.plain (by decide)
        (.plain (by decide) (.plain (by decide) .nil))))
    · have htext : "é/".toList = ['é', '/'] := rfl
      change Escaped false "é/".toList (['%', 'C', '3', '%', 'A', '9'] ++ (['%', '2', 'f'] ++ []))
      rw [htext]
      exact .escape (by decide) (.cons (.inl rfl) (.inl rfl) (.cons (.inl rfl) (.inl rfl) .nil))
        (.escape (by decide) (.cons (.inl rfl) (.inr rfl) .nil) .nil)
  have hpath : Separated '/' pieces path.toList := by
    have htext : "/users//%C3%A9%2f/".toList = '/' :: (['u', 's', 'e', 'r', 's'] ++ '/' :: '/' ::
      (['%', 'C', '3', '%', 'A', '9', '%', '2', 'f'] ++ ['/'])) := rfl
    change Separated '/' pieces "/users//%C3%A9%2f/".toList
    rw [htext]
    exact .gap (.cons _ (.gap (.cons _ .nil)))
  obtain ⟨-, -, hmatch⟩ := templates_match_what_they_spell text
  exact ⟨hparse, hvalues, hfilled, hpath,
    ((hmatch t hparse).1 values hvalues).2 pieces path hfilled hpath⟩

end Template

end FeatureFlow
