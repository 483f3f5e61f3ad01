import FeatureFlow.Proofs.Guards

/-! Guards side by side. A semicolon between two texts joins their guards, of which all have to
hold, and a text of one group is refused for the first thing that is wrong with it, whatever blanks
stand around its parts. -/
namespace FeatureFlow.Guard

open Text

theorem groups_append_cons (a b : List Char) : groups (a ++ ';' :: b) = groups a ++ groups b := by
  rw [groups, List.splitOn_append_cons_self, List.map_append, List.filter_append]
  rfl

theorem parse_join (a b : String) :
    parse (a ++ ";" ++ b) = do
      let gs ← parse a
      let hs ← parse b
      return gs ++ hs := by
  have htext : (a ++ ";" ++ b).toList = a.toList ++ ';' :: b.toList := by
    rw [String.toList_append, String.toList_append, List.append_assoc]
    rfl
  rw [parse, htext, groups_append_cons, List.mapM_append]
  rfl

theorem allAccept_append {gs hs : List Guard} {payload : Value} :
    allAccept (gs ++ hs) payload = true ↔ allAccept gs payload = true ∧
      allAccept hs payload = true := by
  rw [allAccept, List.all_append, Bool.and_eq_true]
  rfl

/-- What is wrong with a group, looked for from its colon to its values. The error shows the group
without the blanks around it. -/
inductive Fault (group : List Char) : GuardError → Prop where
  | missingColon (hgroup : ¬ Blank group) (hcolon : ':' ∉ group) :
    Fault group (.missingColon (String.ofList (trim group)))
  | emptyPath {path values : List Char} (hgroup : group = path ++ ':' :: values)
      (hcolon : ':' ∉ path) (hpath : Blank path) :
      Fault group (.emptyPath (String.ofList (trim group)))
  | emptySegment {path values : List Char} (hgroup : group = path ++ ':' :: values)
      (hcolon : ':' ∉ path) (hpath : ¬ Blank path)
      (hsegment : ∃ segment ∈ path.splitOn '.', Blank segment) :
    Fault group (.emptySegment (String.ofList (trim group)))
  | noValues {path values : List Char} (hgroup : group = path ++ ':' :: values)
      (hcolon : ':' ∉ path) (hpath : ¬ Blank path)
      (hsegments : ∀ segment ∈ path.splitOn '.', ¬ Blank segment)
      (hvalues : ∀ value ∈ values.splitOn ',', Blank value) :
      Fault group (.noValues (String.ofList (trim group)))

variable {group path values : List Char} {e : GuardError}

theorem segments_trim (path : List Char) : segments (trim path) = segments path := by
  have hmap (cs : List Char) : segments cs = ((cs.splitOn '.').map trim).map String.ofList := by
    rw [List.map_map]
    rfl
  rw [hmap, hmap, map_trim_splitOn_trim (by decide)]

theorem contains_segments_iff :
    (segments path).contains "" = true ↔ ∃ segment ∈ path.splitOn '.', Blank segment := by
  rw [List.contains_iff_mem, segments, List.mem_map]
  refine exists_congr fun segment => and_congr_right fun _ => ?_
  rw [← trim_eq_nil_iff]
  exact String.ofList_eq_empty_iff

theorem parts_trimRight (values : List Char) : parts ',' (trimRight values) = parts ',' values := by
  rw [parts, ← map_trim_splitOn_trim (by decide), trim_trimRight,
    map_trim_splitOn_trim (by decide), parts]

theorem parts_eq_nil_iff : parts ',' values = [] ↔ ∀ value ∈ values.splitOn ',', Blank value := by
  rw [parts, List.filter_eq_nil_iff, List.forall_mem_map]
  refine forall_congr' fun value => imp_congr_right fun _ => ?_
  rw [← trim_eq_nil_iff]
  simp

/-- A group with a colon is read as it stands: trimming it first makes no difference but for what an
error shows. -/
theorem parseGroup_trim (hgroup : group = path ++ ':' :: values) (hcolon : ':' ∉ path) :
    parseGroup (trim group) =
      if trim path = [] then .error (.emptyPath (String.ofList (trim group)))
      else if (segments path).contains "" then .error (.emptySegment (String.ofList (trim group)))
      else if parts ',' values = [] then .error (.noValues (String.ofList (trim group)))
      else .ok ⟨segments path, (parts ',' values).map fun v => String.ofList (fold v)⟩ := by
  have hcut : cut [':'] (trim group) = some (trimLeft path, trimRight values) := by
    rw [cut_trim (by decide), cut_eq_some_iff.mpr ⟨hgroup, hcolon⟩]
    rfl
  rw [parseGroup_of_cut hcut, trim_trimLeft, segments_trim, parts_trimRight]

theorem fault_of_parseGroup (hgroup : ¬ Blank group) (h : parseGroup (trim group) = .error e) :
    Fault group e := by
  by_cases hmem : ':' ∈ group
  · obtain ⟨path, values, hsides, hcolon⟩ := List.eq_append_cons_of_mem hmem
    rw [parseGroup_trim hsides hcolon, ite_error_eq_error_iff, ite_error_eq_error_iff,
      ite_error_eq_error_iff,
      trim_eq_nil_iff, contains_segments_iff, parts_eq_nil_iff] at h
    rcases h with ⟨hpath, rfl⟩ | ⟨hpath, ⟨hsegment, rfl⟩ | ⟨hsegments, ⟨hvalues, rfl⟩ | ⟨-, ⟨⟩⟩⟩⟩
    · exact .emptyPath hsides hcolon hpath
    · exact .emptySegment hsides hcolon hpath hsegment
    · exact .noValues hsides hcolon hpath
        (fun segment hmem hblank => hsegments ⟨segment, hmem, hblank⟩) hvalues
  · rw [parseGroup_of_not_mem (mt mem_of_mem_trim hmem)] at h
    cases h
    exact .missingColon hgroup hmem

theorem parseGroup_of_fault (h : Fault group e) : parseGroup (trim group) = .error e := by
  cases h with
  | missingColon hgroup hcolon => exact parseGroup_of_not_mem (mt mem_of_mem_trim hcolon)
  | emptyPath hgroup hcolon hpath =>
    rw [parseGroup_trim hgroup hcolon, if_pos (trim_eq_nil_iff.mpr hpath)]
  | emptySegment hgroup hcolon hpath hsegment =>
    rw [parseGroup_trim hgroup hcolon, if_neg (mt trim_eq_nil_iff.mp hpath),
      if_pos (contains_segments_iff.mpr hsegment)]
  | @noValues path values hgroup hcolon hpath hsegments hvalues =>
    have hfull : ¬ (segments path).contains "" = true := by
      intro hempty
      obtain ⟨segment, hmem, hblank⟩ := contains_segments_iff.mp hempty
      exact hsegments segment hmem hblank
    rw [parseGroup_trim hgroup hcolon, if_neg (mt trim_eq_nil_iff.mp hpath), if_neg hfull,
      if_pos (parts_eq_nil_iff.mpr hvalues)]

theorem Fault.not_blank (h : Fault group e) : ¬ Blank group := by
  have hsides {path values : List Char} (hgroup : group = path ++ ':' :: values) :
      ¬ Blank group := by
    intro hblank
    exact absurd (hblank ':' (by simp [hgroup])) (by decide)
  cases h with
  | missingColon hgroup _ => exact hgroup
  | emptyPath hgroup _ _ => exact hsides hgroup
  | emptySegment hgroup _ _ _ => exact hsides hgroup
  | noValues hgroup _ _ _ _ => exact hsides hgroup

theorem groups_of_not_mem (h : ';' ∉ group) :
    groups group = if trim group = [] then [] else [trim group] := by
  rw [groups, List.splitOn_eq_singleton h, List.map_singleton]
  by_cases hnil : trim group = []
  · rw [if_pos hnil, hnil]
    rfl
  · rw [if_neg hnil, List.filter_cons_of_pos (by simpa using hnil)]
    rfl

theorem parse_error_iff {text : String} (h : ';' ∉ text.toList) :
    parse text = .error e ↔ Fault text.toList e := by
  rw [parse, groups_of_not_mem h]
  by_cases hblank : Blank text.toList
  · rw [if_pos (trim_eq_nil_iff.mpr hblank)]
    constructor
    · intro herror
      cases herror
    · exact fun hfault => absurd hblank hfault.not_blank
  · rw [if_neg (mt trim_eq_nil_iff.mp hblank), List.mapM_cons]
    constructor
    · intro herror
      cases hgroup : parseGroup (trim text.toList) with
      | error cause =>
        rw [hgroup] at herror
        cases herror
        exact fault_of_parseGroup hblank hgroup
      | ok g =>
        rw [hgroup] at herror
        cases herror
    · intro hfault
      rw [parseGroup_of_fault hfault]
      rfl

/-- Guards joined by a semicolon are read one after the other, up to the first error, and a payload
passes them if it passes both. A text of one group is refused exactly for the first of its faults.
-/
theorem joined_guards_are_conjunction :
    (∀ a b : String,
      (∀ e, parse a = .error e → parse (a ++ ";" ++ b) = .error e) ∧
      (∀ gs e, parse a = .ok gs → parse b = .error e → parse (a ++ ";" ++ b) = .error e) ∧
      ∀ gs hs, parse a = .ok gs → parse b = .ok hs → parse (a ++ ";" ++ b) = .ok (gs ++ hs) ∧
        ∀ payload, allAccept (gs ++ hs) payload = true ↔
          allAccept gs payload = true ∧ allAccept hs payload = true) ∧
    ∀ text : String, ';' ∉ text.toList → ∀ e, parse text = .error e ↔ Fault text.toList e := by
  refine ⟨fun a b => ⟨fun e ha => ?_, fun gs e ha hb => ?_, fun gs hs ha hb =>
    ⟨?_, fun payload => ?_⟩⟩, ?_⟩
  · rw [parse_join, ha]
    rfl
  · rw [parse_join, ha, hb]
    rfl
  · rw [parse_join, ha, hb]
    rfl
  · exact allAccept_append
  · exact fun text htext e => parse_error_iff htext

/-- Blank groups and wide spaces stand around the semicolon. Of the second pair, the first text has
a blank segment and no values, and the other text no colon. -/
theorem guards_joined_at_stray_separators :
    parse (" status : PAID ;;" ++ ";" ++ "\u2003; tier:gold,") =
        .ok ([⟨["status"], ["paid"]⟩] ++ [⟨["tier"], ["gold"]⟩]) ∧
      parse ("\u2003a. .b: , " ++ ";" ++ "tier") = .error (.emptySegment "a. .b: ,") := by
  obtain ⟨hjoin, hsingle⟩ := joined_guards_are_conjunction
  have hpaid : parse " status : PAID ;;" = .ok [⟨["status"], ["paid"]⟩] :=
    eq_ok_of_toOption (by decide +kernel)
  have hgold : parse "\u2003; tier:gold," = .ok [⟨["tier"], ["gold"]⟩] :=
    eq_ok_of_toOption (by decide +kernel)
  have hblank : Blank [' '] := List.all_eq_true.mp (by decide)
  have hpath : ¬ Blank "\u2003a. .b".toList := fun h => absurd (h 'a' (by decide)) (by decide)
  have hfault : Fault "\u2003a. .b: , ".toList (.emptySegment "a. .b: ,") := by
    have hshown : String.ofList (trim "\u2003a. .b: , ".toList) = "a. .b: ," := by decide +kernel
    have hsides : "\u2003a. .b: , ".toList = "\u2003a. .b".toList ++ ':' :: " , ".toList := by
      decide
    rw [← hshown]
    exact .emptySegment hsides (by decide) hpath ⟨[' '], by decide, hblank⟩
  exact ⟨((hjoin _ _).2.2 _ _ hpaid hgold).1, (hjoin _ _).1 _
    ((hsingle _ (by decide) _).mpr hfault)⟩

end FeatureFlow.Guard
