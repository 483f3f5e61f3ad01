import FeatureFlow.Guard
import FeatureFlow.Proofs.Casing
import FeatureFlow.Proofs.Cuts
import FeatureFlow.Proofs.Records

/-! Guards are read as they are written. Reading brings them into a normal form, in which no part
holds a separator that would cut it or a blank that would be trimmed; what is written from there
reads back the same. -/
namespace FeatureFlow

section Checks

variable {ε α : Type} {p : Prop} [Decidable p] {e e' : ε} {x : Except ε α} {a : α}

theorem ite_error_eq_ok_iff : (if p then .error e else x) = .ok a ↔ ¬ p ∧ x = .ok a := by
  by_cases h : p <;> simp [h]

theorem ite_error_eq_error_iff :
    (if p then .error e else x) = .error e' ↔ p ∧ e = e' ∨ ¬ p ∧ x = .error e' := by
  by_cases h : p <;> simp [h]

end Checks

open Text

theorem Text.Part.lower {cs : List Char} (h : Part [',', ';'] cs) : Part [',', ';'] (lower cs) where
  ne_nil := lower_ne_nil h.ne_nil
  tidy := h.tidy.lower
  free c hc := not_mem_lower (by simpa using hc) (h.free c hc)

namespace Guard

/-- Guards as they are held: each segment and each value stands between its separators as it is. -/
structure Normal (g : Guard) : Prop where
  path_ne_nil : g.path ≠ []
  segments : ∀ s ∈ g.path, Part ['.', ':', ';'] s.toList
  values_ne_nil : g.values ≠ []
  values : ∀ v ∈ g.values, Part [',', ';'] v.toList
  lowered : ∀ v ∈ g.values, lower v.toList = v.toList

section Groups

variable {group path values : List Char}

theorem parseGroup_of_not_mem (h : ':' ∉ group) :
    parseGroup group = .error (.missingColon (String.ofList group)) := by
  unfold parseGroup
  dsimp only
  rw [cut_eq_none_iff.mpr h]

/-- What is looked at in a group with a colon, in this order. -/
theorem parseGroup_of_cut (h : cut [':'] group = some (path, values)) :
    parseGroup group =
      if trim path = [] then .error (.emptyPath (String.ofList group))
      else if (segments (trim path)).contains "" then .error (.emptySegment (String.ofList group))
      else if parts ',' values = [] then .error (.noValues (String.ofList group))
      else .ok ⟨segments (trim path), (parts ',' values).map fun v => String.ofList (fold v)⟩ := by
  have hparts : ((values.splitOn ',').map trim).filter (· ≠ []) = parts ',' values := rfl
  unfold parseGroup
  dsimp only
  rw [h]
  dsimp only
  rw [hparts]
  cases parts ',' values with
  | nil => rfl
  | cons v vs => rfl

/-- A group is read if it has a path without blank segments, and some value. -/
theorem parseGroup_ok_iff {g : Guard} :
    parseGroup group = .ok g ↔ ∃ path values,
      cut [':'] group = some (path, values) ∧ trim path ≠ [] ∧
      "" ∉ segments (trim path) ∧ parts ',' values ≠ [] ∧
      g = ⟨segments (trim path), (parts ',' values).map fun v => String.ofList (fold v)⟩ := by
  cases hcut : cut [':'] group with
  | none =>
    rw [parseGroup_of_not_mem (cut_eq_none_iff.mp hcut)]
    exact ⟨nofun, fun ⟨_, _, hsides, _⟩ => nomatch hsides⟩
  | some sides =>
    obtain ⟨path, values⟩ := sides
    rw [parseGroup_of_cut hcut, ite_error_eq_ok_iff, ite_error_eq_ok_iff, ite_error_eq_ok_iff,
      List.contains_iff_mem]
    constructor
    · rintro ⟨hpath, hsegments, hvalues, ⟨⟩⟩
      exact ⟨path, values, rfl, hpath, hsegments, hvalues, rfl⟩
    · rintro ⟨_, _, ⟨⟩, hpath, hsegments, hvalues, rfl⟩
      exact ⟨hpath, hsegments, hvalues, rfl⟩

end Groups

theorem normal_of_parseGroup {group : List Char} {g : Guard} (hgroup : ';' ∉ group)
    (h : parseGroup group = .ok g) :
    g.Normal := by
  obtain ⟨path, values, hcut, -, hsegments, hvalues, rfl⟩ := parseGroup_ok_iff.mp h
  have happend := append_of_cut hcut
  have hpath : ';' ∉ path := fun hmem => hgroup (happend ▸ by simp [hmem])
  have hlist : ';' ∉ values := fun hmem => hgroup (happend ▸ by simp [hmem])
  have hpart {u : List Char} (hu : u ∈ parts ',' values) : Part [',', ';'] u :=
    part_of_mem_parts hu fun c hc => List.mem_singleton.mp hc ▸ hlist
  have hfold {u : List Char} (hu : u ∈ parts ',' values) : fold u = lower u := by
    rw [fold, trim_of_tidy (hpart hu).tidy]
  constructor
  · exact fun hnil => List.splitOn_ne_nil '.' (trim path) (List.map_eq_nil_iff.mp hnil)
  · intro s hs
    obtain ⟨part, hmem, rfl⟩ := List.mem_map.mp hs
    rw [String.toList_ofList]
    refine ⟨fun hempty => hsegments ?_, tidy_trim part, fun c hc hchar => ?_⟩
    · rwa [hempty] at hs
    · obtain ⟨htrim, hdot⟩ := of_mem_splitOn hmem (mem_of_mem_trim hchar)
      have hc' : c = '.' ∨ c = ':' ∨ c = ';' := by simpa using hc
      rcases hc' with rfl | rfl | rfl
      · exact hdot rfl
      · exact not_mem_of_cut hcut (mem_of_mem_trim htrim)
      · exact hpath (mem_of_mem_trim htrim)
  · exact fun hnil => hvalues (List.map_eq_nil_iff.mp hnil)
  · intro v hv
    obtain ⟨u, hu, rfl⟩ := List.mem_map.mp hv
    rw [String.toList_ofList, hfold hu]
    exact (hpart hu).lower
  · intro v hv
    obtain ⟨u, hu, rfl⟩ := List.mem_map.mp hv
    rw [String.toList_ofList, hfold hu, lower_lower]

theorem normal_of_parse {text : String} {gs : List Guard} (h : parse text = .ok gs) :
    ∀ g ∈ gs, g.Normal := by
  intro g hg
  have hgroups := (toOption_mapM _ _).symm.trans (congrArg Except.toOption h)
  obtain ⟨group, hgroup, hread⟩ := exists_of_mem_mapM hgroups g hg
  have hpart : Part [';'] group := part_of_mem_parts hgroup nofun
  exact normal_of_parseGroup (hpart.free ';' List.mem_cons_self) (eq_ok_of_toOption hread)

theorem toList_render (g : Guard) :
    g.render.toList = join '.' g.path ++ ':' :: join ',' g.values := by
  rw [render, String.toList_append, String.toList_append, String.toList_intercalate,
    String.toList_intercalate,
    List.append_assoc]
  rfl

theorem toList_renderAll (gs : List Guard) : (renderAll gs).toList = join ';' (gs.map render) := by
  rw [renderAll, String.toList_intercalate]
  rfl

section Writing

variable {g : Guard} (h : g.Normal)
include h

theorem Normal.part_path : Part [':', ';'] (join '.' g.path) :=
  part_join h.path_ne_nil (fun s hs => (h.segments s hs).mono (List.subset_cons_self _ _))
    (by decide)

theorem Normal.part_render : Part [';'] g.render.toList := by
  have hvalues : Part [';'] (join ',' g.values) :=
    part_join h.values_ne_nil (fun v hv => (h.values v hv).mono (List.subset_cons_self _ _))
      (by decide)
  rw [toList_render]
  exact (h.part_path.mono (List.subset_cons_self _ _)).append hvalues (by decide)

theorem Normal.segments_join : Guard.segments (join '.' g.path) = g.path := by
  rw [Guard.segments, splitOn_join h.path_ne_nil h.segments (by decide), List.map_map]
  refine (List.map_congr_left fun s hs => ?_).trans (List.map_id _)
  rw [Function.comp_apply, trim_of_tidy (h.segments s hs).tidy, String.ofList_toList]
  rfl

theorem Normal.fold_values :
    (g.values.map String.toList).map (fun v => String.ofList (fold v)) = g.values := by
  rw [List.map_map]
  refine (List.map_congr_left fun v hv => ?_).trans (List.map_id _)
  rw [Function.comp_apply, fold, trim_of_tidy (h.values v hv).tidy, h.lowered v hv,
    String.ofList_toList]
  rfl

theorem Normal.parseGroup_render : parseGroup g.render.toList = .ok g := by
  have hcolon : ∀ c ∈ join '.' g.path, c ≠ ':' := by
    rintro c hc rfl
    exact h.part_path.free ':' (by decide) hc
  have hparts : parts ',' (join ',' g.values) = g.values.map String.toList :=
    parts_join h.values (by decide)
  rw [toList_render, parseGroup_ok_iff]
  refine ⟨join '.' g.path, join ',' g.values, cut_append_cons hcolon _, ?_⟩
  rw [trim_of_tidy h.part_path.tidy, h.segments_join, hparts, h.fold_values]
  refine ⟨h.part_path.ne_nil, fun hempty => ?_, by simpa using h.values_ne_nil, rfl⟩
  exact (h.segments "" hempty).ne_nil rfl

end Writing

theorem parse_renderAll {gs : List Guard} (h : ∀ g ∈ gs, g.Normal) :
    parse (renderAll gs) = .ok gs := by
  have hparts : ∀ s ∈ gs.map render, Part [';'] s.toList := by
    intro s hs
    obtain ⟨g, hg, rfl⟩ := List.mem_map.mp hs
    exact (h g hg).part_render
  have hgroups : groups (renderAll gs).toList = gs.map fun g => g.render.toList := by
    rw [toList_renderAll]
    exact (parts_join hparts List.mem_cons_self).trans (List.map_map ..)
  rw [parse, hgroups]
  exact mapM_map_eq_pure fun g hg => (h g hg).parseGroup_render

/-- What is written of guards that were read reads back as the same guards: the text is its own
normal form and lets the same payloads pass. Each path and each list of values has a member, and
each member is a part. -/
theorem parsed_guards_read_back {text : String} {gs : List Guard} (h : parse text = .ok gs) :
    parse (renderAll gs) = .ok gs ∧ (parse (renderAll gs)).map renderAll = .ok (renderAll gs) ∧
      (∀ payload, (parse (renderAll gs)).map (allAccept · payload) = .ok (allAccept gs payload)) ∧
      ∀ g ∈ gs, (g.path ≠ [] ∧ ∀ s ∈ g.path, Part ['.', ':', ';'] s.toList) ∧
        g.values ≠ [] ∧ ∀ v ∈ g.values, Part [',', ';'] v.toList := by
  have hnormal := normal_of_parse h
  have hread := parse_renderAll hnormal
  refine ⟨hread, by rw [hread]; rfl, fun payload => by rw [hread]; rfl, fun g hg => ?_⟩
  exact ⟨⟨(hnormal g hg).path_ne_nil, (hnormal g hg).segments⟩, (hnormal g hg).values_ne_nil,
    (hnormal g hg).values⟩

theorem blanks_capitals_and_colons_read_back :
    parse " Order . Status : PAID, Größe ,, ÉTÉ ; ; tier:a:B " =
        .ok [⟨["Order", "Status"], ["paid", "größe", "été"]⟩, ⟨["tier"], ["a:b"]⟩] ∧
      renderAll [⟨["Order", "Status"], ["paid", "größe", "été"]⟩, ⟨["tier"], ["a:b"]⟩] =
        "Order.Status:paid,größe,été;tier:a:b" ∧
      parse "Order.Status:paid,größe,été;tier:a:b" =
        .ok [⟨["Order", "Status"], ["paid", "größe", "été"]⟩, ⟨["tier"], ["a:b"]⟩] := by
  have hread : parse " Order . Status : PAID, Größe ,, ÉTÉ ; ; tier:a:B " =
      .ok [⟨["Order", "Status"], ["paid", "größe", "été"]⟩, ⟨["tier"], ["a:b"]⟩] :=
    eq_ok_of_toOption (by decide +kernel)
  have hshown : renderAll [⟨["Order", "Status"], ["paid", "größe", "été"]⟩, ⟨["tier"], ["a:b"]⟩] =
      "Order.Status:paid,größe,été;tier:a:b" := by decide +kernel
  exact ⟨hread, hshown, hshown ▸ (parsed_guards_read_back hread).1⟩

end Guard

end FeatureFlow
