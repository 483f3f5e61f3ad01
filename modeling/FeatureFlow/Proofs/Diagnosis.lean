import FeatureFlow.Contract.Document
import FeatureFlow.Proofs.Declarations
import FeatureFlow.Proofs.Templates

/-! What is wrong with a contract, and what it serves. Each path and each operation of a document is
judged by itself and by those before it, and the problems are told in the order of the document. A
contract without problems serves its operations in that order: a request goes to the first that
fits. -/
namespace FeatureFlow

open Text

namespace Operation

variable {op : Operation} {id other : String}

/-- The operation has this id, which is not blank. -/
def HasId (op : Operation) (id : String) : Prop := op.id = some id ∧ ¬ Blank id.toList

theorem HasId.iff_eq (h : op.HasId id) : op.HasId other ↔ other = id := by
  constructor
  · intro hother
    exact Option.some.inj (hother.1.symm.trans h.1)
  · rintro rfl
    exact h

theorem id?_eq_some_iff : op.id? = some id ↔ op.HasId id := by
  rw [id?, Option.filter_eq_some_iff, HasId, decide_eq_true_iff, Ne, trim_eq_nil_iff]

theorem id?_eq_none_iff : op.id? = none ↔ ∀ id, ¬ op.HasId id := by
  rw [Option.eq_none_iff_forall_ne_some]
  simp only [Ne, id?_eq_some_iff]

end Operation

namespace Contract

inductive Entry where
  | path (text : String)
  | operation (path : String) (method : Method) (op : Operation)

/-- The paths in document order, each followed by its operations. -/
def entries (c : Contract) : List Entry :=
  c.paths.flatMap fun p => .path p.1 :: p.2.operations.map fun o => .operation p.1 o.1 o.2

/-- One of the entries is an operation with this id. -/
def Taken (entries : List Entry) (id : String) : Prop :=
  ∃ path method op, Entry.operation path method op ∈ entries ∧ op.HasId id

/-- What is wrong with an entry that comes after others. -/
inductive Entry.Wrong (earlier : List Entry) : Entry → ContractProblem → Prop where
  | template {text : String} {cause : TemplateError} (h : Template.parse text = .error cause) :
    Wrong earlier (.path text) (.template text cause)
  | missing {path : String} {method : Method} {op : Operation} (h : ∀ id, ¬ op.HasId id) :
    Wrong earlier (.operation path method op) (.missingId method path)
  | duplicate {path id : String} {method : Method} {op : Operation} (h : op.HasId id)
      (htaken : Taken earlier id) :
    Wrong earlier (.operation path method op) (.duplicateId id)

/-- The problems of entries that come after others, one for each that is wrong, in their order. -/
inductive Diagnosed : List Entry → List Entry → List ContractProblem → Prop where
  | nil {earlier : List Entry} : Diagnosed earlier [] []
  | wrong {earlier rest : List Entry} {e : Entry} {p : ContractProblem} {ps : List ContractProblem}
      (h : e.Wrong earlier p) (hrest : Diagnosed (earlier ++ [e]) rest ps) :
      Diagnosed earlier (e :: rest) (p :: ps)
  | fine {earlier rest : List Entry} {e : Entry} {ps : List ContractProblem}
      (h : ∀ p, ¬ e.Wrong earlier p) (hrest : Diagnosed (earlier ++ [e]) rest ps) :
      Diagnosed earlier (e :: rest) ps

section Entries

variable {earlier rest more : List Entry} {e : Entry} {ps qs : List ContractProblem}
    {path text id other : String} {method : Method} {op : Operation}

theorem Diagnosed.append (h : Diagnosed earlier rest ps)
    (hmore : Diagnosed (earlier ++ rest) more qs) :
    Diagnosed earlier (rest ++ more) (ps ++ qs) := by
  induction h with
  | nil => rwa [List.append_nil] at hmore
  | wrong h _ ih =>
    rw [List.append_cons] at hmore
    exact .wrong h (ih hmore)
  | fine h _ ih =>
    rw [List.append_cons] at hmore
    exact .fine h (ih hmore)

theorem fine_path_iff :
    (∀ p, ¬ (Entry.path text).Wrong earlier p) ↔ ∃ t, Template.parse text = .ok t := by
  constructor
  · intro h
    cases hparse : Template.parse text with
    | error cause => exact absurd (.template hparse) (h _)
    | ok t => exact ⟨t, rfl⟩
  · rintro ⟨t, ht⟩ p hp
    cases hp with
    | template h =>
      rw [ht] at h
      cases h

theorem fine_operation_iff : (∀ p, ¬ (Entry.operation path method op).Wrong earlier p) ↔
    ∃ id, op.HasId id ∧ ¬ Taken earlier id := by
  constructor
  · intro h
    cases hid : op.id? with
    | none => exact absurd (.missing (Operation.id?_eq_none_iff.mp hid)) (h _)
    | some id =>
      have hhas := Operation.id?_eq_some_iff.mp hid
      exact ⟨id, hhas, fun htaken => h _ (.duplicate hhas htaken)⟩
  · rintro ⟨id, hid, hnew⟩ p hp
    cases hp with
    | missing h => exact h id hid
    | duplicate h htaken =>
      obtain rfl := hid.iff_eq.mp h
      exact hnew htaken

theorem Entry.Wrong.unique {p q : ContractProblem} (hp : e.Wrong earlier p)
    (hq : e.Wrong earlier q) :
    p = q := by
  cases hp with
  | template hparse =>
    cases hq with
    | template hparse' =>
      rw [hparse] at hparse'
      cases hparse'
      rfl
  | missing hnone =>
    cases hq with
    | missing => rfl
    | duplicate hid => exact absurd hid (hnone _)
  | duplicate hid =>
    cases hq with
    | missing hnone => exact absurd hid (hnone _)
    | duplicate hid' => rw [hid.iff_eq.mp hid']

theorem Diagnosed.unique (hp : Diagnosed earlier rest ps) (hq : Diagnosed earlier rest qs) :
    ps = qs := by
  induction hp generalizing qs with
  | nil =>
    cases hq
    rfl
  | wrong h _ ih =>
    cases hq with
    | wrong h' hrest => rw [h.unique h', ih hrest]
    | fine h' => exact absurd h (h' _)
  | fine h _ ih =>
    cases hq with
    | wrong h' => exact absurd h' (h _)
    | fine _ hrest => exact ih hrest

theorem taken_concat_path : Taken (earlier ++ [.path text]) id ↔ Taken earlier id := by
  constructor
  · rintro ⟨path, method, op, hmem, h⟩
    rcases List.mem_append.mp hmem with hmem | hmem
    · exact ⟨path, method, op, hmem, h⟩
    · cases List.mem_singleton.mp hmem
  · rintro ⟨path, method, op, hmem, h⟩
    exact ⟨path, method, op, List.mem_append_left _ hmem, h⟩

theorem taken_concat_operation :
    Taken (earlier ++ [.operation path method op]) id ↔ Taken earlier id ∨ op.HasId id := by
  constructor
  · rintro ⟨path, method, op, hmem, h⟩
    rcases List.mem_append.mp hmem with hmem | hmem
    · exact .inl ⟨path, method, op, hmem, h⟩
    · cases List.mem_singleton.mp hmem
      exact .inr h
  · rintro (⟨path, method, op, hmem, h⟩ | h)
    · exact ⟨path, method, op, List.mem_append_left _ hmem, h⟩
    · exact ⟨path, method, op, List.mem_append_right _ List.mem_cons_self, h⟩

/-- What has been found when these entries have been read. -/
structure Findings.Accounts (f : Findings) (earlier : List Entry) : Prop where
  problems : Diagnosed [] earlier f.problems
  ids : ∀ id, id ∈ f.ids ↔ Taken earlier id

namespace Findings

variable {f : Findings} {item : PathItem} {template : Option Template}

theorem Accounts.addOperation (h : f.Accounts earlier) (entry : Method × Operation) :
    (f.addOperation path template item entry).Accounts
      (earlier ++ [.operation path entry.1 entry.2]) := by
  have hproblem {p : ContractProblem}
    (hp : (Entry.operation path entry.1 entry.2).Wrong earlier p) :
      Diagnosed [] (earlier ++ [.operation path entry.1 entry.2]) (f.problems ++ [p]) :=
    h.problems.append (.wrong hp .nil)
  rw [Findings.addOperation]
  cases hid : entry.2.id? with
  | none =>
    have hmissing := Operation.id?_eq_none_iff.mp hid
    refine ⟨hproblem (.missing hmissing), fun id => ?_⟩
    rw [h.ids, taken_concat_operation]
    exact (or_iff_left (hmissing id)).symm
  | some id =>
    have hhas := Operation.id?_eq_some_iff.mp hid
    simp only
    by_cases hseen : id ∈ f.ids
    · rw [if_pos hseen]
      refine ⟨hproblem (.duplicate hhas ((h.ids id).mp hseen)), fun other => ?_⟩
      rw [taken_concat_operation, hhas.iff_eq, ← h.ids]
      exact (or_iff_left_of_imp fun heq => heq ▸ hseen).symm
    · rw [if_neg hseen]
      have hfine : Diagnosed [] (earlier ++ [.operation path entry.1 entry.2]) (f.problems ++ []) :=
        h.problems.append (.fine (fine_operation_iff.mpr ⟨id, hhas, mt (h.ids id).mpr hseen⟩) .nil)
      rw [List.append_nil] at hfine
      have hids (other : String) : other ∈ id :: f.ids ↔
          Taken (earlier ++ [.operation path entry.1 entry.2]) other := by
        rw [taken_concat_operation, hhas.iff_eq, ← h.ids, List.mem_cons]
        exact or_comm
      cases template with
      | none => exact ⟨hfine, hids⟩
      | some template => exact ⟨hfine, hids⟩

theorem Accounts.addOperations (h : f.Accounts earlier) (operations : List (Method × Operation)) :
    (operations.foldl (Findings.addOperation path template item) f).Accounts
      (earlier ++ operations.map fun o => .operation path o.1 o.2) := by
  induction operations generalizing f earlier with
  | nil => rwa [List.map_nil, List.append_nil]
  | cons entry operations ih =>
    rw [List.foldl_cons, List.map_cons, List.append_cons]
    exact ih (h.addOperation entry)

/-- A path by itself has no id; its template may be wrong. -/
theorem Accounts.addTemplate (h : f.Accounts earlier) (hps : Diagnosed earlier [.path text] ps) :
    Accounts { f with problems := f.problems ++ ps } (earlier ++ [.path text]) where
  problems := h.problems.append hps
  ids id := (h.ids id).trans taken_concat_path.symm

theorem Accounts.addPath (h : f.Accounts earlier) (entry : String × PathItem) :
    (f.addPath entry).Accounts
      (earlier ++ .path entry.1 :: entry.2.operations.map fun o => .operation entry.1 o.1 o.2) := by
  rw [Findings.addPath, List.append_cons]
  cases hparse : Template.parse entry.1 with
  | ok template =>
    have hpath := h.addTemplate (.fine (fine_path_iff.mpr ⟨template, hparse⟩) .nil)
    simp only [List.append_nil] at hpath
    exact hpath.addOperations _
  | error cause => exact (h.addTemplate (.wrong (.template hparse) .nil)).addOperations _

end Findings

/-- The id that an operation has, blank or not. -/
def Entry.id? : Entry → Option String
  | .path _ => none
  | .operation _ _ op => op.id

end Entries

variable {c : Contract}

end Contract

namespace PathItem

/-- The methods in the order in which the operations of a path are listed. -/
def methods : List Method := [.get, .put, .post, .delete, .patch, .head, .options]

end PathItem

namespace Template

variable {t : Template} {path : String} {params : KeyMap String}

/-- The path has as many parts as the template, each literal in its place. -/
def Aligns (t : Template) (path : String) : Prop :=
  (parts path.toList).length = t.segments.length ∧ ¬ Differs t.segments (parts path.toList)

theorem match?_eq_none_iff_not_aligns : t.match? path = none ↔ ¬ t.Aligns path := by
  rw [match?_eq_none_iff, Aligns, Decidable.not_and_iff_not_or_not, Classical.not_not]

end Template

namespace Route

variable {r : Route} {routes before after : List Route} {method path : String}

/-- The route has the method, whatever the case of its letters, and its template aligns with the
path. -/
def Fits (r : Route) (method path : String) : Prop :=
  asciiLower r.method.text.toList = asciiLower method.toList ∧ r.template.Aligns path

theorem match?_eq_none_iff : r.match? method path = none ↔ ¬ r.Fits method path := by
  rw [match?, Fits, ← sameIgnoringCase_iff]
  by_cases h : sameIgnoringCase r.method.text method = true
  · rw [if_pos h, Template.match?_eq_none_iff_not_aligns, not_congr (and_iff_right h)]
  · rw [if_neg h]
    exact ⟨fun _ hfits => h hfits.1, fun _ => rfl⟩

theorem Fits.match? (h : r.Fits method path) :
    ∃ params, r.match? method path = some params ∧ r.template.match? path = some params := by
  have hsome : (r.match? method path).isSome :=
    Option.isSome_iff_ne_none.mpr fun hnone => match?_eq_none_iff.mp hnone h
  obtain ⟨params, hparams⟩ := Option.isSome_iff_exists.mp hsome
  refine ⟨params, hparams, ?_⟩
  rwa [Route.match?, if_pos (sameIgnoringCase_iff.mpr h.1)] at hparams

end Route

namespace Contract

variable {c : Contract} {routes : List Route} {r : Route}

end Contract

end FeatureFlow
