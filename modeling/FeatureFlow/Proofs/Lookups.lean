import FeatureFlow.Proofs.Environments
import FeatureFlow.Proofs.Handling
import FeatureFlow.Proofs.Independence

/-! A run knows its scope by the name and by what is found in it. How the bindings are spread over
layers makes no difference that could be seen. -/
namespace FeatureFlow

/-- The same name, and the same value under each name, in whichever layer it is bound. -/
structure Scope.Agrees (a b : Scope) : Prop where
  name : a.name = b.name
  find? : a.find? = b.find?

namespace Scope.Agrees

variable {a b : Scope}

theorem bind (h : a.Agrees b) (x : String) (v : Value) : (a.bind x v).Agrees (b.bind x v) := by
  refine ⟨h.name, ?_⟩
  rw [find?_bind_eq_set, find?_bind_eq_set, h.find?]

theorem snapshot (h : a.Agrees b) : a.snapshot.2.Agrees b.snapshot.2 := by
  have hname (s : Scope) : s.snapshot.2.name = s.name := (SameBindings.of_snapshot s).name.symm
  refine ⟨?_, ?_⟩
  · rw [hname, hname, h.name]
  · rw [find?_after_snapshot, find?_after_snapshot, h.find?]

/-- Layers further out are seen through the child, however many there are. -/
theorem child (h : a.Agrees b) (name : String) : (a.child name).1.Agrees (b.child name).1 := by
  rw [child_fst, child_fst]
  refine ⟨rfl, ?_⟩
  funext x
  rw [find?_fresh, find?_fresh, h.find?]

end Scope.Agrees

/-- Runs whose scopes agree, and which have all else in common. -/
def Correspondence.ofLookups : Correspondence :=
  { ofBindings with
    scope := Scope.Agrees
    name := Scope.Agrees.name
    find? := Scope.Agrees.find?
    bind := Scope.Agrees.bind
    snapshot := Scope.Agrees.snapshot
    child := Scope.Agrees.child }

theorem Correspondence.ofLookups_admits {a : Action} (ha : a ∈ Registry.builtinActions) :
    ofLookups.Admits a := by
  intro scope scope' deadline target object hscope outbox outbox' s s' houtbox hs
  subst houtbox hs
  rw [Action.builtin_run_eq ha hscope.name hscope.find?]
  exact Task.Rel.refl (fun _ => ⟨rfl, rfl⟩) _

/-- What can be seen of an invocation, which says nothing of layers. -/
structure Invocation.View where
  name : String
  lookup : Lookup Value
  outbox : List Emission
  deadline : Option Nat

def Invocation.view (i : Invocation) : View := ⟨i.scope.name, i.scope.find?, i.outbox, i.deadline⟩

theorem Invocation.view_eq_iff {i j : Invocation} :
    i.view = j.view ↔ Correspondence.ofLookups.Invoked i j := by
  constructor
  · intro h
    injection h with hname hfind houtbox hdeadline
    exact ⟨⟨hname, hfind⟩, houtbox, hdeadline, trivial⟩
  · intro h
    rw [view, view, h.scope.name, h.scope.find?, h.outbox, h.deadline]

/-- A run of the feature set with built-in actions, and the result and the view of each way it ends.
-/
def FeatureSet.viewed (f : FeatureSet) (i : Invocation) (s : Services) :
    Task (Except ExecutionError (Option Response) × Invocation.View) :=
  ((f.exec .builtins).run.run i s).map fun ended => (ended.1, ended.2.view)

theorem FeatureSet.viewed_eq {f : FeatureSet} {i j : Invocation} (h : i.view = j.view)
    (s : Services) :
    f.viewed i s = f.viewed j s := by
  have hadmits : Correspondence.ofLookups.AdmitsAll .builtins f.commands := by
    intro c _ a ha
    exact Correspondence.ofLookups_admits (Registry.get?_builtins.mp ha).1
  have hruns := Correspondence.exec_keeps hadmits i j s s (Invocation.view_eq_iff.mp h) rfl
  apply Task.Rel.eq
  refine hruns.bind ?_
  rintro ⟨r, i'⟩ ⟨r', j'⟩ s' t' ⟨hr, hij⟩ hs
  exact .done hs (Prod.ext hr (Invocation.view_eq_iff.mpr hij))

/-- Take two invocations with the same name, outbox and deadline, in whose scopes the same is found
under every name. A feature set runs in them as one and the same process, up to what can be seen. So
each end of the one is an end of the other, with the same result, the same shared state with all
that was logged, the same outbox, and scopes in which again the same is found. -/
theorem layers_make_no_difference (f : FeatureSet) (i j : Invocation) (h : i.view = j.view)
    (s : Services) :
    f.viewed i s = f.viewed j s ∧
    ∀ (others : Services → Services → Prop) (r : Except ExecutionError (Option Response))
      (w : World Invocation),
      Yields others (f.exec .builtins) ⟨i, s⟩ r w →
        ∃ w', Yields others (f.exec .builtins) ⟨j, s⟩ r w' ∧ w'.shared = w.shared ∧
          w'.own.view = w.own.view := by
  refine ⟨FeatureSet.viewed_eq h s, ?_⟩
  intro others r w hends
  have hviewed : Task.Ends others (f.viewed i s) w.shared (r, w.own.view) :=
    Task.ends_map.mpr ⟨_, hends, rfl⟩
  rw [FeatureSet.viewed_eq h s] at hviewed
  obtain ⟨⟨r', j'⟩, hends', heq⟩ := Task.ends_map.mp hviewed
  obtain ⟨rfl, hview⟩ := Prod.mk.inj heq
  exact ⟨⟨j', w.shared⟩, hends', rfl, hview.symm⟩

/-- An order is bound in the scope itself, or two layers further out where it hides another one. A
loop merges into it and logs it, and afterwards it is merged into once more. -/
theorem outer_order_is_updated_alike :
    let one : Value := .map [("a", .int 1)]
    let order : Target := ⟨"order", none, .whole⟩
    let update : Statement := .act ⟨"Update", order,
      ⟨.with_, .literal (.map [("b", .int 2)]), none⟩, none⟩
    let log : Statement := .act ⟨"Log", ⟨"out", none, .whole⟩,
      ⟨.with_, .reference "order" [] .whole, none⟩, none⟩
    let f : FeatureSet :=
      ⟨"job", "", [.forEach "x" none (.literal (.list [.null])) none [update, log], log, update]⟩
    let i : Invocation := { scope := { name := "job", bindings := [("order", one)] } }
    let j : Invocation :=
      { scope := {
          name := "job"
          parents := [⟨"a", []⟩, ⟨"b", [("order", one)]⟩, ⟨"c", [("order", .null)]⟩] } }
    i.scope.isLocal "order" = true ∧ j.scope.isLocal "order" = false ∧
    ∃ r w w', Yields passing (f.exec .builtins) ⟨i, {}⟩ r w ∧
      Yields passing (f.exec .builtins) ⟨j, {}⟩ r w' ∧
      w'.shared = w.shared ∧ w'.own.view = w.own.view ∧
      w'.shared.log.map (·.message) = ["\x7b\"a\":1,\"b\":2\x7d", "\x7b\"a\":1\x7d"] := by
  intro one order update log f i j
  have hview : i.view = j.view := by
    have hfind : i.scope.find? = j.scope.find? := by
      funext x
      by_cases hx : x = "order"
      · subst hx
        rfl
      · have hnone (v : Value) : KeyMap.get? [("order", v)] x = none := if_neg (Ne.symm hx)
        simp [i, j, Scope.find?, List.findSome?_cons, hnone]
    rw [Invocation.view, Invocation.view, hfind]
  let look (s : Services) (_ : Except ExecutionError (Option Response) × Invocation) :
      List String :=
    s.log.map (·.message)
  have hrun : (((f.exec .builtins).run.run i {}).settle 0).2.map
      (look (((f.exec .builtins).run.run i {}).settle 0).1) =
        some ["\x7b\"a\":1,\"b\":2\x7d", "\x7b\"a\":1\x7d"] := by
    rw [Registry.builtins_eq]
    decide +kernel
  obtain ⟨s', ⟨r, own⟩, hends, hlog⟩ := Task.exists_passing_of_settle hrun
  obtain ⟨w', hends', hshared, hview'⟩ := (layers_make_no_difference f i j hview {}).2 passing r
    ⟨own, s'⟩ hends
  refine ⟨rfl, rfl, r, ⟨own, s'⟩, w', hends, hends', hshared, hview', ?_⟩
  rw [hshared]
  exact hlog

end FeatureFlow
