import FeatureFlow.Proofs.Runs

/-! Two runs side by side. A correspondence says which scopes, outboxes and shared states are alike.
What starts alike goes on alike and ends with the same result, if the actions that it runs do so. -/
namespace FeatureFlow

variable {α β γ δ ε σ : Type} {S W : Services → Services → Prop}

/-- Two tasks wait for the same and end alike. While they wait they are taken to states that are
alike again. -/
inductive Task.Rel (S W : Services → Services → Prop) (R : α → β → Prop) :
    Task α → Task β → Prop where
  | done {s t : Services} {a : α} {b : β} (hs : S s t) (h : R a b) :
      Rel S W R (.done s a) (.done t b)
  | waiting {s t : Services} {d : Option Nat} {resume : Wake → Services → Task α}
      {resume' : Wake → Services → Task β} (hs : W s t)
      (h : ∀ w s t, W s t → Rel S W R (resume w s) (resume' w t)) :
      Rel S W R (.waiting s d resume) (.waiting t d resume')

namespace Task.Rel

variable {R : α → β → Prop} {Q : γ → δ → Prop}

theorem bind {t : Task α} {u : Task β} {f : α → Services → Task γ} {g : β → Services → Task δ}
    (h : Rel S W R t u) (hf : ∀ a b s s', R a b → S s s' → Rel S W Q (f a s) (g b s')) :
    Rel S W Q (t.bind f) (u.bind g) := by
  induction h with
  | done hs hr => exact hf _ _ _ _ hr hs
  | waiting hs _ ih => exact .waiting hs ih

theorem refl {R : α → α → Prop} (h : ∀ a, R a a) (t : Task α) : Rel Eq Eq R t t := by
  induction t with
  | done s a => exact .done rfl (h a)
  | waiting s d resume ih => exact .waiting rfl fun w s t hs => hs ▸ ih w s

/-- Tasks that are alike in everything are the same. -/
theorem eq {t u : Task α} (h : Rel Eq Eq Eq t u) : t = u := by
  induction h with
  | done hs hr => rw [hs, hr]
  | @waiting s t d resume resume' hs _ ih =>
    obtain rfl : resume = resume' := funext fun w => funext fun s => ih w s s rfl
    rw [hs]

end Task.Rel

/-- Two computations that, wherever they start alike, give the same result and end alike. -/
def Like (S W : Services → Services → Prop) (O : σ → σ → Prop)
    (x y : ExceptT ε (StateT σ Process) α) : Prop :=
  ∀ o o' s s', O o o' → S s s' →
    Task.Rel S W (fun r r' => r.1 = r'.1 ∧ O r.2 r'.2) (x.run.run o s) (y.run.run o' s')

section Rules

variable {O : σ → σ → Prop}

theorem like_pure {a : α} : Like S W O (pure a : ExceptT ε (StateT σ Process) α) (pure a) :=
  fun _ _ _ _ ho hs => .done hs ⟨rfl, ho⟩

theorem like_throw {e : ε} : Like S W O (throw e : ExceptT ε (StateT σ Process) α) (throw e) :=
  fun _ _ _ _ ho hs => .done hs ⟨rfl, ho⟩

theorem Like.bind {x y : ExceptT ε (StateT σ Process) β} {f g : β → ExceptT ε (StateT σ Process) α}
    (hx : Like S W O x y) (hf : ∀ b, Like S W O (f b) (g b)) : Like S W O (x >>= f) (y >>= g) := by
  intro o o' s s' ho hs
  refine Task.Rel.bind (hx o o' s s' ho hs) ?_
  rintro ⟨r, o₁⟩ ⟨r', o₁'⟩ s₁ s₁' ⟨hr, ho₁⟩ hs₁
  obtain rfl : r = r' := hr
  cases r with
  | error e => exact .done hs₁ ⟨rfl, ho₁⟩
  | ok b => exact hf b o₁ o₁' s₁ s₁' ho₁ hs₁

theorem like_get_bind {f g : σ → ExceptT ε (StateT σ Process) α}
    (h : ∀ o o', O o o' → Like S W O (f o) (g o')) :
    Like S W O (get >>= f) (get >>= g) :=
  fun o o' s s' ho hs => h o o' ho o o' s s' ho hs

theorem like_modifyGet {f g : σ → α × σ}
    (h : ∀ o o', O o o' → (f o).1 = (g o').1 ∧ O (f o).2 (g o').2) :
    Like S W O (modifyGet f : ExceptT ε (StateT σ Process) α) (modifyGet g) := by
  intro o o' s s' ho hs
  obtain ⟨hr, ho₁⟩ := h o o' ho
  exact .done hs ⟨congrArg Except.ok hr, ho₁⟩

theorem like_set {o o' : σ} (h : O o o') :
    Like S W O (set o : ExceptT ε (StateT σ Process) PUnit) (set o') :=
  fun _ _ _ _ _ hs => .done hs ⟨rfl, h⟩

/-- A process may give results that are only alike, if what comes after it makes no difference
between them. -/
theorem like_process_bind {p : Process β} {q : Process γ} {R : β → γ → Prop}
    {f : β → ExceptT ε (StateT σ Process) α} {g : γ → ExceptT ε (StateT σ Process) α}
    (hp : ∀ s s', S s s' → Task.Rel S W R (p s) (q s'))
      (hf : ∀ b c, R b c → Like S W O (f b) (g c)) :
    Like S W O (ExceptT.lift (StateT.lift p) >>= f) (ExceptT.lift (StateT.lift q) >>= g) := by
  intro o o' s s' ho hs
  have hlift : Task.Rel S W (fun r r' => ∃ b c, r = (.ok b, o) ∧ r' = (.ok c, o') ∧ R b c)
      ((ExceptT.lift (StateT.lift p) : ExceptT ε (StateT σ Process) β).run.run o s)
      ((ExceptT.lift (StateT.lift q) : ExceptT ε (StateT σ Process) γ).run.run o' s') := by
    have hstate : Task.Rel S W (fun r r' => r.2 = o ∧ r'.2 = o' ∧ R r.1 r'.1)
        ((StateT.lift p : StateT σ Process β).run o s)
          ((StateT.lift q : StateT σ Process γ).run o' s') :=
      (hp s s' hs).bind fun b c s s' hr hs => .done hs ⟨rfl, rfl, hr⟩
    refine hstate.bind ?_
    rintro ⟨b, o₁⟩ ⟨c, o₁'⟩ s₁ s₁' ⟨rfl, rfl, hr⟩ hs₁
    exact .done hs₁ ⟨b, c, rfl, rfl, hr⟩
  refine Task.Rel.bind hlift ?_
  rintro _ _ s₁ s₁' ⟨b, c, rfl, rfl, hr⟩ hs₁
  exact hf b c hr o o' s₁ s₁' ho hs₁

end Rules

theorem ActionM.like_ofExcept {O : List Emission → List Emission → Prop} {wrap : ε → ActionError}
    {x : Except ε α} :
    Like S W O (ActionM.ofExcept wrap x) (ActionM.ofExcept wrap x) := by
  cases x with
  | ok a => exact like_pure
  | error e => exact like_throw

theorem Exec.like_ofExcept {O : Invocation → Invocation → Prop} {wrap : ε → ExecutionError}
    {x : Except ε α} :
    Like S W O (Exec.ofExcept wrap x) (Exec.ofExcept wrap x) := by
  cases x with
  | ok a => exact like_pure
  | error e => exact like_throw

theorem Scope.resolve_congr {a b : Scope} (h : a.find? = b.find?) (symbols : KeyMap Value) :
    a.resolve symbols = b.resolve symbols := by
  funext name
  rw [resolve, resolve, h]

theorem Exec.inChild_run {name : String} {x : Exec α} {i : Invocation} {s : Services} :
    (inChild name x).run.run i s = (x.run.run { i with scope := (i.scope.child name).1 } s).bind
      fun p s => .done s (p.1, { p.2 with scope := i.scope.snapshot.2 }) := rfl

theorem Exec.get?_of_actionFor {registry : Registry} {c : Command} {a : Action}
    (h : actionFor registry c = .ok a) :
    registry.get? c.action = some a := by
  rw [actionFor] at h
  split at h
  · cases h
  · split at h
    · cases h
      assumption
    · cases h

/-- What is alike of two runs. Of a scope statements see its name and what is found in it, of the
shared state the published symbols and whether the deadline has passed. -/
structure Correspondence where
  scope : Scope → Scope → Prop
  outbox : List Emission → List Emission → Prop
  shared : Services → Services → Prop
  /-- Where tasks wait, and where they are woken. -/
  waiting : Services → Services → Prop
  /-- The deadline that both have may be this one. -/
  deadline : Option Nat → Prop
  name : ∀ {a b}, scope a b → a.name = b.name
  find? : ∀ {a b}, scope a b → a.find? = b.find?
  bind : ∀ {a b}, scope a b → ∀ x v, scope (a.bind x v) (b.bind x v)
  snapshot : ∀ {a b}, scope a b → scope a.snapshot.2 b.snapshot.2
  child : ∀ {a b}, scope a b → ∀ name, scope (a.child name).1 (b.child name).1
  symbols : ∀ {s t}, shared s t → s.symbols = t.symbols
  elapse : ∀ {s t}, shared s t → shared s.elapse t.elapse
  late : ∀ {s t d}, shared s t → deadline d → d.any (· ≤ s.clock) = d.any (· ≤ t.clock)
  crash : ∀ {s t}, shared s t → ∀ b, shared (s.crash b) (t.crash b)

namespace Correspondence

variable (C : Correspondence)

structure Invoked (i j : Invocation) : Prop where
  scope : C.scope i.scope j.scope
  outbox : C.outbox i.outbox j.outbox
  deadline : i.deadline = j.deadline
  admitted : C.deadline i.deadline

/-- A part of a run that goes on alike. -/
def Keeps (x : Exec α) : Prop := Like C.shared C.waiting C.Invoked x x

/-- An action that goes on alike in scopes that are alike. -/
def Admits (a : Action) : Prop :=
  ∀ scope scope' deadline target object, C.scope scope scope' →
    Like C.shared C.waiting C.outbox (a.run scope deadline target object)
      (a.run scope' deadline target object)

variable {C} {registry : Registry}

theorem eval_eq {a b : Scope} (h : C.scope a b) (symbols : KeyMap Value) (e : Expression) :
    a.eval symbols e = b.eval symbols e := by
  rw [Scope.eval, Scope.eval, Scope.resolve_congr (C.find? h)]

/-- The shared state is read. -/
theorem like_services_bind {O : σ → σ → Prop} {f g : Services → ExceptT ε (StateT σ Process) α}
    (h : ∀ s t, C.shared s t → Like C.shared C.waiting O (f s) (g t)) :
    Like C.shared C.waiting O (ExceptT.lift (StateT.lift Process.services) >>= f)
      (ExceptT.lift (StateT.lift Process.services) >>= g) :=
  like_process_bind (fun _ _ hs => .done hs hs) h

theorem eval_keeps {e : Expression} : C.Keeps (Exec.eval e) := by
  apply like_services_bind
  intro s t hs
  apply like_get_bind
  intro i j hij
  rw [C.symbols hs, eval_eq hij.scope]
  exact Exec.like_ofExcept

theorem holds_keeps {guard : Option Expression} : C.Keeps (Exec.holds guard) := by
  cases guard with
  | none => exact like_pure
  | some e => exact eval_keeps.bind fun v => like_pure

theorem modify_keeps {f : Services → Services} (h : ∀ s t, C.shared s t → C.shared (f s) (f t)) :
    C.Keeps (Exec.ofProcess (Process.modify f)) :=
  fun _ _ s t hij hs => .done (h s t hs) ⟨rfl, hij⟩

theorem checkDeadline_keeps : C.Keeps Exec.checkDeadline := by
  refine (modify_keeps fun s t => C.elapse).bind fun _ => like_services_bind fun s t hs => ?_
  apply like_get_bind
  intro i j hij
  rw [← hij.deadline, C.late hs hij.admitted, C.name hij.scope]
  split
  · exact like_throw
  · exact like_pure

theorem modifyScope_keeps {f : Scope → Scope} (h : ∀ a b, C.scope a b → C.scope (f a) (f b)) :
    C.Keeps (Exec.modifyScope f) :=
  like_modifyGet fun _ _ hij => ⟨rfl, h _ _ hij.scope, hij.outbox, hij.deadline, hij.admitted⟩

theorem inChild_keeps {name : String} {x : Exec α} (h : C.Keeps x) :
    C.Keeps (Exec.inChild name x) := by
  intro i j s t hij hs
  have hinner : C.Invoked { i with scope := (i.scope.child name).1 }
      { j with scope := (j.scope.child name).1 } :=
    ⟨C.child hij.scope name, hij.outbox, hij.deadline, hij.admitted⟩
  rw [Exec.inChild_run, Exec.inChild_run]
  refine (h _ _ s t hinner hs).bind ?_
  rintro ⟨r, i₁⟩ ⟨r', j₁⟩ s₁ t₁ ⟨hr, hij₁⟩ hs₁
  exact .done hs₁ ⟨hr, C.snapshot hij.scope, hij₁.outbox, hij₁.deadline, hij₁.admitted⟩

theorem perform_keeps {a : Action} {c : Command} (h : C.Admits a) : C.Keeps (Exec.perform a c) := by
  apply like_get_bind
  intro i j hij
  rw [← hij.deadline]
  refine like_process_bind
    (fun s t hs => h _ _ i.deadline c.result c.object hij.scope _ _ s t hij.outbox hs) ?_
  rintro ⟨o, outbox⟩ ⟨o', outbox'⟩ ⟨ho, hout⟩
  obtain rfl : o = o' := ho
  exact (like_set ⟨hij.scope, hout, rfl, hij.admitted⟩).bind fun _ => Exec.like_ofExcept

theorem conclude_alike (role : Role) (target : Target) {a b : Scope} (h : C.scope a b)
    (o : Outcome) :
    (Exec.conclude role target a o).1 = (Exec.conclude role target b o).1 ∧
      C.scope (Exec.conclude role target a o).2 (Exec.conclude role target b o).2 := by
  cases o with
  | respond r => exact ⟨rfl, h⟩
  | assign name v => exact ⟨rfl, C.bind h name v⟩
  | bind v =>
    rw [Exec.conclude, Exec.conclude]
    split
    · exact ⟨rfl, h⟩
    · exact ⟨rfl, C.bind h _ _⟩
  | proceed =>
    rw [Exec.conclude, Exec.conclude]
    split <;> exact ⟨rfl, h⟩

theorem act_keeps {a : Action} {c : Command} (h : C.Admits a) : C.Keeps (Exec.act a c) := by
  refine (perform_keeps h).bind fun o =>
    (modify_keeps fun s t hs => C.crash hs _).bind fun _ => like_modifyGet ?_
  intro i j hij
  obtain ⟨hflow, hscope⟩ := conclude_alike a.role c.result hij.scope o
  exact ⟨hflow, hscope, hij.outbox, hij.deadline, hij.admitted⟩

theorem runCommand_keeps {c : Command} (h : ∀ a, registry.get? c.action = some a → C.Admits a) :
    C.Keeps (Exec.runCommand registry c) := by
  refine holds_keeps.bind fun b => ?_
  cases b with
  | false => exact like_pure
  | true =>
    cases hfor : Exec.actionFor registry c with
    | error e => exact fun _ _ _ _ hij hs => .done hs ⟨rfl, hij⟩
    | ok a => exact act_keeps (h a (Exec.get?_of_actionFor hfor))

theorem runItems_keeps {base : String} {bind : Value → Nat → Scope → Scope}
    {filter : Option Expression} {body : Exec Flow} {i : Nat} {values : List Value}
    (hbind : ∀ v i a b, C.scope a b → C.scope (bind v i a) (bind v i b)) (hbody : C.Keeps body) :
    C.Keeps (Exec.runItems base bind filter body i values) := by
  induction values generalizing i with
  | nil => exact like_pure
  | cons v values ih =>
    refine checkDeadline_keeps.bind fun _ => ?_
    have hround : C.Keeps do
        Exec.modifyScope (bind v i)
        if ← Exec.holds filter then body else return .proceed := by
      refine (modifyScope_keeps (hbind v i)).bind fun _ => holds_keeps.bind fun b => ?_
      cases b with
      | false => exact like_pure
      | true => exact hbody
    refine (inChild_keeps hround).bind fun flow => ?_
    cases flow with
    | respond r => exact like_pure
    | proceed => exact ih

end Correspondence

mutual

/-- The commands of a statement, at any depth. -/
def Statement.commands : Statement → List Command
  | .act c => [c]
  | .choose _ cases otherwise =>
    Statement.caseCommands cases ++ Statement.otherwiseCommands otherwise
  | .forEach _ _ _ _ body => Statement.blockCommands body

def Statement.blockCommands : List Statement → List Command
  | [] => []
  | s :: rest => s.commands ++ Statement.blockCommands rest

def Statement.caseCommands : List (Case Statement) → List Command
  | [] => []
  | ⟨_, _, body⟩ :: cases => Statement.blockCommands body ++ Statement.caseCommands cases

def Statement.otherwiseCommands : Option (List Statement) → List Command
  | none => []
  | some body => Statement.blockCommands body

end

def FeatureSet.commands (f : FeatureSet) : List Command := Statement.blockCommands f.statements

namespace Correspondence

variable {C : Correspondence} {registry : Registry}

/-- The actions of these commands go on alike. -/
def AdmitsAll (C : Correspondence) (registry : Registry) (commands : List Command) : Prop :=
  ∀ c ∈ commands, ∀ a, registry.get? c.action = some a → C.Admits a

theorem admitsAll_append {commands commands' : List Command} :
    C.AdmitsAll registry (commands ++ commands') ↔
      C.AdmitsAll registry commands ∧ C.AdmitsAll registry commands' :=
  List.forall_mem_append

theorem bindItem_alike {item : String} {index : Option String} (v : Value) (i : Nat) (a b : Scope)
    (h : C.scope a b) :
    C.scope (Exec.bindItem item index v i a) (Exec.bindItem item index v i b) := by
  cases index with
  | none => exact C.bind h _ _
  | some name => exact C.bind (C.bind h _ _) _ _

mutual

theorem runBlock_keeps (statements : List Statement)
    (h : C.AdmitsAll registry (Statement.blockCommands statements)) :
    C.Keeps (Exec.runBlock registry statements) := by
  match statements with
  | [] =>
    rw [Exec.runBlock]
    exact like_pure
  | s :: rest =>
    rw [Statement.blockCommands, admitsAll_append] at h
    rw [Exec.runBlock]
    refine checkDeadline_keeps.bind fun _ => (runStatement_keeps s h.1).bind fun flow => ?_
    cases flow with
    | respond r => exact like_pure
    | proceed => exact runBlock_keeps rest h.2

theorem runStatement_keeps (s : Statement) (h : C.AdmitsAll registry s.commands) :
    C.Keeps (Exec.runStatement registry s) := by
  match s with
  | .act c =>
    rw [Exec.runStatement]
    exact runCommand_keeps (h c (by simp [Statement.commands]))
  | .choose subject cases otherwise =>
    rw [Statement.commands, admitsAll_append] at h
    rw [Exec.runStatement]
    refine eval_keeps.bind fun v => like_get_bind fun i j hij => ?_
    rw [C.name hij.scope]
    exact runCases_keeps cases h.1 (runOtherwise_keeps otherwise h.2)
  | .forEach item index collection filter body =>
    rw [Statement.commands] at h
    rw [Exec.runStatement]
    refine eval_keeps.bind fun v => Exec.like_ofExcept.bind fun values => like_get_bind
      fun i j hij => ?_
    rw [C.name hij.scope]
    exact runItems_keeps bindItem_alike (runBlock_keeps body h)

theorem runCases_keeps {name : String} {v : Value} {otherwise : Exec Flow}
    (cases : List (Case Statement)) (h : C.AdmitsAll registry (Statement.caseCommands cases))
    (ho : C.Keeps otherwise) :
    C.Keeps (Exec.runCases registry name v otherwise cases) := by
  match cases with
  | [] =>
    rw [Exec.runCases]
    exact ho
  | ⟨pattern, guard, body⟩ :: cases =>
    rw [Statement.caseCommands, admitsAll_append] at h
    rw [Exec.runCases]
    refine Exec.like_ofExcept.bind fun fits => ?_
    cases fits with
    | false => exact runCases_keeps cases h.2 ho
    | true =>
      have hcase : C.Keeps do
          if ← Exec.holds guard then return some (← Exec.runBlock registry body)
          else return none := by
        refine holds_keeps.bind fun b => ?_
        cases b with
        | false => exact like_pure
        | true => exact (runBlock_keeps body h.1).bind fun flow => like_pure
      refine (inChild_keeps hcase).bind fun flow => ?_
      cases flow with
      | none => exact runCases_keeps cases h.2 ho
      | some flow => exact like_pure

theorem runOtherwise_keeps {name : String} (otherwise : Option (List Statement))
    (h : C.AdmitsAll registry (Statement.otherwiseCommands otherwise)) :
    C.Keeps (Exec.runOtherwise registry name otherwise) := by
  match otherwise with
  | none =>
    rw [Exec.runOtherwise]
    exact like_pure
  | some body =>
    rw [Statement.otherwiseCommands] at h
    rw [Exec.runOtherwise]
    exact inChild_keeps (runBlock_keeps body h)

end

theorem exec_keeps {f : FeatureSet} (h : C.AdmitsAll registry f.commands) :
    C.Keeps (f.exec registry) := by
  refine (runBlock_keeps f.statements h).bind fun flow => ?_
  cases flow <;> exact like_pure

/-- Runs of a feature set from alike beginnings. -/
theorem run_rel {f : FeatureSet} {scope scope' : Scope} {deadline : Option Nat} {s t : Services}
    (h : C.AdmitsAll registry f.commands) (hscope : C.scope scope scope') (hout : C.outbox [] [])
    (hdeadline : C.deadline deadline) (hs : C.shared s t) :
    Task.Rel C.shared C.waiting
      (fun run run' => run.result = run'.result ∧ C.outbox run.outbox run'.outbox)
      (f.run registry scope deadline s) (f.run registry scope' deadline t) := by
  refine (exec_keeps h { scope, deadline } { scope := scope', deadline } s t
    ⟨hscope, hout, rfl, hdeadline⟩ hs).bind ?_
  rintro ⟨r, i⟩ ⟨r', j⟩ s₁ t₁ ⟨hr, hij⟩ hs₁
  exact .done hs₁ ⟨hr, hij.outbox⟩

end Correspondence

end FeatureFlow
