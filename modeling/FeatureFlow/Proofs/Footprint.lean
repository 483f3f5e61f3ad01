import FeatureFlow.Proofs.Changes
import FeatureFlow.Proofs.Correspondence

/-! What runs can change in the shared state. A published symbol, the contents of a repository and a
running server change only through commands that name them, and nothing else that is shared changes.
-/
namespace FeatureFlow

variable {others : Services → Services → Prop} {registry : Registry}

section Commands

variable {code part : Code} {w w' w₁ : World Invocation} {move : Move} {c : Command}

/-- The commands in the code, at any depth. -/
def Code.allCommands : Code → List Command
  | .block statements => Statement.blockCommands statements
  | .statement s => s.commands
  | .choice _ _ otherwise cases =>
    Statement.caseCommands cases ++ Statement.otherwiseCommands otherwise
  | .items _ _ _ body _ _ => Statement.blockCommands body

theorem Code.allCommands_part (h : code.next registry w = (w₁, move)) (hp : part ∈ move.parts)
    (hc : c ∈ part.allCommands) : c ∈ code.allCommands := by
  revert h
  fun_cases next registry code w <;> rintro ⟨⟩ <;>
    simp_all [Move.parts, allCommands, Statement.commands, Statement.blockCommands,
      Statement.caseCommands,
      Statement.otherwiseCommands]
  all_goals rcases hp with rfl | rfl <;> simp_all [Statement.blockCommands]

/-- Every action of a run is for a command that stands somewhere in the code. -/
theorem Runs.mem_allCommands {steps : List Step} {r : Except ExecutionError Flow}
    (h : Runs others registry code w steps r w') :
    ∀ c a o, .acted c a o ∈ steps → c ∈ code.allCommands := by
  induction h with
  | stop => simp
  | finish => simp
  | act hn =>
    obtain ⟨rfl, -, -⟩ := Code.next_act hn
    rintro c a o hmem
    cases List.mem_singleton.mp hmem
    simp [Code.allCommands, Statement.commands]
  | become hn _ ih | firstEnded hn _ _ ih | insideEnded hn _ _ ih =>
    intro c a o hmem
    exact Code.allCommands_part hn (by simp [Move.parts]) (ih c a o hmem)
  | first hn _ _ ih ihrest | inside hn _ _ ih ihrest =>
    intro c a o hmem
    rcases List.mem_append.mp hmem with hmem | hmem
    · exact Code.allCommands_part hn (by simp [Move.parts]) (ih c a o hmem)
    · exact Code.allCommands_part hn (by simp [Move.parts]) (ihrest c a o hmem)

/-- What the actions for its commands do to the shared state, one after the other, a run does. -/
theorem Runs.shared {P : Services → Services → Prop} (aged : ∀ s s', s.Aged s' → P s s')
    (trans : ∀ s s₁ s', P s s₁ → P s₁ s' → P s s')
    (acted : ∀ c ∈ code.allCommands, ∀ a scope deadline o u u', registry.get? c.action = some a →
      Yields others (a.run scope deadline c.result c.object) u o u' → P u.shared u'.shared)
    {steps : List Step} {r : Except ExecutionError Flow}
    (h : Runs others registry code w steps r w') :
    P w.shared w'.shared := by
  have hall := h.outside (P := fun steps u u' =>
    (∀ c a o, .acted c a o ∈ steps → c ∈ code.allCommands) → P u.shared u'.shared) ?_ ?_ ?_ ?_
  · exact hall h.mem_allCommands
  · intro u u' haged _
    exact aged _ _ haged.2
  · intro steps steps' u u₁ u' h h' hmem
    have hfirst := h fun c a o hc => hmem c a o (List.mem_append_left _ hc)
    have hsecond := h' fun c a o hc => hmem c a o (List.mem_append_right _ hc)
    exact trans _ _ _ hfirst hsecond
  · intro e u _
    exact aged _ _ .kept
  · intro c a scope deadline o u u' ha hrun hmem
    exact acted c (hmem c a o List.mem_cons_self) a scope deadline o u u' ha hrun

end Commands

/-- What a command can change: a symbol, the contents of a repository, or whether a server runs. -/
inductive Place where
  | symbol (name : String)
  | repository (name : String)
  | server (name : String)
  deriving Repr, DecidableEq

def Services.SameAt (s s' : Services) : Place → Prop
  | .symbol name => s'.symbols.get? name = s.symbols.get? name
  | .repository name => s'.repositories.contents name = s.repositories.contents name
  | .server name => s'.servers.contains name = s.servers.contains name

/-- The verb is one of those that change such a place, and the command gives its name. -/
def Command.MayChange (c : Command) : Place → Prop
  | .symbol name => Registry.lower c.action ∈ ["publish", "export"] ∧ c.result.name = name
  | .repository name =>
    Registry.lower c.action ∈ ["store", "save", "persist"] ∧ c.object.name? = some name
  | .server name => Registry.lower c.action ∈ ["start", "stop"] ∧ c.result.name = name

instance (c : Command) : (place : Place) → Decidable (c.MayChange place)
  | .symbol _ => inferInstanceAs (Decidable (_ ∧ _))
  | .repository _ => inferInstanceAs (Decidable (_ ∧ _))
  | .server _ => inferInstanceAs (Decidable (_ ∧ _))

theorem KeyMap.get?_erase {α : Type} (m : KeyMap α) {name other : String} (h : name ≠ other) :
    get? (erase m name) other = get? m other := by
  induction m with
  | nil => rfl
  | cons e m ih =>
    obtain ⟨k, v⟩ := e
    by_cases hk : k = name
    · subst k
      have hskip : erase ((name, v) :: m) name = erase m name := List.filter_cons_of_neg (by simp)
      rw [hskip, ih, get?, if_neg h]
    · have hkeep : erase ((k, v) :: m) name = (k, v) :: erase m name :=
        List.filter_cons_of_pos (by simpa using hk)
      rw [hkeep, get?, get?, ih]

/-- A store changes the repositories and takes an id. -/
theorem Services.store_eq {s s' : Services} {name : String} {v : Value} {receipt : Receipt}
    (h : s.store name v = (.ok receipt, s')) :
    s' = { s.issue with repositories := s'.repositories } := by
  unfold store at h
  split at h
  · cases h
    rfl
  · cases h

namespace Services.SameAt

variable {s s₁ s' : Services} {place : Place}

theorem refl : s.SameAt s place := by
  cases place <;> rfl

theorem trans (h : s.SameAt s₁ place) (h' : s₁.SameAt s' place) : s.SameAt s' place := by
  cases place <;> exact Eq.trans h' h

theorem aged (h : s.Aged s') : s.SameAt s' place := by
  cases h <;> cases place <;> rfl

theorem write (line : LogLine) : s.SameAt (s.write line) place := by
  cases place <;> rfl

theorem issue : s.SameAt s.issue place := by
  cases place <;> rfl

theorem publish {name : String} {v : Value} (h : place ≠ .symbol name) :
    s.SameAt (s.publish name v) place := by
  cases place with
  | symbol other =>
    have hne : name ≠ other := fun heq => h (heq ▸ rfl)
    exact (KeyMap.get?_insert s.symbols name other v).trans (if_neg hne)
  | repository other => rfl
  | server other => rfl

theorem store {name : String} {v : Value} {receipt : Receipt}
    (hs : s.store name v = (.ok receipt, s')) (h : place ≠ .repository name) :
    s.SameAt s' place := by
  have hrest := Services.store_eq hs
  cases place with
  | symbol other =>
    rw [hrest]
    rfl
  | repository other =>
    have hne : other ≠ name := fun heq => h (heq ▸ rfl)
    have haccounts := Repositories.store_accounts (Services.store_repositories hs)
    exact (haccounts.contents other).trans (if_neg hne)
  | server other =>
    rw [hrest]
    rfl

theorem startServer {name : String} (h : place ≠ .server name) :
    s.SameAt (s.startServer name).2 place := by
  cases place with
  | symbol other => rfl
  | repository other => rfl
  | server other =>
    have hne : name ≠ other := fun heq => h (heq ▸ rfl)
    have hget : (s.servers.insert name ()).get? other = s.servers.get? other :=
      (KeyMap.get?_insert s.servers name other ()).trans (if_neg hne)
    exact congrArg Option.isSome hget

theorem stopServer {name : String} (h : place ≠ .server name) :
    s.SameAt (s.stopServer name).2 place := by
  cases place with
  | symbol other => rfl
  | repository other => rfl
  | server other =>
    have hne : name ≠ other := fun heq => h (heq ▸ rfl)
    exact congrArg Option.isSome (KeyMap.get?_erase s.servers hne)

end Services.SameAt

/-- What a command does to the shared state: one place that it names is changed, or it leaves all
places alone. -/
inductive Services.Touched (others : Services → Services → Prop) (c : Command) :
    Services → Services → Prop where
  | kept {s : Services} : Touched others c s s
  | waited {s s' : Services} (h : others s s') : Touched others c s s'
  | logged {s : Services} (line : LogLine) : Touched others c s (s.write line)
  | issued {s : Services} : Touched others c s s.issue
  | changed {s s' : Services} (place : Place) (may : c.MayChange place)
      (same : ∀ other, other ≠ place → s.SameAt s' other)
        (flag : s'.shuttingDown = s.shuttingDown) :
      Touched others c s s'

theorem Action.Effect.touched {a : Action} {c : Command} {w w' : World (List Emission)}
    {o : Except ActionError Outcome} (h : a.Effect others c.result c.object w o w')
    (hverb : Registry.lower c.action ∈ a.verbs) : w.shared.Touched others c w'.shared := by
  cases h with
  | failed | read => exact .kept
  | waited _ hs => exact .waited hs
  | logged => exact .logged _
  | emitted | accepted => exact .issued
  | published ha =>
    subst ha
    exact .changed (.symbol c.result.name) ⟨hverb, rfl⟩ (fun _ => .publish) rfl
  | @stored repository v receipt s ha hname hs =>
    subst ha
    have hflag : s.issue.shuttingDown = w.shared.shuttingDown := by
      rw [Services.store_eq hs]
      rfl
    refine .changed (.repository repository) ⟨hverb, hname⟩ (fun other hne => ?_) hflag
    exact (Services.SameAt.store hs hne).trans .issue
  | started ha =>
    subst ha
    have hverb' : Registry.lower c.action ∈ ["start", "stop"] := List.mem_append_left ["stop"] hverb
    exact .changed (.server c.result.name) ⟨hverb', rfl⟩ (fun _ => .startServer) rfl
  | stopped ha =>
    subst ha
    have hverb' : Registry.lower c.action ∈ ["start", "stop"] :=
      List.mem_append_right ["start"] hverb
    exact .changed (.server c.result.name) ⟨hverb', rfl⟩ (fun _ => .stopServer) rfl

namespace Services.Touched

variable {c : Command} {s s' : Services} {place : Place}

theorem sameAt (h : s.Touched others c s') (hothers : ∀ t t', others t t' → t.SameAt t' place)
    (hplace : ¬ c.MayChange place) : s.SameAt s' place := by
  cases h with
  | kept => exact .refl
  | waited h => exact hothers _ _ h
  | logged line => exact .write line
  | issued => exact .issue
  | changed changed may same =>
    apply same
    rintro rfl
    exact hplace may

theorem shuttingDown (h : s.Touched others c s')
    (hothers : ∀ t t', others t t' → t'.shuttingDown = t.shuttingDown) :
    s'.shuttingDown = s.shuttingDown := by
  cases h with
  | waited h => exact hothers _ _ h
  | changed _ _ _ flag => exact flag
  | _ => rfl

theorem seen_eq {β : Type} {seen : Services → β} (h : s.Touched others c s')
    (hquiet : ∀ place, ¬ c.MayChange place) (hwrite : ∀ t line, seen (t.write line) = seen t)
    (hissue : ∀ t, seen t.issue = seen t) (hothers : ∀ t t', others t t' → seen t' = seen t) :
    seen s' = seen s := by
  cases h with
  | kept => rfl
  | waited h => exact hothers _ _ h
  | logged line => exact hwrite s line
  | issued => exact hissue s
  | changed place may => exact absurd may (hquiet place)

end Services.Touched

/-- The second state differs from the first only by what these commands can change, and by what
others do. -/
structure Services.ChangedBy (others : Services → Services → Prop) (commands : List Command)
    (s s' : Services) :
    Prop where
  /-- A place that others leave alone has changed only if a command names it. -/
  places : ∀ place, (∀ t t', others t t' → t.SameAt t' place) → ¬ s.SameAt s' place →
    ∃ c ∈ commands, c.MayChange place
  shuttingDown : (∀ t t', others t t' → t'.shuttingDown = t.shuttingDown) →
    s'.shuttingDown = s.shuttingDown
  /-- If no command can change a place, nothing is seen to change but the log, the number of ids
  given out, the time and whether a value could not be given its shape. -/
  rest : (∀ c ∈ commands, ∀ place, ¬ c.MayChange place) → ∀ (β : Type) (seen : Services → β),
    (∀ t line, seen (t.write line) = seen t) → (∀ t, seen t.issue = seen t) →
    (∀ t t', t.Aged t' → seen t' = seen t) → (∀ t t', others t t' → seen t' = seen t) →
      seen s' = seen s

/-- An id more that is given out makes no difference. -/
theorem Services.ChangedBy.issue {commands : List Command} {s s' : Services}
    (h : s.ChangedBy others commands s') :
    s.ChangedBy others commands s'.issue := by
  refine ⟨fun place hothers hne => h.places place hothers fun hsame => hne (hsame.trans .issue),
    h.shuttingDown, ?_⟩
  intro hquiet β seen hwrite hissue haged hothers
  rw [hissue, h.rest hquiet β seen hwrite hissue haged hothers]

theorem Runs.touched {code : Code} {P : Services → Services → Prop}
    (aged : ∀ s s', s.Aged s' → P s s') (trans : ∀ s s₁ s', P s s₁ → P s₁ s' → P s s')
    (touched : ∀ c ∈ code.allCommands, ∀ s s', s.Touched others c s' → P s s')
    {w w' : World Invocation} {steps : List Step} {r : Except ExecutionError Flow}
    (h : Runs others Registry.builtins code w steps r w') :
    P w.shared w'.shared := by
  refine h.shared aged trans ?_
  intro c hc a scope deadline o u u' ha hrun
  obtain ⟨hbuiltin, hverb⟩ := Registry.get?_builtins.mp ha
  exact touched c hc _ _ ((Action.builtin_effect hbuiltin hrun).touched hverb)

theorem Runs.changedBy {code : Code} {w w' : World Invocation} {steps : List Step}
    {r : Except ExecutionError Flow} (h : Runs others Registry.builtins code w steps r w') :
    w.shared.ChangedBy others code.allCommands w'.shared := by
  constructor
  · intro place hothers hne
    refine Classical.byContradiction fun hnone => hne ?_
    refine h.touched (P := fun s s' => s.SameAt s' place) (fun _ _ => .aged)
      (fun _ _ _ => .trans) ?_
    intro c hc s s' htouched
    exact htouched.sameAt hothers fun hmay => hnone ⟨c, hc, hmay⟩
  · intro hothers
    refine h.touched (P := fun s s' => s'.shuttingDown = s.shuttingDown)
      (fun _ _ haged => by cases haged <;> rfl)
      (fun _ _ _ hs hs' => hs'.trans hs) ?_
    intro c _ s s' htouched
    exact htouched.shuttingDown hothers
  · intro hquiet β seen hwrite hissue haged hothers
    refine h.touched (P := fun s s' => seen s' = seen s) haged (fun _ _ _ hs hs' => hs'.trans hs) ?_
    intro c hc s s' htouched
    exact htouched.seen_eq (hquiet c hc) hwrite hissue hothers

/-- An engine at work: who has subscribed to what, and the state that its feature sets share. -/
structure Engine.Live where
  engine : Engine
  shared : Services

/-- A feature set can run for a trigger between these two. All that a run is given to change is the
shared state. -/
inductive Engine.Live.Ran (others : Services → Services → Prop) (f : FeatureSet) (t : Trigger)
    (deadline : Option Nat) :
    Engine.Live → HandlerRun → Engine.Live → Prop where
  | ran {e : Engine} {s s' : Services} {run : HandlerRun}
      (h : Task.Ends others (e.runHandler f t deadline s) s' run) :
      Ran others f t deadline ⟨e, s⟩ run ⟨e, s'⟩

theorem FeatureSet.yields_changedBy {f : FeatureSet} {w w' : World Invocation}
    {r : Except ExecutionError (Option Response)}
    (h : Yields others (f.exec Registry.builtins) w r w') :
    w.shared.ChangedBy others f.commands w'.shared := by
  obtain ⟨steps, flow, hruns, -⟩ := FeatureSet.yields_iff_runs.mp h
  exact hruns.changedBy

/-- With the built-in actions, a run of a feature set changes a symbol only if a publish or export
command in it has that name for its result, the contents of a repository only if a store, save or
persist command names it by its object, and a server only if a start or stop command has it for its
result. It never changes the shutdown flag and the subscriptions. Without such commands all that is
shared stays as it was. This holds however the run ends; what others do while it waits is theirs. -/
theorem effects_stay_in_footprint (others : Services → Services → Prop) (f : FeatureSet) :
    (∀ w r w', Yields others (f.exec Registry.builtins) w r w' →
      w.shared.ChangedBy others f.commands w'.shared) ∧
    ∀ (a a' : Engine.Live) (t : Trigger) (deadline : Option Nat) (run : Engine.HandlerRun),
      a.engine.registry = .builtins → a.Ran others f t deadline run a' →
        a.shared.ChangedBy others f.commands a'.shared ∧
          a'.engine.subscriptions = a.engine.subscriptions := by
  refine ⟨fun _ _ _ => FeatureSet.yields_changedBy, ?_⟩
  rintro _ _ t deadline run he ⟨hends⟩
  rw [Engine.runHandler_eq] at hends
  obtain ⟨handling, hhandling, -⟩ := Task.ends_map.mp hends
  obtain ⟨rfl, rfl, ⟨w', hyields, -, hs⟩, -⟩ := Engine.ends_handling hhandling
  rw [he] at hyields
  have hchanged := FeatureSet.yields_changedBy hyields
  refine ⟨?_, rfl⟩
  rcases hs with rfl | rfl
  · exact hchanged
  · exact hchanged.issue

/-- A loop publishes a symbol twice, and then the run waits until its deadline has passed. -/
theorem late_run_changes_what_it_names :
    let publish : Command := ⟨"Publish", ⟨"total", none, .whole⟩,
      ⟨.with_, .reference "x" [] .whole, none⟩, none⟩
    let wait : Command := ⟨"WAIT", ⟨"app", none, .whole⟩, ⟨.for_, .literal .null, none⟩, none⟩
    let loop : Statement := .forEach "x" none (.literal (.list [.int 1, .int 2])) none
      [.act publish]
    let f : FeatureSet := ⟨"job", "", [loop, .act wait]⟩
    let w : World Invocation := ⟨{ scope := { name := "job" }, deadline := some 5 },
      { symbols := [("rate", .int 5)] }⟩
    ∃ r w', Yields passing (f.exec Registry.builtins) w r w' ∧ r.toOption.isNone = true ∧
      w'.shared.clock = 5 ∧
      (w'.shared.symbols.get? "total").map Value.display = some "2" ∧
      w'.shared.symbols.get? "rate" = some (.int 5) ∧ w'.shared.shuttingDown = false := by
  intro publish wait loop f w
  let look (s : Services) (ended : Except ExecutionError (Option Response) × Invocation) :
      Bool × Nat × Option String :=
    (ended.1.toOption.isNone, s.clock, (s.symbols.get? "total").map Value.display)
  have hrun : ((((f.exec Registry.builtins).run).run w.own w.shared).settle 5).2.map
      (look ((((f.exec Registry.builtins).run).run w.own w.shared).settle 5).1) =
        some (true, 5, some "2") := by
    rw [Registry.builtins_eq]
    decide +kernel
  obtain ⟨s', ⟨r, own⟩, hends, hlook⟩ := Task.exists_passing_of_settle hrun
  have hyields : Yields passing (f.exec Registry.builtins) w r ⟨own, s'⟩ := hends
  obtain ⟨hfailed, hclock, htotal⟩ : r.toOption.isNone = true ∧ s'.clock = 5 ∧
      (s'.symbols.get? "total").map Value.display = some "2" := by
    simpa [look] using hlook
  have hchanged := (effects_stay_in_footprint passing f).1 w r _ hyields
  have hnone : ¬ ∃ c ∈ f.commands, c.MayChange (.symbol "rate") := by
    decide +kernel
  have hrate : w.shared.SameAt s' (.symbol "rate") := by
    refine Classical.byContradiction fun hne => hnone (hchanged.places _ ?_ hne)
    intro t t' ht
    rw [ht]
    rfl
  have hflag : s'.shuttingDown = w.shared.shuttingDown := by
    refine hchanged.shuttingDown ?_
    intro t t' ht
    rw [ht]
  exact ⟨r, ⟨own, s'⟩, hyields, hfailed, hclock, htotal, hrate, hflag⟩

end FeatureFlow
