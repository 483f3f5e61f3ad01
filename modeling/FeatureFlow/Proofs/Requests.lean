import FeatureFlow.Proofs.Cascade
import FeatureFlow.Proofs.Declarations
import FeatureFlow.Proofs.Startup

/-! Requests. What becomes of a request is settled by the contract and by the request before
anything runs. It is refused and nothing happens, or one feature set runs for it, and a record of
all runs shows that the others are started by what that one gave out. -/
namespace FeatureFlow.Engine

/-- What becomes of a request. -/
inductive Ruling where
  | refuse (response : HttpResponse)
  | run (f : FeatureSet) (operation : String) (captures : KeyMap String)

def ruling (e : Engine) (request : Request) : Ruling :=
  match Route.find? (e.routes.getD []) request.method request.path with
  | none => .refuse (.noRoute request.method request.path)
  | some (r, captures) =>
    if r.missingQuery request.query ≠ [] then
      .refuse (.ofJson 400 (.object [("error", .string "missing required query parameters"),
        ("missing", .array ((r.missingQuery request.query).map .string))]))
    else if r.bodyRequired && request.bodyValue.isNull then .refuse
      (.error 400 "request body is required")
    else match e.featureSet? r.operation with
      | none => .refuse (.error 500 s!"no handler for {r.operation}")
      | some f => .run f r.operation captures

def follow (e : Engine) (request : Request) : Ruling → Process HttpResponse
  | .refuse response => return response
  | .run f operation captures => do
    let id ← freshId
    return answer (← e.fire f (.http id request operation captures) (← e.deadline))

theorem handle_eq_follow (e : Engine) (request : Request) :
    e.handle request = e.follow request (e.ruling request) := by
  rw [handle, ruling]
  cases Route.find? (e.routes.getD []) request.method request.path with
  | none => rfl
  | some found =>
    dsimp only
    split
    · rfl
    · split
      · rfl
      · cases e.featureSet? found.1.operation <;> rfl

/-- A run, and what was kept of the dispatch of each of its emissions. -/
structure Account (γ : Type) where
  handling : Handling
  cascades : List γ

/-- All runs, the one for the request first. -/
def Account.runs (a : Account (List Visit)) : List Handling :=
  a.handling :: a.cascades.flatten.flatMap (·.handlings)

/-- Runs a feature set for a trigger, dispatches what it emitted and keeps something of each
dispatch. -/
def serve {γ : Type} (e : Engine) (dispatch : Emission → Process γ) (f : FeatureSet) (t : Trigger)
    (deadline : Option Nat) : Process (Account γ) := do
  let handling ← e.handling f t deadline
  let cascades ← handling.emissions.mapM dispatch
  return ⟨handling, cascades⟩

section Keeping

variable {γ : Type} {e : Engine} {dispatch : Emission → Process γ}
  (hdispatch : ∀ emission, discard (e.notify emission) = discard (dispatch emission))

include hdispatch

theorem dispatchAll_eq_mapM (emissions : List Emission) :
    e.dispatchAll emissions = discard (emissions.mapM dispatch) := by
  induction emissions with
  | nil => rfl
  | cons emission emissions ih =>
    rw [dispatchAll, hdispatch, ih, List.mapM_cons]
    simp only [discard, Functor.discard, map_const, Function.comp_apply, map_bind, map_pure,
      bind_map_left]
    rfl

/-- What is kept leaves the result as it is, from which all emissions are gone. -/
theorem fire_eq_serve (f : FeatureSet) (t : Trigger) (deadline : Option Nat) :
    e.fire f t deadline = (·.handling.finished) <$> e.serve dispatch f t deadline := by
  have hemissions : ∀ h : Handling, h.handlerRun.emissions = h.emissions := fun _ => rfl
  simp only [fire, serve, runHandler_eq, dispatchAll_eq_mapM hdispatch, discard, Functor.discard,
    map_const, Function.comp_apply, map_bind, map_pure, bind_map_left, hemissions]
  rfl

end Keeping

variable {others : Services → Services → Prop} {e : Engine} {s s' : Services} {f : FeatureSet}
    {t : Trigger}

/-- The run is one of the feature set, and each of its emissions is dispatched in turn. -/
theorem ends_serve {γ κ : Type} {dispatch : Emission → Process γ} (key : γ → κ)
    (name : Emission → κ) (P : γ → Prop)
    (hdispatch : ∀ root s s' kept, Task.Ends others (dispatch root s) s' kept →
      key kept = name root ∧ P kept)
    {deadline : Option Nat} {account : Account γ}
    (h : Task.Ends others (e.serve dispatch f t deadline s) s' account) :
    account.handling.featureSet = f ∧ account.handling.trigger = t ∧
      (∃ s₁, Handled others e deadline s account.handling s₁) ∧
      account.cascades.map key = account.handling.emissions.map name ∧
        ∀ c ∈ account.cascades, P c := by
  obtain ⟨s₁, handling, hhandling, htail⟩ := Task.ends_bind.mp h
  obtain ⟨s₂, cascades, hcascades, hd⟩ := Task.ends_bind.mp htail
  obtain ⟨-, rfl⟩ := Task.ends_done.mp hd
  obtain ⟨hf, ht, hhandled⟩ := ends_handling hhandling
  obtain ⟨hdispatched, hall⟩ := Task.ends_mapM key name P hdispatch hcascades
  exact ⟨hf, ht, ⟨s₁, hhandled⟩, hdispatched, hall⟩

theorem Noticed.triggerKind {result : Except ExecutionError (Option Response)}
    {notice : List Emission} {event : Event} (h : Noticed f t result notice)
    (he : .event event ∈ notice) :
    event.payload.field? "triggerKind" = some (.string t.kind) := by
  cases h with
  | reported _ hreports =>
    obtain rfl : event = _ := by simpa using he
    exact hreports.triggerKind
  | _ => simp at he

theorem Noticed.error {result : Except ExecutionError (Option Response)} {notice : List Emission}
    {cause : ExecutionError} (h : Noticed f t result notice) (hr : result = .error cause)
    (ht : t.eventType? ≠ some Event.failureType) :
    ∃ event, Reports f t cause event ∧ notice = [.event event] := by
  cases h with
  | success => cases hr
  | silent hs => exact absurd hs ht
  | reported _ hreports =>
    cases hr
    exact ⟨_, hreports, rfl⟩

variable {registry : Registry} {limits : Limits} {contract : Option Contract} {app : Application}
    {request : Request}

/-- The declared operation that a request is for, with the captures of its path. -/
def asked? (contract : Option Contract) (request : Request) :
    Option (Declaration × KeyMap String) :=
  contract.bind (·.find? request.method request.path)

theorem routesOf_ok {routes : Option (List Route)} (h : Contract.routesOf contract = .ok routes) :
    (contract = none ∧ routes = none) ∨ ∃ c rs, contract = some c ∧ c.routes = .ok rs ∧
      routes = some rs := by
  cases contract with
  | none => exact .inl ⟨rfl, (Except.ok.inj h).symm⟩
  | some c =>
    rw [Contract.routesOf] at h
    cases hc : c.routes with
    | error problems => rw [hc] at h; cases h
    | ok rs =>
      rw [hc] at h
      exact .inr ⟨c, rs, rfl, hc, (Except.ok.inj h).symm⟩

theorem Serves.find?_none (h : e.Serves contract app) (ha : asked? contract request = none) :
    Route.find? (e.routes.getD []) request.method request.path = none := by
  rcases routesOf_ok h.routes with ⟨-, hnone⟩ | ⟨c, rs, rfl, hc, hsome⟩
  · rw [hnone]
    rfl
  · rw [hsome]
    exact Contract.route_find?_none hc ha

theorem Serves.find?_some (h : e.Serves contract app) {d : Declaration} {captures : KeyMap String}
    (ha : asked? contract request = some (d, captures)) :
    ∃ r, d.Gives r ∧ Route.find? (e.routes.getD []) request.method request.path = some (r,
      captures) := by
  rcases routesOf_ok h.routes with ⟨rfl, -⟩ | ⟨c, rs, rfl, hc, hsome⟩
  · cases ha
  · rw [hsome]
    exact Contract.route_find?_some hc ha

theorem Reachable.serves (h : Reachable registry limits contract app e) :
    e.Serves contract app := by
  obtain ⟨loaded, calls, hload, rfl⟩ := h
  exact (serves_of_load hload).subscribeAll calls

end FeatureFlow.Engine
