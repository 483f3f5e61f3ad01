import FeatureFlow.Proofs.Ends
import FeatureFlow.Proofs.Registry

/-! What publishing leaves behind. The symbol table gets the value as it is; where it was published,
its name is bound to what qualifier and specifier make of it. -/
namespace FeatureFlow

variable {others : Services → Services → Prop} {registry : Registry} {c : Command}
    {w w' : World Invocation}

/-- After a value was published under the name of a target. -/
def World.published (w : World Invocation) (t : Target) (v : Value) : World Invocation :=
  ⟨{ w.own with scope := w.own.scope.bind t.name (t.shape v) },
    (w.shared.publish t.name v).crash (t.shape? v).isNone⟩

namespace World

variable (w) (t : Target) (v : Value)

end World

end FeatureFlow
