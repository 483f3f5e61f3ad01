/-! Services of the host by their type: of each type there is at most one. -/
namespace FeatureFlow

inductive HostService where
  | text (s : String)
  | flag (b : Bool)
  | number (n : Int64)
  deriving Repr, DecidableEq

namespace HostService

def sameType : HostService → HostService → Bool
  | text _, text _ | flag _, flag _ | number _, number _ => true
  | _, _ => false

/-- A service takes the place of one of its type. -/
def add (services : List HostService) (s : HostService) : List HostService :=
  services.filter (fun t => !s.sameType t) ++ [s]

def ofList (services : List HostService) : List HostService := services.foldl add []

end HostService

end FeatureFlow
