import Metering.Family

/-!
# Deployments

How many instances of each verticle are deployed.
-/

namespace Metering

/-- What counts the deployed instances. -/
structure Deployments where
  scope : Scope
  deriving DecidableEq, Repr

namespace Deployments

def instances : Template where
  kind := .gauge
  name := "vertx_verticle"
  description := "Number of verticle instances deployed"
  keys := [Label.name]

variable {α : Type} [Amount α] (deployments : Deployments)

/-- An instance is deployed. -/
def deployed (name : String) : List (Touch α) :=
  [deployments.scope.touch instances [name] .up]

/-- An instance is undeployed. -/
def undeployed (name : String) : List (Touch α) :=
  [deployments.scope.touch instances [name] .down]

end Deployments

end Metering
