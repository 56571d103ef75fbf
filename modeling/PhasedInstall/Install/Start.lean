import PhasedInstall.Install.Loading
import PhasedInstall.Install.Pass

/-!
# Starting the operator

Before the first pass the operator loads its manifests, and it creates the watched resource unless
it was told not to. If either fails, no pass is ever made.
-/

set_option autoImplicit false

namespace PhasedInstall.Operator

/-- Gets an operator ready for its first pass. -/
def start (o : Operator) (around : Surroundings) (environment : Environment) :
    Work Installation := do
  let bundle ← Bundle.load o around
  if o.autoInstall then o.createConfig
  return ⟨o, bundle, environment⟩

end PhasedInstall.Operator
