import PhasedInstall.Install.Component
import PhasedInstall.Proofs.Manifest.Reading

/-!
# Loading the groups of manifests

The groups come from directories of the resource directory, each with a rule of its own for what
may be missing. The pipelines and the add-ons have to be there. The triggers are loaded if their
directory exists. The optional add-ons follow the other ones if the console is installed. The
community catalog is fetched from elsewhere, and whatever goes wrong with it leaves it empty.
-/

set_option autoImplicit false

namespace PhasedInstall

/-- The definition that the console installs. -/
def consoleDefinition : String := "consoleyamlsamples.console.openshift.io"

/-- The documents of a source, with what reading ensures of them. -/
def Source.declarations (source : Source) (around : Surroundings) : Except Fault Declarations :=
  Declarations.ofRead (source.load around) fun _ => declared_load

namespace Bundle

/-- Loads the documents of one directory. -/
def loadDirectory (o : Operator) (around : Surroundings) (component : String) :
    Except Fault Declarations :=
  (Source.filesAt (o.componentDir component) o.recursive).declarations around

/-- Loads the triggers, which need not be there. -/
def loadTriggers (o : Operator) (around : Surroundings) : Except Fault Declarations :=
  if around.files.contains (o.componentDir "triggers") then loadDirectory o around "triggers"
  else .ok .empty

/-- Loads the catalog. Whoever skips it does not look at its locations. -/
def loadCommunity (o : Operator) (around : Surroundings) : Declarations :=
  if o.skipCommunity then .empty
  else
    match (Source.listed o.communityLocations).declarations around with
    | .ok m => m
    | .error _ => .empty

/-- Loads all groups. The cluster is asked about the console after the add-ons are loaded. -/
def load (o : Operator) (around : Surroundings) : Work Bundle := do
  let pipeline ← Work.ofExcept (loadDirectory o around "pipelines")
  let triggers ← Work.ofExcept (loadTriggers o around)
  let addons ← Work.ofExcept (loadDirectory o around "addons")
  let addons ←
    if ← Work.definitionInstalled consoleDefinition then
      pure (addons ++ (← Work.ofExcept (loadDirectory o around "optional")))
    else pure addons
  return { pipeline, triggers, addons, community := loadCommunity o around }

end Bundle

end PhasedInstall
