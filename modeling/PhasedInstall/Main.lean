import PhasedInstall.Install.CommandLine

/-!
# The program

Reads the command line, the variables that stand in for flags and the file with the operator's
identity, and prints the configuration that they amount to, one flag a line. A command line that
is refused ends the program with 2, an identity that cannot be read with 1.
-/

set_option autoImplicit false

namespace PhasedInstall

/-- The flags that spell out a configuration. -/
def Operator.flagLines (o : Operator) (metricsPort : Option Nat) : List String :=
  let line (flag : Flag) (value : String) : String := "--" ++ flag.name ++ "=" ++ value
  let switch (flag : Flag) (on : Bool) : List String := if on then ["--" ++ flag.name] else []
  [line .watchResource o.watchResource,
    line .targetNamespace o.targetNamespace,
    line .resourceDir o.resourceDir.text,
    line .recursive (toString o.recursive)]
    ++ switch .noAutoInstall (!o.autoInstall)
    ++ switch .skipNonRedhat o.skipCommunity
    ++ [line .communityResourceUrls (String.intercalate "," o.communityLocations),
      line .defaultAccount o.defaultAccount,
      line .disableAffinityAssistant (toString o.disableAffinityAssistant),
      line .operatorUuid o.uuid,
      line .targetVersion o.version]
    ++ (metricsPort.map fun number => line .metricsPort (toString number)).toList

namespace CommandLine

/-- The variables that stand in for flags, as far as they are set. -/
def readEnvironment : IO Environment := do
  let entries ← (Flag.all.filterMap Flag.environmentName?).mapM fun name => do
    return (← IO.getEnv name).map fun value => (name, value)
  return entries.filterMap id

/-- The part of the working directory that holds the operator's identity. -/
def readIdentityFile : IO FileSystem := do
  try
    let bytes ← IO.FS.readBinFile Settings.uuidPath.text
    return FileSystem.empty.insertFile bytes Settings.uuidPath.steps
  catch
    | .noFileOrDirectory .. => return .empty
    | e => throw e

end CommandLine

end PhasedInstall

open PhasedInstall in
/-- Prints the configuration that a command line asks for. -/
def main (arguments : List String) : IO UInt32 := do
  match Settings.read arguments (← CommandLine.readEnvironment) with
  | .error e =>
    IO.eprintln ("error: " ++ e.name)
    return 2
  | .ok settings =>
    match settings.resolve (← CommandLine.readIdentityFile) with
    | .error f =>
      IO.eprintln ("error: " ++ f.text)
      return 1
    | .ok o =>
      for line in o.flagLines settings.metricsPort do
        IO.println line
      return 0
