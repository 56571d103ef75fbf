import PhasedInstall.Install.Operator
import PhasedInstall.Files.Tree

/-!
# The command line

Every flag takes a value of its kind, except for the switches. What the command line does not say
is taken from the environment, and then from the defaults. An option waits for its value: the
value is only looked at when the next option begins or the line ends, so an unknown flag after an
unusable value is reported first.
-/

set_option autoImplicit false

namespace PhasedInstall

/-- A flag of the command line. -/
inductive Flag where
  | watchResource
  | targetNamespace
  | resourceDir
  | recursive
  | noAutoInstall
  | skipNonRedhat
  | communityResourceUrls
  | defaultAccount
  | disableAffinityAssistant
  | operatorUuid
  | targetVersion
  | metricsPort
deriving DecidableEq, Repr

/-- The kinds of values that flags take. -/
inductive FlagKind where
  | text
  /-- A path, which is not empty. -/
  | path
  /-- `true` or `false`. -/
  | truth
  /-- No value: naming the flag means `true`. -/
  | switch
  /-- A list with commas between its items. Repeating the flag appends. -/
  | list
  /-- A number that fits sixteen bits. -/
  | number
deriving DecidableEq, Repr

namespace Flag

/-- All flags, in the order in which the environment is consulted. -/
def all : List Flag :=
  [watchResource, targetNamespace, resourceDir, recursive, noAutoInstall, skipNonRedhat,
    communityResourceUrls, defaultAccount, disableAffinityAssistant, operatorUuid, targetVersion,
    metricsPort]

/-- How a flag is written, without its dashes. -/
def name : Flag → String
  | watchResource => "watch-resource"
  | targetNamespace => "target-namespace"
  | resourceDir => "resource-dir"
  | recursive => "recursive"
  | noAutoInstall => "no-auto-install"
  | skipNonRedhat => "skip-non-redhat"
  | communityResourceUrls => "community-resource-urls"
  | defaultAccount => "rbac-sa"
  | disableAffinityAssistant => "disable-affinity-assistant"
  | operatorUuid => "operator-uuid"
  | targetVersion => "target-version"
  | metricsPort => "metrics-port"

/-- The variable of the environment that stands in for a flag. -/
def environmentName? : Flag → Option String
  | watchResource => some "WATCH_RESOURCE"
  | targetNamespace => some "TARGET_NAMESPACE"
  | resourceDir => some "RESOURCE_DIR"
  | recursive => some "RECURSIVE"
  | noAutoInstall => some "NO_AUTO_INSTALL"
  | skipNonRedhat => some "SKIP_NON_REDHAT"
  | communityResourceUrls => some "COMMUNITY_RESOURCE_URLS"
  | defaultAccount => some "DEFAULT_SA"
  | disableAffinityAssistant => none
  | operatorUuid => some "OPERATOR_UUID"
  | targetVersion => some "TEKTON_VERSION"
  | metricsPort => some "METRICS_PORT"

/-- What a flag takes. -/
def kind : Flag → FlagKind
  | resourceDir => .path
  | recursive => .truth
  | noAutoInstall => .switch
  | skipNonRedhat => .switch
  | communityResourceUrls => .list
  | disableAffinityAssistant => .truth
  | metricsPort => .number
  | _ => .text

/-- The flag that is written so. A name may not be cut short. -/
def ofName? (s : String) : Option Flag := all.find? fun f => f.name = s

end Flag

/-- Why a command line is refused. Asking for help counts as a refusal. -/
inductive UsageError where
  | unknownArgument
  | invalidValue
  | valueValidation
  | argumentConflict
  | tooManyValues
  | displayHelp
deriving DecidableEq, Repr

/-- The name under which a refusal is reported. -/
def UsageError.name : UsageError → String
  | .unknownArgument => "UnknownArgument"
  | .invalidValue => "InvalidValue"
  | .valueValidation => "ValueValidation"
  | .argumentConflict => "ArgumentConflict"
  | .tooManyValues => "TooManyValues"
  | .displayHelp => "DisplayHelp"

/-- The value of a flag, once it is read. -/
inductive FlagValue where
  | text (value : String)
  | truth (value : Bool)
  | list (values : List String)
  | number (value : Nat)
deriving DecidableEq, Repr

namespace FlagValue

/-- The text of a flag of texts or paths. -/
def text? : FlagValue → Option String
  | text s => some s
  | _ => none

/-- The truth of a flag that is on or off. -/
def truth? : FlagValue → Option Bool
  | truth b => some b
  | _ => none

/-- The items of a flag of lists. -/
def list? : FlagValue → Option (List String)
  | list vs => some vs
  | _ => none

/-- The number of a flag of numbers. -/
def number? : FlagValue → Option Nat
  | number n => some n
  | _ => none

/-- An integer: decimal digits, perhaps behind a sign. -/
def integer? (s : String) : Option Int :=
  let (negative, digits) := match s.toList with
    | '-' :: rest => (true, rest)
    | '+' :: rest => (false, rest)
    | rest => (false, rest)
  if digits.isEmpty || !digits.all (fun c => '0' ≤ c && c ≤ '9') then none
  else
    let n := digits.foldl (fun n c => 10 * n + (c.toNat - '0'.toNat)) 0
    some (if negative then -(n : Int) else n)

/-- Only the two words count, in lower case. -/
def readTruth (s : String) : Except UsageError FlagValue :=
  if s = "true" then .ok (truth true)
  else if s = "false" then .ok (truth false)
  else .error .invalidValue

/-- Reads the text of a value as the kind of its flag asks. A switch takes a text only from the
environment. -/
def read (kind : FlagKind) (s : String) : Except UsageError FlagValue :=
  match kind with
  | .text => .ok (text s)
  | .path => if s.isEmpty then .error .invalidValue else .ok (text s)
  | .truth => readTruth s
  | .switch => readTruth s
  | .list => .ok (list ((Text.pieces ',' s.toList).map String.ofList))
  | .number =>
    match integer? s with
    | some n => if 0 ≤ n ∧ n ≤ 65535 then .ok (number n.toNat) else .error .valueValidation
    | none => .error .valueValidation

end FlagValue

/-- The values given so far, by flag. -/
abbrev FlagValues := List (Flag × FlagValue)

namespace CommandLine

/-- Records a value. Only lists may be given again; they grow. -/
def assign (flag : Flag) (s : String) (values : FlagValues) : Except UsageError FlagValues :=
  match values.lookup flag with
  | none => do return values ++ [(flag, ← FlagValue.read flag.kind s)]
  | some (.list earlier) => do
    match ← FlagValue.read flag.kind s with
    | .list more =>
      return values.map fun (f, v) => if f = flag then (f, .list (earlier ++ more)) else (f, v)
    | _ => .error .argumentConflict
  | some _ => .error .argumentConflict

/-- Records the option that waits for its value. Without a value it is incomplete. -/
def settle (waiting : Option (Flag × Option String)) (values : FlagValues) :
    Except UsageError FlagValues :=
  match waiting with
  | none => .ok values
  | some (flag, some s) => assign flag s values
  | some (_, none) => .error .invalidValue

/-- What an argument looks like. -/
inductive Shape where
  /-- Two dashes: no flags follow. -/
  | terminator
  | long (name : String) (value : Option String)
  | short (letters : List Char)
  | plain

/-- Cuts a text at its first equals sign. -/
def splitAtEquals (cs : List Char) : String × Option String :=
  let name := cs.takeWhile (· ≠ '=')
  match cs.drop name.length with
  | [] => (String.ofList name, none)
  | _ :: value => (String.ofList name, some (String.ofList value))

/-- The shape of an argument. A single dash is a plain one. -/
def shape (argument : String) : Shape :=
  match argument.toList with
  | ['-', '-'] => .terminator
  | '-' :: '-' :: rest => let (name, value) := splitAtEquals rest; .long name value
  | '-' :: c :: rest => .short (c :: rest)
  | _ => .plain

/-- Reads the arguments. `waiting` is the option whose value was not looked at yet. -/
def readArguments : (waiting : Option (Flag × Option String)) → (ended : Bool) → FlagValues →
    List String → Except UsageError FlagValues
  | waiting, _, values, [] => settle waiting values
  | waiting, ended, values, argument :: rest =>
    if ended then .error .unknownArgument
    else match shape argument with
      | .terminator => readArguments waiting true values rest
      | .short letters =>
        if letters.head? = some 'h' then do
          let _ ← settle waiting values
          .error .displayHelp
        else .error .unknownArgument
      | .long name value =>
        if name = "help" then
          match value with
          | some _ => .error .tooManyValues
          | none => do
            let _ ← settle waiting values
            .error .displayHelp
        else match Flag.ofName? name with
          | none => .error .unknownArgument
          | some flag =>
            match flag.kind, value with
            | .switch, some _ => .error .tooManyValues
            | .switch, none => do
              let values ← settle waiting values
              readArguments none false (← assign flag "true" values) rest
            | _, some s => do
              let values ← settle waiting values
              readArguments none false (← assign flag s values) rest
            | _, none => do
              let values ← settle waiting values
              readArguments (some (flag, none)) false values rest
      | .plain =>
        match waiting with
        | some (flag, none) => readArguments (some (flag, some argument)) false values rest
        | _ => .error .unknownArgument

/-- Adds the values of variables for flags that the command line does not name. -/
def readVariables (environment : Environment) : List Flag → FlagValues →
    Except UsageError FlagValues
  | [], values => .ok values
  | flag :: rest, values =>
    match values.lookup flag, flag.environmentName?.bind fun v => environment.lookup v with
    | none, some s => do
      readVariables environment rest (values ++ [(flag, ← FlagValue.read flag.kind s)])
    | _, _ => readVariables environment rest values

/-- All values that the command line and the environment give. -/
def read (arguments : List String) (environment : Environment) : Except UsageError FlagValues := do
  readVariables environment Flag.all (← readArguments none false [] arguments)

end CommandLine

/-- What a command line asks for. -/
structure Settings where
  watchResource : String
  targetNamespace : String
  resourceDir : Option String
  recursive : Bool
  noAutoInstall : Bool
  skipCommunity : Bool
  communityLocations : List String
  defaultAccount : String
  disableAffinityAssistant : Bool
  uuid : Option String
  version : String
  metricsPort : Option Nat
deriving DecidableEq, Repr

namespace Settings

/-- The settings that values stand for, with the defaults for all that is not given. -/
def ofValues (values : FlagValues) : Settings :=
  let text? (f : Flag) := (values.lookup f).bind FlagValue.text?
  let truth (f : Flag) (default : Bool) := ((values.lookup f).bind FlagValue.truth?).getD default
  { watchResource := (text? .watchResource).getD Operator.defaultWatchResource
    targetNamespace := (text? .targetNamespace).getD Operator.defaultTargetNamespace
    resourceDir := text? .resourceDir
    recursive := truth .recursive true
    noAutoInstall := truth .noAutoInstall false
    skipCommunity := truth .skipNonRedhat false
    communityLocations :=
      ((values.lookup .communityResourceUrls).bind FlagValue.list?).getD
        Operator.defaultCommunityLocations
    defaultAccount := (text? .defaultAccount).getD Operator.defaultServiceAccount
    disableAffinityAssistant := truth .disableAffinityAssistant true
    uuid := text? .operatorUuid
    version := (text? .targetVersion).getD Operator.defaultVersion
    metricsPort := (values.lookup .metricsPort).bind FlagValue.number? }

/-- The settings of a command line in an environment. -/
def read (arguments : List String) (environment : Environment) : Except UsageError Settings :=
  (CommandLine.read arguments environment).map ofValues

/-- The file that holds the operator's identity when the command line gives none. -/
def uuidPath : Path := ⟨"deploy/uuid"⟩

/-- The identity in a file, without the line ends after it. Without the file it is empty. -/
def readUuid (fs : FileSystem) : Except Fault String :=
  match fs.read uuidPath with
  | .ok text => .ok (String.ofList (text.toList.reverse.dropWhile (· = '\n')).reverse)
  | .error .notFound => .ok ""
  | .error cause => .error (.file cause)

/-- The configuration of the operator. -/
def resolve (s : Settings) (fs : FileSystem) : Except Fault Operator := do
  let uuid ← match s.uuid with
    | some uuid => .ok uuid
    | none => readUuid fs
  return {
    watchResource := s.watchResource
    targetNamespace := s.targetNamespace
    resourceDir := (s.resourceDir.map Path.mk).getD (Operator.resourceDirOf s.version)
    recursive := s.recursive
    autoInstall := !s.noAutoInstall
    skipCommunity := s.skipCommunity
    communityLocations := s.communityLocations
    defaultAccount := s.defaultAccount
    disableAffinityAssistant := s.disableAffinityAssistant
    uuid := uuid
    version := s.version }

end Settings

end PhasedInstall
