import SharedMount.CommandLine.Address
import SharedMount.Provision.Settings
import SharedMount.Text.Decimal
import SharedMount.Text.Divide

/-! # Options of the command line

The operator takes long options only, each at most once, and no arguments besides. The value of an
option follows an equals sign or is the next argument; a value in the next argument is looked at only
when the option after it, or the end, is reached. An option that is not given may be set by a variable
of the environment. `Options.parse` gives the options or the first thing that is wrong.
-/

namespace SharedMount.CommandLine

/-- How much is logged. -/
inductive LogLevel where
  | error
  | warn
  | info
  | debug
  | trace
deriving DecidableEq, Inhabited, Repr

/-- The level that a text gives: a name in letters of either case, or a number from 1 to 5. -/
def LogLevel.parse? (text : String) : Option LogLevel :=
  let digits :=
    match text.toList with
    | '+' :: rest => rest
    | chars => chars
  if ¬ digits.isEmpty ∧ digits.all Char.isDigit then
    match Text.decimalValue digits with
    | 1 => some .error
    | 2 => some .warn
    | 3 => some .info
    | 4 => some .debug
    | 5 => some .trace
    | _ => none
  else
    match String.ofList (text.toList.map Char.toLower) with
    | "error" => some .error
    | "warn" => some .warn
    | "info" => some .info
    | "debug" => some .debug
    | "trace" => some .trace
    | _ => none

/-- What is wrong with a command line, or asked for in place of running. -/
inductive UsageError where
  /-- An option or argument that there is not. -/
  | unknownArgument
  /-- An option without its value, or a value other than those that are allowed. -/
  | invalidValue
  /-- A value that cannot be read. -/
  | unreadableValue
  /-- An option that is given twice. -/
  | repeatedOption
  /-- A value for an option that takes none. -/
  | needlessValue
  /-- The help text is asked for. -/
  | helpWanted
  /-- The version is asked for. -/
  | versionWanted
deriving DecidableEq, Inhabited, Repr

/-- What the operator is told to do. -/
structure Options where
  metricsAddress : SocketAddress := { ip := .v4 0 0 0 0, port := 8080 }
  healthAddress : SocketAddress := { ip := .v4 0 0 0 0, port := 8081 }
  /-- The namespace to watch; empty for all. -/
  ns : String := ""
  csiDriver : String := ({} : Settings).csiDriver
  storageClass : String := ({} : Settings).storageClass
  logLevel : LogLevel := .info
  logJson : Bool := false
  /-- Print the definition of the custom resource and exit. -/
  printManifest : Bool := false
deriving DecidableEq, Inhabited, Repr

/-- The settings of generated volumes, if they are valid. -/
def Options.settings (options : Options) : Except Failure Settings :=
  Settings.make options.csiDriver options.storageClass

/-- The namespace to watch, or nothing for all. -/
def Options.watchedNamespace? (options : Options) : Option String :=
  if options.ns = "" then none else some options.ns

/-- The options that set something. -/
inductive Flag where
  | metricsAddress
  | healthAddress
  | ns
  | csiDriver
  | storageClass
  | logLevel
  | logJson
  | printManifest
deriving DecidableEq, Inhabited, Repr

namespace Flag

/-- The option of a name. -/
def ofName? : String → Option Flag
  | "metrics-addr" => some metricsAddress
  | "health-addr" => some healthAddress
  | "namespace" => some ns
  | "csi-driver" => some csiDriver
  | "storage-class" => some storageClass
  | "log-level" => some logLevel
  | "log-json" => some logJson
  | "print-crd" => some printManifest
  | _ => none

/-- Whether an option takes a value; one that takes none is set by being there. -/
def takesValue : Flag → Bool
  | logJson | printManifest => false
  | _ => true

/-- The options that variables of the environment set, with their variables, in the order in which
the variables are looked at. -/
def fallbacks : List (Flag × String) :=
  [(metricsAddress, "METRICS_ADDR"), (healthAddress, "HEALTH_ADDR"), (ns, "WATCH_NAMESPACE"),
    (csiDriver, "CSI_DRIVER_NAME"), (storageClass, "STORAGE_CLASS_NAME"), (logLevel, "LOG_LEVEL"),
    (logJson, "LOG_JSON")]

/-- Read a truth value, which has one spelling. -/
def truth? : String → Except UsageError Bool
  | "true" => .ok true
  | "false" => .ok false
  | _ => .error .invalidValue

/-- Read a value that must be readable. -/
def readable {α : Type} : Option α → Except UsageError α
  | some value => .ok value
  | none => .error .unreadableValue

/-- The options with one of them set to the value that a text gives. -/
def store (flag : Flag) (value : String) (options : Options) : Except UsageError Options :=
  match flag with
  | metricsAddress => do
      return { options with metricsAddress := ← readable (SocketAddress.parse? value) }
  | healthAddress => do
      return { options with healthAddress := ← readable (SocketAddress.parse? value) }
  | ns => .ok { options with ns := value }
  | csiDriver => .ok { options with csiDriver := value }
  | storageClass => .ok { options with storageClass := value }
  | logLevel => do return { options with logLevel := ← readable (LogLevel.parse? value) }
  | logJson => do return { options with logJson := ← truth? value }
  | printManifest => do return { options with printManifest := ← truth? value }

end Flag

/-- A command line that was read in part. -/
structure Progress where
  options : Options := {}
  /-- The options that were given. -/
  given : List Flag := []
  /-- The option that was reached last, if its value is not taken yet, with the value if there is
  one. -/
  pending : Option (Flag × Option String) := none
deriving DecidableEq, Inhabited

namespace Progress

/-- Take an option with its value. -/
def accept (progress : Progress) (flag : Flag) (value : String) : Except UsageError Progress := do
  if flag ∈ progress.given then throw .repeatedOption
  let options ← flag.store value progress.options
  return { progress with options, given := flag :: progress.given }

/-- Take the option that was reached last. -/
def settle (progress : Progress) : Except UsageError Progress :=
  match progress.pending with
  | none => .ok progress
  | some (_, none) => .error .invalidValue
  | some (flag, some value) => { progress with pending := none }.accept flag value

/-- Stop for what is asked for in place of running. -/
def stop (progress : Progress) (wanted : UsageError) : Except UsageError Progress := do
  let _ ← progress.settle
  throw wanted

/-- What an option asks for in place of running. -/
def wanted? : String → Option UsageError
  | "help" => some .helpWanted
  | "version" => some .versionWanted
  | _ => none

/-- Take an option in long form, without its dashes. -/
def long (progress : Progress) (option : List Char) : Except UsageError Progress := do
  let (name, value) :=
    match Text.divide? '=' option with
    | some (name, value) => (String.ofList name, some (String.ofList value))
    | none => (String.ofList option, none)
  match Flag.ofName? name, value with
  | some flag, some value =>
      if flag.takesValue then (← progress.settle).accept flag value else throw .needlessValue
  | some flag, none =>
      if flag.takesValue then return { ← progress.settle with pending := some (flag, none) }
      else (← progress.settle).accept flag "true"
  | none, value =>
      match wanted? name, value with
      | some wanted, none => progress.stop wanted
      | some _, some _ => throw .needlessValue
      | none, _ => throw .unknownArgument

/-- Take a letter in short form, of which there are two. -/
def short (progress : Progress) : Char → Except UsageError Progress
  | 'h' => progress.stop .helpWanted
  | 'V' => progress.stop .versionWanted
  | _ => .error .unknownArgument

/-- Take an argument that is no option: it can only be a value. -/
def plain (progress : Progress) (argument : String) : Except UsageError Progress :=
  match progress.pending with
  | some (flag, none) => .ok { progress with pending := some (flag, some argument) }
  | _ => .error .unknownArgument

/-- Take the arguments one after the other. Nothing may follow a lone pair of dashes. -/
def scan (progress : Progress) : List String → Except UsageError Progress
  | [] => progress.settle
  | argument :: rest =>
      match argument.toList with
      | ['-', '-'] => if rest = [] then progress.settle else .error .unknownArgument
      | '-' :: '-' :: option => do scan (← progress.long option) rest
      | '-' :: letter :: _ => do scan (← progress.short letter) rest
      | _ => do scan (← progress.plain argument) rest

/-- Set the options that were not given by variables of the environment. -/
def consult (environment : String → Option String) (progress : Progress) :
    Except UsageError Options :=
  Flag.fallbacks.foldlM
    (fun options (flag, name) =>
      match environment name with
      | some value => if flag ∈ progress.given then .ok options else flag.store value options
      | none => .ok options)
    progress.options

end Progress

/-- The options that the arguments after the name of the program and the environment give. -/
def Options.parse (arguments : List String) (environment : String → Option String) :
    Except UsageError Options := do
  (← ({} : Progress).scan arguments).consult environment

end SharedMount.CommandLine
