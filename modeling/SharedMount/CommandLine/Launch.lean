import SharedMount.CommandLine.Options
import SharedMount.Manifest.CustomResource

/-! # Starting the operator

What becomes of a start from the command line where there is no cluster to work in: the definition of
the custom resource is printed if that is asked for, and otherwise the start fails, at the settings if
they are not valid and else at the connection to the cluster.
-/

namespace SharedMount.CommandLine

/-- How the program ends. -/
structure Ending where
  code : Nat
  /-- What is printed on standard output. -/
  output : Option String := none
  /-- What is reported as the error. -/
  error : Option String := none
deriving DecidableEq, Inhabited, Repr

/-- What is said of settings that are not valid. -/
def invalidSettingsText : String := "Invalid volume configuration"

/-- What is said when no cluster is found. -/
def noClusterText : String := "Failed to create Kubernetes client"

/-- The end of the program for options, where no cluster is found. -/
def Options.launch (options : Options) : Ending :=
  if options.printManifest then { code := 0, output := some (Manifest.text ++ "\n") }
  else
    match options.settings with
    | .error _ => { code := 1, error := some invalidSettingsText }
    | .ok _ => { code := 1, error := some noClusterText }

/-- The end of the program for a command line, where no cluster is found. -/
def launch (arguments : List String) (environment : String → Option String) : Ending :=
  match Options.parse arguments environment with
  | .ok options => options.launch
  | .error .helpWanted | .error .versionWanted => { code := 0 }
  | .error _ => { code := 2 }

end SharedMount.CommandLine
