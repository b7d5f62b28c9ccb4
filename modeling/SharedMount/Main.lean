import SharedMount.CommandLine.Launch

/-! # The program

Reads the arguments and the environment, prints what the start comes to, and ends with its code.
-/

/-- Start the operator from the command line. -/
def main (arguments : List String) : IO UInt32 := do
  let values ← SharedMount.CommandLine.Flag.fallbacks.mapM fun (_, name) => do
    return (name, ← IO.getEnv name)
  let ending := SharedMount.CommandLine.launch arguments fun name => (values.lookup name).join
  if let some output := ending.output then
    IO.print output
  if let some error := ending.error then
    IO.eprintln ("Error: " ++ error)
  return ending.code.toUInt32
