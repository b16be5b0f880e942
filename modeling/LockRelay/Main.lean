import LockRelay.CommandLine.Program

/-! The program: arguments and environment in, a report out. -/
namespace LockRelay.CommandLine

/-- The variables that are set and stand in for options. -/
def readEnvironment : IO Environment := do
  let pairs ← (Verb.program.options.filterMap Opt.envName?).mapM fun name => do
    return (name, ← IO.getEnv name)
  return pairs.filterMap fun (name, value) => value.map (name, ·)

/-- Prints a report and gives its exit code. -/
def Report.print (report : Report) : IO UInt32 := do
  for line in report.output do
    IO.println line
  for line in report.errors do
    IO.eprintln line
  return UInt32.ofNat report.exitCode

end LockRelay.CommandLine

def main (arguments : List String) : IO UInt32 := do
  let environment ← LockRelay.CommandLine.readEnvironment
  (LockRelay.CommandLine.run LockRelay.Network.offline environment arguments).print
