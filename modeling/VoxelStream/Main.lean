import VoxelStream.Report

/-!
# Command line

`texture-budget [config.toml]` prints the texture budget report for a configuration file, or for the
standard configuration if no file is given.
-/

open VoxelStream

/-- The bytes of a file, if it can be read. -/
def readFile? (path : String) : IO (Option (List UInt8)) := do
  try
    return some (← IO.FS.readBinFile path).data.toList
  catch _ => return none

/-- The graphics adapter of the host.  No graphics interface is driven here, so none is found. -/
def hostAdapter? : Option Adapter := none

/-- The report for the arguments of the command line. -/
def reportFor (args : List String) : IO Report.Outcome := do
  match args with
  | path :: _ => return Report.ofReading hostAdapter? (Config.load path (← readFile? path))
  | [] => return Report.ofReading hostAdapter? (.ok {}, [])

/-- Prints the report, and the reason to standard error if it ends early. -/
def main (args : List String) : IO UInt32 := do
  let outcome ← reportFor args
  for notice in outcome.notices do
    if notice.level ≠ .trace ∧ notice.level ≠ .debug then
      IO.eprintln s!"{notice.level.name} {notice.text}"
  IO.print outcome.output
  if let some e := outcome.error? then
    IO.eprintln s!"Error: {e.message}"
  return outcome.exitStatus
