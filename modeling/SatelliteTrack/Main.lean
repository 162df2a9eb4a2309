import SatelliteTrack.Program

/-!
# The command line

Takes the words and the variables of the process, executes the program and shows what it leaves behind:
texts on the standard output, the log on the standard error, the files of a track, the exit status. A
process has no sockets here, so that both services are out of its reach, and it does not abort itself: it
exits with the status that a shell shows for an abort.
-/

namespace SatelliteTrack.Program

/-- The line is shown with so many requests for more. -/
def isShown (verbose : Nat) (line : LogLine) : Bool :=
  match line.level with
  | .debug => 0 < verbose
  | _ => true

/-- The variables of the process that settings may come from. -/
def environment : IO (List (String × String)) := do
  let names := Setting.names.filterMap fun (_, setting) => setting.inherited?
  let found ← names.mapM fun name => do
    return (← IO.getEnv name).map fun value => (name, value)
  return found.filterMap id

/-- The process out of reach of both services. -/
def isolatedWorld : World where
  feed := { network := .unreachable }
  broker := { network := .unreachable }

/-- The status of a process that has ended; an abort is shown as 128 and the number of its signal. -/
def exitStatus : Ending → UInt32
  | .exited status => status.toUInt32
  | .aborted => 134

/-- The files of the disk go to the directory of the process. -/
def store (disk : Disk) : IO Unit :=
  disk.nodes.forM fun (place, node) =>
    match node with
    | .directory => return
    | .file content =>
      IO.FS.writeBinFile ("/".intercalate place) (ByteArray.mk content.toArray)

end SatelliteTrack.Program

open SatelliteTrack SatelliteTrack.Program in
def main (args : List String) : IO UInt32 := do
  let execution := execute args (← environment) isolatedWorld
  IO.print execution.stdout
  if let some stop := execution.complaint then
    IO.eprintln (name ++ ": " ++ stop.message)
  for line in execution.log do
    if isShown execution.verbose line then
      IO.eprintln (line.level.text ++ " " ++ line.message)
  store execution.world.disk
  return exitStatus execution.ending
