import LineHighlight.Service.CommandLine

/-!
The program: the service on the standard streams, one message a line.
-/

namespace LineHighlight.CommandLine

/-- The tree with the file at a path as it is now, if it can be read. -/
def withFile (files : Files.Tree) (path : String) : IO Files.Tree := do
  let place := Files.Tree.locate [] path
  match ← (IO.FS.readBinFile path).toBaseIO with
  | .ok bytes => return files.writeFile place bytes.data.toList
  | .error _ => return files.erase place

/-- Ends a run with its fault, if it has one. -/
def finish (fault : Option String) : IO UInt32 := do
  match fault with
  | none => return 0
  | some reason =>
    IO.eprintln ("Error: " ++ reason)
    return 1

/-- Takes the client's lines until the run or the input ends. The payload is looked up anew for
every line, and the time that has passed since the last one passes in the run as well. -/
partial def serve (r : Run) (input output : IO.FS.Stream) (last : Nat) : IO Run := do
  let line ← input.getLine
  if line.isEmpty then return r
  let now ← IO.monoMsNow
  let path := r.service.segments.loader.settings.resourcePath
  let passed := (r.service.pass (now - last) r.state).world
  let files ← withFile passed.system.world.files path
  let world := { passed.system.world with files }
  let system := { passed.system with world }
  let (r, answers) := { r with state := { passed with system } }.take line
  for answer in answers do
    output.putStrLn answer.compact
  output.flush
  if Protocol.isOpen r.conversation then serve r input output now else return r

/-- Runs the service. -/
def run (args : List String) : IO UInt32 := do
  let files ← match configPath? args with
    | some path => withFile {} path
    | none => pure {}
  match start files [] args with
  | .error e => finish (some e.message)
  | .ok r =>
    let now ← IO.monoMsNow
    let r ← serve r (← IO.getStdin) (← IO.getStdout) now
    finish r.fault?

end LineHighlight.CommandLine

/-- The program. -/
def main (args : List String) : IO UInt32 :=
  LineHighlight.CommandLine.run args
