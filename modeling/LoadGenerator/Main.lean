/-
The command line: a session on the host whose network leads nowhere, at the pace of the clock.

The log goes to the standard error, one notice a line, and so does the line for a failure.
-/
import LoadGenerator.Environment
import LoadGenerator.Session.Run

namespace LoadGenerator.CommandLine

/-- What lies at a path. -/
def placeAt (path : String) : IO Place := do
  if path.isEmpty then return .lost
  let file := (← IO.currentDir) / path
  match ← (IO.FS.readBinFile file).toBaseIO with
  | .ok content => return .file content
  | .error e =>
    if ← file.isDir then return .directory
    match e with
    | .noFileOrDirectory .. =>
      let inDirectory ← match file.parent with
        | some parent => parent.isDir
        | none => pure false
      return if inDirectory then .vacant else .lost
    | .inappropriateType .. => return .blocked
    | .permissionDenied _ code _ => return .refused (.number code.toNat)
    | e => return .refused (.text (toString e))

/-- The nearest file of variables, in the working directory or above it. -/
def environmentFile? : IO (Option String) := do
  let mut directory := some (← IO.currentDir)
  while true do
    match directory with
    | none => break
    | some d =>
      let file := d / ".env"
      if ← file.pathExists then
        if !(← file.isDir) then
          match ← (IO.FS.readFile file).toBaseIO with
          | .ok text => return some text
          | .error _ => return none
      directory := d.parent
  return none

/-- The variables of the environment that matter, with those of the nearest file. -/
def environment : IO Environment := do
  let file := (← environmentFile?).getD ""
  let mut env : Environment := []
  for name in pathVariable :: Environment.namesIn file do
    if let some value ← IO.getEnv name then env := env.add name value
  return env.extend file

/-- The number of processors, as the system lists them. -/
def processors : IO Nat := do
  match ← (IO.FS.lines "/proc/cpuinfo").toBaseIO with
  | .ok lines => return max 1 (lines.filter fun l => l.startsWith "processor").size
  | .error _ => return 1

/-- Waits until the clock shows a number of nanoseconds. -/
partial def waitUntil (due : Nat) : IO Unit := do
  let now ← IO.monoNanosNow
  if now < due then
    IO.sleep (min ((due - now + 999999) / 1000000) 1000000).toUInt32
    waitUntil due

/-- Plays a session by the clock. -/
def play (session : Session) : IO Unit := do
  let mut due ← IO.monoNanosNow
  for stretch in session.stretches do
    due := due + stretch.wait
    waitUntil due
    for notice in stretch.notices do IO.eprintln notice.line
  if let some line := session.ending.errorLine? then IO.eprintln line

end LoadGenerator.CommandLine

open LoadGenerator in
/-- Runs a session with the configuration that the environment names. -/
def main : IO UInt32 := do
  let env ← CommandLine.environment
  let path := configPath (env.get? pathVariable) (← IO.currentDir).toString
  let place ← CommandLine.placeAt path
  let session :=
    Session.run { path, place, processors := ← CommandLine.processors } Load.undisturbed
  if session.place.content? ≠ place.content? then
    if let .file content := session.place then IO.FS.writeBinFile path content
  CommandLine.play session
  return (session.ending.exitCode?.getD 1).toUInt32
