import SourceAudit.CommandLine
import SourceAudit.Rule.Registry

/-!
# SourceAudit.Main

The program. It reads a request from standard input and the replies of GitHub from a recording, and
prints the answer. The recording is a JSON object with the time of the scan under `now` and the
replies under `replies`.
-/

namespace SourceAudit.Main

open Remote

/-- The variables of the environment that hold settings. -/
def readEnvironment : IO (List (String × String)) := do
  let names := "PLAN_DAILY_SCANS" :: Settings.plainNames
  let values ← names.mapM fun name => do return (name, ← IO.getEnv name)
  return values.filterMap fun (name, value) => value.map (name, ·)

/-- The world that a recording describes. -/
def worldOf? (recording : String) : Option World := do
  let j ← Json.parse? recording
  let now ← (j.get? "now").bind Script.secondsOf?
  return ⟨now, .ofJson ((j.get? "replies").getD .null)⟩

/-- The further rules of a file. -/
def readRules : Option String → IO (Except LoadError (List Rule))
  | none => return .ok []
  | some file => return Rule.loadText (← IO.FS.readFile file)

/-- Answers one request and gives the exit code. -/
def answer (recording : String) : IO UInt32 := do
  match Settings.ofEnvironment (← readEnvironment), worldOf? (← IO.FS.readFile recording) with
  | .error _, _ =>
    IO.eprintln "the settings cannot be read"
    return 2
  | _, none =>
    IO.eprintln "the recording cannot be read"
    return 2
  | .ok settings, some world =>
    match (← readRules settings.rulesFile).bind (Registry.build true) with
    | .error _ =>
      IO.eprintln "the rules cannot be read"
      return 2
    | .ok registry =>
      let text ← (← IO.getStdin).readToEnd
      match CommandLine.run { settings, registry, stalled := [] } text world with
      | .error _ =>
        IO.eprintln "the request holds more than is read"
        return 1
      | .ok (outcome, _) =>
        IO.println outcome.printed.render
        return outcome.exitCode.toUInt32

end SourceAudit.Main

/-- The program takes the name of a recording. -/
def main (args : List String) : IO UInt32 := do
  match args with
  | [recording] => SourceAudit.Main.answer recording
  | _ =>
    IO.eprintln "usage: sourceaudit RECORDING < REQUEST"
    return 2
