import Sluice.Command.Run
import Std.Time.DateTime.Timestamp

/-! The command line. It reads the files and variables that a command names, runs the command on them and prints what
comes of it. -/

set_option autoImplicit false

namespace Sluice.Command

/-- The variables that a text refers to. -/
def variablesOf (text : String) : List String :=
  (Piece.split text.toList).filterMap fun
    | .reference found => some (String.ofList found.name)
    | .literal _ => none

def configFile? : Command → Option String
  | .serve path _ _ | .validate path => some path
  | _ => none

/-- The files that the TLS settings of a configuration name. -/
def credentialFiles (config : Config) : List String :=
  (config.server.tls.map TlsSettings.paths).getD []

/-- The files at those paths where there are any. -/
def readFiles (paths : List String) : IO Files := do
  let mut entries : List (String × Except String Bytes) := []
  for path in paths do
    try
      let content ← IO.FS.readBinFile path
      entries := entries ++ [(path, .ok content.toList)]
    catch
      | .permissionDenied .. => entries := entries ++ [(path, .error "Permission denied (os error 13)")]
      | _ => pure ()
  return ⟨entries⟩

/-- The variables of those names that are set. -/
def readVariables (names : List String) : IO Environment := do
  let mut known : Environment := []
  for name in names do
    if let some value ← IO.getEnv name then
      known := known ++ [(name, value)]
  return known

def readWorld (arguments : List String) : IO World := do
  let clock : Instant := (← Std.Time.Timestamp.now).toSecondsSinceUnixEpoch.val
  let environment ← readVariables [portVariable]
  match (ofArguments? environment arguments).bind configFile? with
  | none => return ⟨environment, Files.empty, clock, fun settings => .bound settings.socketAddress⟩
  | some path =>
    let files ← readFiles [path]
    let names := match files.readText path with
      | .ok text => variablesOf text
      | .error _ => []
    let environment := environment ++ (← readVariables names)
    let more ← match Config.ofFile files environment path with
      | .ok config => readFiles (credentialFiles config)
      | .error _ => pure Files.empty
    return ⟨environment, ⟨files.entries ++ more.entries⟩, clock, fun settings => .bound settings.socketAddress⟩

def Output.text : Output → String
  | .plain text => text
  | .log level text => level.text ++ " " ++ text

end Sluice.Command

def main (arguments : List String) : IO UInt32 := do
  let world ← Sluice.Command.readWorld arguments
  let report := world.runArguments arguments
  for line in report.output do
    IO.println line.text
  if let some complaint := report.complaint then
    IO.eprintln complaint
  return UInt32.ofNat report.code
