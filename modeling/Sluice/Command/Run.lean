import Sluice.Command.Help
import Sluice.Config.Loading
import Sluice.Rendering.Service
import Sluice.Server.Factory

/-! What the commands do: the lines that they write, and how they end. -/

set_option autoImplicit false

namespace Sluice.Command

inductive Output where
  | plain (text : String)
  | log (level : Level) (text : String)
  deriving DecidableEq, Repr

/-- The output of a command, its exit code, and a complaint about what went wrong. -/
structure Report where
  code : Nat
  output : List Output
  complaint : Option String
  deriving DecidableEq, Repr

structure World where
  environment : Environment
  files : Files
  clock : Instant
  bind : ServerSettings → Server.Binding

namespace World

def programVersion : String := "0.1.0"

def versionLines : List String := ["Spindle", "Version: " ++ programVersion, "Rust version: 1.75"]

def print (lines : List String) : Report := ⟨0, lines.map .plain, none⟩

def info (text : String) : Output := .log .info text

/-- Loads a configuration without a look at its values. -/
def validate (world : World) (path : String) : Report :=
  let start := info ("Validating configuration: " ++ path)
  match Config.ofFile world.files world.environment path with
  | .ok config =>
    ⟨0, [start, info "✓ Configuration is valid", info ("  Listen: " ++ config.server.socketAddress.text),
      info ("  TLS: " ++ (LogValue.flag config.server.activeTls.isSome).text),
      info ("  Tracing: " ++ (LogValue.flag config.tracing.enabled).text)], none⟩
  | .error problem =>
    ⟨1, [start, .log .error ("✗ Configuration validation failed: " ++ (Config.fault problem).message)] ++
      problem.excerpt.map .plain, none⟩

/-- The configuration of a file, and whether there is such a file; without one the standard settings hold. -/
def settings (world : World) (path : String) : Except Fault (Config × Bool) :=
  if world.files.contains path then (Config.load world.files world.environment path).map (·, true)
  else .ok (Config.standard, false)

/-- Settings of the command line take the place of those in the configuration. -/
def override (config : Config) (port : Option UInt16) (level : Option String) : Config :=
  { config with
    server := { config.server with port := port.getD config.server.port }
    logging := { config.logging with level := level.getD config.logging.level } }

def greeting (path : String) (isLoaded : Bool) : List LogLine := [
  ⟨.info, "Starting Spindle", []⟩,
  if isLoaded then ⟨.info, "Config file: " ++ path, []⟩
  else ⟨.warn, "Config file not found, using defaults", [("path", .shown path)]⟩]

def servingLine (server : Server) : LogLine :=
  ⟨.info, "Serving", [("port", .nat server.port), ("secure", .flag server.isSecure)]⟩

/-- Makes a server for the demo handler and starts it. -/
def launch (world : World) (config : Config) : Logged Server :=
  (ServerFactory.ofConfig config).andThen fun factory =>
  (factory.server world.files world.clock (Responder.ofService Service.demo).handler).andThen fun server =>
    let (start, server) := server.start (world.bind server.settings)
    start.andThen fun _ => (Logged.say (servingLine server)).andThen fun _ => .pure server

/-- The level below which lines are left out. -/
def threshold (logging : LoggingSettings) : Level := (Level.ofText? logging.level).getD .info

/-- The output of log lines; one format has the messages alone. -/
def logOutput (logging : LoggingSettings) (lines : List LogLine) : List Output :=
  (lines.filter (·.isAtLeast (threshold logging))).map fun line =>
    .log line.level (if logging.format == "json" then line.message else line.text)

def complain (fault : Fault) : String := "Error: " ++ fault.message

/-- Starts a server; the output goes up to the moment at which it serves. -/
def serve (world : World) (path : String) (port : Option UInt16) (level : Option String) : Report :=
  match world.settings path with
  | .error fault => ⟨1, [], some (complain fault)⟩
  | .ok (config, isLoaded) =>
    let config := override config port level
    let (lines, result) := world.launch config
    let output := logOutput config.logging (greeting path isLoaded ++ lines)
    match result with
    | .error fault => ⟨1, output, some (complain fault)⟩
    | .ok _ => ⟨0, output, none⟩

def run (world : World) : Command → Report
  | .serve path port level => world.serve path port level
  | .validate path => world.validate path
  | .version => print versionLines
  | .help topic => print (helpLines world.environment topic)
  | .programVersion => print ["spindle " ++ programVersion]

/-- Runs a command line; one that is not understood has a code of its own. -/
def runArguments (world : World) (arguments : List String) : Report :=
  match ofArguments? world.environment arguments with
  | some command => world.run command
  | none => ⟨2, [], none⟩

end World

end Sluice.Command
