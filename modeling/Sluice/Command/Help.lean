import Sluice.Command.Line

/-! Help about the commands. Descriptions stand in a column behind the longest name. -/

set_option autoImplicit false

namespace Sluice.Command

/-- A name with its description. -/
structure Entry where
  name : String
  description : String

def entryLines (entries : List Entry) : List String :=
  let width := entries.foldl (fun width entry => max width entry.name.length) 0
  entries.map fun entry =>
    "  " ++ entry.name ++ String.ofList (List.replicate (width - entry.name.length) ' ') ++ "  " ++ entry.description

def helpDescription : String := "Print this message or the help of the given subcommand(s)"

def Topic.description : Topic → String
  | .program => "Spindle reactive web server"
  | .serve => "Serve the demo handler"
  | .validate => "Validate configuration file"
  | .version => "Show version information"
  | .help => helpDescription

def Topic.usage : Topic → String
  | .program => "spindle <COMMAND>"
  | .serve => "spindle serve [OPTIONS]"
  | .validate => "spindle validate [OPTIONS]"
  | .version => "spindle version"
  | .help => "spindle help [COMMAND]..."

def commandEntries : List Entry := [
  ⟨"serve", Topic.serve.description⟩,
  ⟨"validate", Topic.validate.description⟩,
  ⟨"version", Topic.version.description⟩,
  ⟨"help", helpDescription⟩]

def helpEntry : Entry := ⟨"-h, --help", "Print help"⟩

def configEntry : Entry :=
  ⟨"-c, --config <CONFIG>", "Path to configuration file [default: " ++ defaultConfig ++ "]"⟩

/-- The variable of the port is shown with its value. -/
def optionEntries (environment : Environment) : Topic → List Entry
  | .program => [helpEntry, ⟨"-V, --version", "Print version"⟩]
  | .serve => [configEntry,
      ⟨"-p, --port <PORT>", "Override the configured port [env: " ++ portVariable ++ "=" ++
        (environment.lookup portVariable).getD "" ++ "]"⟩,
      ⟨"-l, --log-level <LOG_LEVEL>",
        "Override the configured log level (trace, debug, info, warn, error)"⟩,
      helpEntry]
  | .validate => [configEntry, helpEntry]
  | .version => [helpEntry]
  | .help => []

/-- A part of a help text under its title, if it has entries. -/
def part (title : String) (entries : List Entry) : List String :=
  if entries.isEmpty then [] else ["", title ++ ":"] ++ entryLines entries

def helpLines (environment : Environment) (topic : Topic) : List String :=
  [topic.description, "", "Usage: " ++ topic.usage] ++
    part "Commands" (if topic == .program then commandEntries else []) ++
    part "Arguments" (if topic == .help then [⟨"[COMMAND]...", "Print help for the subcommand(s)"⟩] else []) ++
    part "Options" (optionEntries environment topic)

end Sluice.Command
