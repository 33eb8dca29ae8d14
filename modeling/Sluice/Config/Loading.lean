import Sluice.Config.Expansion
import Sluice.Config.Reading
import Sluice.Config.Validation
import Sluice.Document.Toml.Excerpt
import Sluice.Document.Toml.Table
import Sluice.Document.Yaml.Reference

/-! Settings from texts and files. -/

set_option autoImplicit false

namespace Sluice

namespace ConfigFormat

def document? (format : ConfigFormat) (text : String) : Option Document :=
  match format with
  | .json => (Json.Tree.parse? text).map Document.ofTree
  | .toml => Toml.document? text
  | .yaml => Yaml.readText? text

/-- How the notation treats records written as sequences. -/
def recordSequences : ConfigFormat → Document.RecordSequences
  | .json => .exact
  | .toml => .open
  | .yaml => .refused

/-- The lines that show what is wrong with a text; only one notation has them. -/
def excerpt (format : ConfigFormat) (text : String) : List String :=
  match format with
  | .toml => Toml.excerpt text
  | _ => []

end ConfigFormat

namespace Config

/-- Reads settings from a text, after its references to the environment are replaced. -/
def ofText (format : ConfigFormat) (environment : Environment) (text : String) : Except LoadProblem Config := do
  let text ← environment.expand text
  match (format.document? text).bind (read? format.recordSequences) with
  | some config => .ok config
  | none => .error (.malformed format (format.excerpt text))

/-- Reads settings from a file; the file is read before its notation is looked at. -/
def ofFile (files : Files) (environment : Environment) (path : String) : Except LoadProblem Config := do
  let text ← (files.readText path).mapError .unreadable
  let format ← ConfigFormat.ofPath path
  ofText format environment text

def fault (problem : LoadProblem) : Fault := .config problem.message

/-- Settings from a file, not validated. -/
def load (files : Files) (environment : Environment) (path : String) : Except Fault Config :=
  (ofFile files environment path).mapError fault

/-- Settings from a file, validated. -/
def loadValid (files : Files) (environment : Environment) (path : String) : Logged Config :=
  (Logged.ofExcept (load files environment path)).andThen fun config =>
    (config.validate files).andThen fun _ => .pure config

end Config

end Sluice
