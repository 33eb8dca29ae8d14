import Sluice.Files

/-! The notations of settings files, which the extension of a file tells. -/

set_option autoImplicit false

namespace Sluice

namespace Files

/-- The last component of a path, unless it leads upwards. -/
def fileName? (path : String) : Option String :=
  match (components path).getLast? with
  | some ".." => none
  | name => name

/-- The text after the last point of a file name, unless the point begins the name. -/
def extension? (path : String) : Option String := do
  let name ← fileName? path
  let backwards := name.toList.reverse
  let (extension, stem) ← Text.splitOnce? '.' backwards
  if stem.isEmpty then none else some (String.ofList extension.reverse)

end Files

inductive ConfigFormat where
  | yaml
  | toml
  | json
  deriving DecidableEq, Repr

namespace ConfigFormat

def name : ConfigFormat → String
  | .yaml => "Yaml"
  | .toml => "Toml"
  | .json => "Json"

def ofExtension? (extension : String) : Option ConfigFormat :=
  if extension == "yaml" || extension == "yml" then some .yaml
  else if extension == "toml" then some .toml
  else if extension == "json" then some .json
  else none

end ConfigFormat

/-- Why no settings come from a file. -/
inductive LoadProblem where
  | unreadable (problem : String)
  | noExtension
  | unknownExtension (extension : String)
  | unsetVariable (name : String)
  /-- The excerpt shows where reading stopped, if the notation tells. -/
  | malformed (format : ConfigFormat) (excerpt : List String)
  deriving DecidableEq, Repr

namespace LoadProblem

def message : LoadProblem → String
  | .unreadable problem => "Failed to read config file: " ++ problem
  | .noExtension => "Unable to detect config format"
  | .unknownExtension extension => "Unsupported config format: " ++ extension
  | .unsetVariable name => "Environment variable '" ++ name ++ "' not set and no default provided"
  | .malformed .yaml _ => "Failed to parse YAML"
  | .malformed .toml _ => "Failed to parse TOML"
  | .malformed .json _ => "Failed to parse JSON"

def excerpt : LoadProblem → List String
  | .malformed _ excerpt => excerpt
  | _ => []

end LoadProblem

/-- The notation of a file. -/
def ConfigFormat.ofPath (path : String) : Except LoadProblem ConfigFormat :=
  match Files.extension? path with
  | none => .error .noExtension
  | some suffix =>
    match ofExtension? suffix with
    | some format => .ok format
    | none => .error (.unknownExtension suffix)

end Sluice
