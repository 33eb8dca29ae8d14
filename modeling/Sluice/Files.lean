import Sluice.Text.Blank
import Sluice.Text.Utf8

/-! The files that a program sees. A path goes by its components, from the working directory or from the root; a name
with components under it is a directory. -/

set_option autoImplicit false

namespace Sluice

/-- The files by name, each with its content or with why it cannot be opened; a name may have several components. -/
structure Files where
  entries : List (String × Except String Bytes)

namespace Files

def empty : Files := ⟨[]⟩

/-- What a path leads to. -/
inductive Entry where
  | file (content : Bytes)
  /-- A file that is there and cannot be opened. -/
  | sealed (cause : String)
  | directory
  | missing
  | underFile
  | nameTooLong
  | zeroByte

def splitPath (path : String) : List String :=
  (Text.splitOn '/' path.toList).map String.ofList

def isAbsolute (path : String) : Bool := path.toList.head? == some '/'

/-- The place at which a path begins: the root, or the working directory. -/
def origin (path : String) : List String := if isAbsolute path then ["/"] else []

def components (path : String) : List String :=
  (splitPath path).filter fun part => part != "" && part != "."

/-- The place that the name of a file stands for. -/
def place (name : String) : List String := origin name ++ components name

def wantsDirectory (path : String) : Bool :=
  match (splitPath path).getLast? with
  | some last => last == "" || last == "." || last == ".."
  | none => false

def isOrigin (parts : List String) : Bool := parts == [] || parts == ["/"]

def isDirectory (files : Files) (parts : List String) : Bool :=
  isOrigin parts || files.entries.any fun (name, _) =>
    let own := place name
    parts.length < own.length && parts.isPrefixOf own

def content? (files : Files) (parts : List String) : Option (Except String Bytes) :=
  (files.entries.find? fun (name, _) => place name == parts).map (·.2)

def walk (files : Files) (place : List String) : List String → Entry
  | [] => if files.isDirectory place then .directory else match files.content? place with
    | some (.ok content) => .file content
    | some (.error cause) => .sealed cause
    | none => .missing
  | part :: rest =>
    if files.isDirectory place then
      if part == ".." then
        -- nothing is known of what lies above the working directory; the root is above itself
        if place.isEmpty then .missing
        else walk files (if isOrigin place then place else place.dropLast) rest
      else if 255 < (Bytes.ofText part).length then .nameTooLong
      else walk files (place ++ [part]) rest
    else if (files.content? place).isSome then .underFile
    else .missing

def lookUp (files : Files) (path : String) : Entry :=
  if path.toList.contains (Char.ofNat 0) then .zeroByte
  else if path.isEmpty then .missing
  else
    match walk files (origin path) (components path) with
    | .file content => if wantsDirectory path then .underFile else .file content
    | .sealed cause => if wantsDirectory path then .underFile else .sealed cause
    | entry => entry

def contains (files : Files) (path : String) : Bool :=
  match files.lookUp path with
  | .file _ | .sealed _ | .directory => true
  | _ => false

/-- Why a path cannot be opened or read as a file. -/
def Entry.problem : Entry → String
  | .file _ => ""
  | .sealed cause => cause
  | .directory => "Is a directory (os error 21)"
  | .missing => "No such file or directory (os error 2)"
  | .underFile => "Not a directory (os error 20)"
  | .nameTooLong => "File name too long (os error 36)"
  | .zeroByte => "file name contained an unexpected NUL byte"

def readText (files : Files) (path : String) : Except String String :=
  match files.lookUp path with
  | .file content =>
    match Bytes.toText? content with
    | some text => .ok text
    | none => .error "stream did not contain valid UTF-8"
  | entry => .error entry.problem

end Files

end Sluice
