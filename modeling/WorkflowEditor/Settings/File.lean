import WorkflowEditor.Json.Parser
import WorkflowEditor.Settings.Value
import WorkflowEditor.Toml.Document

/-!
# WorkflowEditor.Settings.File

Settings files.  The format is told by the extension of the file's name.
-/

namespace WorkflowEditor.Settings

/-- Why settings cannot be loaded. -/
inductive Fault where
  /-- there is no such file -/
  | missingFile (path : String)
  /-- the extension of the file names no format -/
  | unknownFormat (path : String)
  /-- the file is not of its format -/
  | unreadable (path : String)
  /-- a value cannot be taken for what the setting is -/
  | wrongType (key : String)
deriving DecidableEq, Repr

namespace Fault

def message : Fault → String
  | missingFile path => "configuration file \"" ++ path ++ "\" not found"
  | unknownFormat path =>
      "configuration file \"" ++ path ++ "\" is not of a registered file format"
  | unreadable path => "configuration file \"" ++ path ++ "\" cannot be read"
  | wrongType key => "invalid type for key `" ++ key ++ "`"

end Fault

/-- A format of settings files. -/
inductive Format where
  | toml
  | json
deriving DecidableEq, Repr

namespace Format

def all : List Format := [toml, json]

def fileExtension : Format → String
  | toml => "toml"
  | json => "json"

/-- What follows the last point of a file's name, unless that point is its first character. -/
def extensionOf (path : String) : Option String :=
  let name := (path.toList.reverse.takeWhile (· != '/'))
  let ext := name.takeWhile (· != '.')
  match name.dropWhile (· != '.') with
  | _ :: _ :: _ => some (String.ofList ext.reverse)
  | _ => none

/-- The format of a file by its name. -/
def ofPath? (path : String) : Option Format :=
  all.find? fun f => extensionOf path == some f.fileExtension

/-- The entries of a text in a format, in order; none if it is not of the
format or is no table. -/
def entries? (format : Format) (text : String) : Option (List Entry) :=
  match format with
  | toml => (Toml.parse? text).map fun ms => ms.map fun m => .ofKey m.1 (.ofToml m.2)
  | json =>
      match Json.parse? text with
      | some (.obj fields) => some (fields.map fun f => .ofKey f.1 (.ofJson f.2))
      | _ => none

end Format

/-- The content of a file without a byte order mark. -/
def withoutMark (content : String) : String :=
  match content.toList with
  | '\ufeff' :: rest => String.ofList rest
  | _ => content

/-- The names under which a file is looked for: the given one, and then with
the extension of each format. -/
def candidates (path : String) : List String :=
  path :: Format.all.map fun f => path ++ "." ++ f.fileExtension

/-- The entries of the settings file with a path; `contents` tells the content
of every file there is. -/
def fileEntries (contents : String → Option String) (path : String) :
    Except Fault (List Entry) :=
  match (candidates path).findSome? fun p => (contents p).map fun c => (p, c) with
  | none => .error (.missingFile path)
  | some (found, content) =>
      match Format.ofPath? found with
      | none => .error (.unknownFormat path)
      | some format =>
          match format.entries? (withoutMark content) with
          | some entries => .ok entries
          | none => .error (.unreadable path)

end WorkflowEditor.Settings
