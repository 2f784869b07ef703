import SchemaForge.Config

/-!
# Files

What a run can see of a file is a `FileState`, and the files of a run are a function from paths to
their states.  `Files.readConfig` and `Files.readTables` read a configuration and a list of tables
from them.  A configuration that nobody asked for may be missing; every other file must be there,
be text and hold the JSON that is expected.
-/

namespace SchemaForge

/-! ## States and errors -/

/-- Why a file that is there cannot be read. -/
inductive ReadFault
  | isDirectory
  | notText
  | other (reason : String)
  deriving DecidableEq, Repr

/-- The wording of a fault. -/
def ReadFault.message : ReadFault → String
  | .isDirectory => "Is a directory (os error 21)"
  | .notText => "stream did not contain valid UTF-8"
  | .other reason => reason

/-- What a run can see of a file. -/
inductive FileState
  | missing
  | unreadable (fault : ReadFault)
  | text (content : String)
  deriving DecidableEq, Repr

/-- The state of a file that holds the given bytes. -/
def FileState.ofBytes (bytes : ByteArray) : FileState :=
  match String.fromUTF8? bytes with
  | some content => .text content
  | none => .unreadable .notText

/-- The files of a run by their paths. -/
abbrev Files := String → FileState

/-- Why a file does not give what was asked of it. -/
inductive FileError
  | notFound (path : String)
  | unreadable (path : String) (fault : ReadFault)
  | invalid (path : String) (fault : DecodeFault)
  deriving DecidableEq, Repr

/-- The wording of an error. -/
def FileError.message : FileError → String
  | .notFound path => "Configuration file not found: " ++ path
  | .unreadable path fault => "Failed to read " ++ path ++ ": " ++ fault.message
  | .invalid path fault => "Invalid JSON in " ++ path ++ ": " ++ fault.message

namespace Files

/-! ## Reading -/

/-- Decodes the file at a path. -/
def read {α : Type} (files : Files) (d : Decoder α) (path : String) : Except FileError α :=
  match files path with
  | .missing => .error (.notFound path)
  | .unreadable fault => .error (.unreadable path fault)
  | .text content =>
    match d.decodeText content with
    | .ok a => .ok a
    | .error fault => .error (.invalid path fault)

/-- The path of a configuration that nobody asked for. -/
def defaultConfigPath : String := ".schemagen.json"

/-- The configuration at a path, or the one at the default path, which may be missing. -/
def readConfig (files : Files) (path : Option String) : Except FileError Config :=
  match path with
  | some path => files.read Config.decoder path
  | none =>
    match files defaultConfigPath with
    | .missing => .ok {}
    | _ => files.read Config.decoder defaultConfigPath

/-- The tables in the file at a path; none without a path. -/
def readTables (files : Files) (path : Option String) : Except FileError (List Table) :=
  match path with
  | some path => files.read (Decoder.list Table.decoder) path
  | none => .ok []

end Files

end SchemaForge
