import Zettel.Text.Blank
import Zettel.Text.Quotation

/-!
# Logging

Logging starts once, at a level and with a destination: a directory, or the standard error stream.
From then on a call succeeds if it asks for the same again, and nothing changes any more.

Main statements: `init_of_some`, active logging stays as it is, and `samePath_iff`, directories are
compared part by part.
-/

namespace Zettel.Logging

/-! ## Levels -/

/-- How much is logged. -/
inductive Level
  | trace
  | debug
  | info
  | warn
  | error
  deriving DecidableEq, Repr

namespace Level

/-- The name of the level. -/
def name : Level → String
  | trace => "trace"
  | debug => "debug"
  | info => "info"
  | warn => "warn"
  | error => "error"

/-- A name as levels are looked up: without blanks around it, and with ASCII letters small. -/
def plainName (s : String) : String :=
  String.ofList ((Text.trim s).toList.map Char.toLower)

/-- The level with the given plain name; one level has two names. -/
def ofPlainName? : String → Option Level
  | "trace" => some trace
  | "debug" => some debug
  | "info" => some info
  | "warn" | "warning" => some warn
  | "error" => some error
  | _ => none

end Level

/-! ## Directories -/

/-- The parts of a path between slashes. -/
def splitSlash : List Char → List (List Char)
  | [] => [[]]
  | c :: cs =>
    match splitSlash cs with
    | [] => [[c]]
    | part :: parts => if c = '/' then [] :: part :: parts else (c :: part) :: parts

/-- The parts that tell where an absolute path leads. -/
def pathParts (path : String) : List (List Char) :=
  (splitSlash path.toList).filter fun part => part ≠ [] && part ≠ ['.']

/-- The path begins at the root of the file system. -/
def isAbsolute (path : String) : Bool := path.toList.head? = some '/'

/-- The two absolute paths are the same. -/
def samePath (p q : String) : Bool := pathParts p = pathParts q

/-- Directories are compared part by part. -/
theorem samePath_iff {p q : String} : samePath p q ↔ pathParts p = pathParts q := by
  simp [samePath]

/-- The two destinations are the same. -/
def sameDestination : Option String → Option String → Bool
  | none, none => true
  | some p, some q => samePath p q
  | _, _ => false

/-! ## Starting -/

/-- The level and the destination of active logging; without a directory it goes to the standard
error stream. -/
structure Config where
  level : Level
  dir : Option String
  deriving DecidableEq, Repr

/-- The destination as it is told. -/
def Config.destination (c : Config) : String := c.dir.getD "stderr"

/-- Why logging could not be started. -/
inductive StartError
  | createDir (path reason : String)
  | backend (reason : String)
  deriving DecidableEq, Repr

/-- Why a call fails. -/
inductive Error
  | unsupportedLevel (name : String)
  | emptyDir
  | relativeDir (path : String)
  | start (e : StartError)
  /-- Logging is active with another destination. -/
  | otherDestination (active : Config)
  /-- Logging is active at another level. -/
  | otherLevel (active : Config) (wanted : Level)
  deriving DecidableEq, Repr

/-- The wording of an error. -/
def Error.message : Error → String
  | unsupportedLevel s =>
    "unsupported log level " ++ Text.codeQuoted s ++ "; expected trace|debug|info|warn|error"
  | emptyDir => "invalid log directory: path cannot be empty"
  | relativeDir p => "invalid log directory: must be an absolute path, got " ++ Text.codeQuoted p
  | start (.createDir p reason) =>
    "failed to create log directory " ++ Text.codeQuoted p ++ ": " ++ reason
  | start (.backend reason) => "failed to start logger: " ++ reason
  | otherDestination active =>
    "logging already initialized with destination " ++ Text.codeQuoted active.destination
  | otherLevel active wanted =>
    "logging already initialized with level " ++ Text.codeQuoted active.level.name ++
      "; refusing to switch to " ++ Text.codeQuoted wanted.name

/-- The directory can be logged to: its path is absolute. -/
def checkDir : Option String → Except Error Unit
  | none => .ok ()
  | some p =>
    if p.isEmpty then .error .emptyDir
    else if isAbsolute p then .ok () else .error (.relativeDir p)

/-- What a call asks for. -/
def wanted (level : String) (dir : Option String) : Except Error Config := do
  let name := Level.plainName level
  match Level.ofPlainName? name with
  | none => throw (.unsupportedLevel name)
  | some l =>
    checkDir dir
    return ⟨l, dir⟩

/-- Active logging is what a call asks for. The destination is looked at before the level. -/
def checkActive (active c : Config) : Except Error Unit :=
  if !sameDestination active.dir c.dir then .error (.otherDestination active)
  else if active.level ≠ c.level then .error (.otherLevel active c.level)
  else .ok ()

/-- A call to start logging, and what is active afterwards; `start` tells how starting ends. -/
def init (active : Option Config) (level : String) (dir : Option String)
    (start : Config → Except StartError Unit) : Except Error Unit × Option Config :=
  match wanted level dir with
  | .error e => (.error e, active)
  | .ok c =>
    match active with
    | some a => (checkActive a c, active)
    | none =>
      match start c with
      | .ok () => (.ok (), some c)
      | .error e => (.error (.start e), none)

/-- Active logging stays as it is. -/
theorem init_of_some (active : Config) (level : String) (dir : Option String)
    (start : Config → Except StartError Unit) :
    (init (some active) level dir start).2 = some active := by
  unfold init
  split <;> rfl

/-! ## Crashes -/

/-- The number of characters of a crash message that are logged. -/
def maxPayloadLength : Nat := 160

/-- A message as it is logged: on one line, and not too long. -/
def sanitize (message : String) : String :=
  let line := message.toList.map fun c => if c = '\n' ∨ c = '\r' then ' ' else c
  String.ofList (line.take maxPayloadLength) ++
    (if maxPayloadLength < line.length then "..." else "")

/-- What is logged of a crash with a message; a crash may also come with something else. -/
def payloadText (message : Option String) : String :=
  sanitize (message.getD "non-string panic payload")

/-- What a crash adds to the log files, if there are any. -/
def loggedPayload (active : Option Config) (message : Option String) : Option String :=
  (active.bind Config.dir).map fun _ => payloadText message

end Zettel.Logging
