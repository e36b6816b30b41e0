import Zettel.CommandLine.Arguments
import Zettel.Logging
import Zettel.Row.Read
import Zettel.Search.Find
import Zettel.Vault

/-!
# Running a command line

One run answers one query on the snapshot in a file: a line for each result, with its path and its
title. What a run needs of the machine is given to it.
-/

namespace Zettel.CommandLine

/-! ## What a run does -/

/-- What a file holds. -/
inductive FileContent
  /-- There is no such file, or it cannot be opened. -/
  | absent
  /-- It holds no text. -/
  | unreadable
  | text (s : String)
  deriving DecidableEq, Repr

/-- What a run needs of the machine. -/
structure Machine (m : Type → Type) where
  currentDir : m String
  startLogging : Logging.Config → m (Except Logging.StartError Unit)
  fileAt : String → m FileContent

/-- Why a run fails. -/
inductive Failure
  | logging (e : Logging.Error)
  | openSnapshot (path : String)
  | parseSnapshot (path : String)
  | search (e : Search.EvaluationError)
  deriving DecidableEq, Repr

/-- The wording of a failure. -/
def Failure.message : Failure → String
  | logging _ => "failed to initialize logging"
  | openSnapshot path => "failed to open snapshot " ++ Text.codeQuoted path
  | parseSnapshot path => "failed to parse snapshot " ++ Text.codeQuoted path
  | search e => e.message

/-- What a run comes to. -/
inductive Outcome
  | usage (e : UsageError)
  | failed (f : Failure)
  /-- The program was aborted. -/
  | aborted
  /-- The text that was written, and the fault of the query, if it has one. -/
  | done (text : String) (warning : Option Query.Diagnostic)
  deriving DecidableEq, Repr

/-- The exit code. -/
def Outcome.exitCode : Outcome → Nat
  | usage _ => 2
  | failed _ => 1
  | aborted => 101
  | done _ _ => 0

/-! ## Texts -/

/-- The name of the program, with its version. -/
def versionText : String := "notegraph 0.1.0\n"

/-- The help text. -/
def helpText : String :=
  let limitLine := "      --limit <LIMIT>" ++ String.ofList (List.replicate 10 ' ')
  "\n".intercalate [
    "Query a note graph snapshot",
    "",
    "Usage: notegraph [OPTIONS] <SNAPSHOT> <QUERY>",
    "",
    "Arguments:",
    "  <SNAPSHOT>  JSON file with `notes`, `branches`, `attributes` and optional `contents`",
    "  <QUERY>     Search query, e.g. `hello #label=text`",
    "",
    "Options:",
    "      --autocomplete           Autocomplete mode: fuzzy attributes, highlighted titles",
    "      --include-content        Scan note bodies from `contents` for fulltext tokens",
    "      --fuzzy                  Prefix-match attribute names",
    "      --hoisted <HOISTED>      Restrict results to the subtree of this note [default: root]",
    limitLine,
    "      --log-level <LOG_LEVEL>  [default: info]",
    "      --log-dir <LOG_DIR>      Write rotating log files here instead of stderr",
    "  -h, --help                   Print help",
    "  -V, --version                Print version",
    ""]

/-- A result on a line of its own. -/
def resultLine (r : Search.Result) : String :=
  r.pathText ++ "\t" ++ r.highlighted.getD r.title ++ "\n"

/-! ## The run -/

/-- The options of the search. -/
def Arguments.searchOptions (a : Arguments) : Search.Options where
  includeContent := a.includeContent
  fuzzyAttributes := a.fuzzy
  hoisted := a.hoisted
  limit := a.limit

/-- Answers the query on a snapshot. -/
def Arguments.answerOn (a : Arguments) (file : SnapshotFile) : Outcome :=
  let vault := Vault.ofSnapshot file.snapshot
  let search := if a.autocomplete then Search.autocomplete else Search.search
  let evaluation (g : Graph) : Reading (Except Search.Failure Search.Outcome) :=
    (search ⟨g, { plain := some file.content? }⟩ a.query a.searchOptions).run
  match (vault.read evaluation).1 with
  | .error (.error e) => .failed (.search e)
  | .error .abort => .aborted
  | .ok o => .done (String.join (o.results.map resultLine)) o.diagnostic

/-- Answers the query on what the snapshot's file holds. -/
def Arguments.answer (a : Arguments) : FileContent → Outcome
  | .absent => .failed (.openSnapshot a.snapshot)
  | .unreadable => .failed (.parseSnapshot a.snapshot)
  | .text s =>
    match SnapshotFile.ofText? s with
    | none => .failed (.parseSnapshot a.snapshot)
    | some file => a.answerOn file

/-- The log directory, as seen from the current directory. -/
def Arguments.absoluteLogDir (a : Arguments) (currentDir : String) : Option String :=
  a.logDir.map fun dir => if Logging.isAbsolute dir then dir else currentDir ++ "/" ++ dir

/-- Runs with arguments: first logging is started, then the snapshot is read. -/
def Arguments.run {m : Type → Type} [Monad m] (a : Arguments) (machine : Machine m) :
    m Outcome := do
  match Logging.wanted a.logLevel (a.absoluteLogDir (← machine.currentDir)) with
  | .error e => return .failed (.logging e)
  | .ok config =>
    match ← machine.startLogging config with
    | .error e => return .failed (.logging (.start e))
    | .ok () =>
      return a.answer (← machine.fileAt a.snapshot)

/-- Runs a command line. -/
def run {m : Type → Type} [Monad m] (machine : Machine m) (words : List String) : m Outcome :=
  match Request.ofWords words with
  | .error e => return .usage e
  | .ok .help => return .done helpText none
  | .ok .version => return .done versionText none
  | .ok (.run a) => a.run machine

end Zettel.CommandLine
