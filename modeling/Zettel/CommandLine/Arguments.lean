import Zettel.Number
import Zettel.Row

/-!
# Arguments of the command line

Two arguments are needed, the snapshot and the query. Options begin with two dashes and stand
anywhere in front of a lone `--`; those with a value are followed by it, or by an equals sign and
it. No option may be given twice.

Main statement: `read_append_lone`, nothing behind a lone `--` is an option.
-/

namespace Zettel.CommandLine

/-! ## Options -/

/-- An option without a value. -/
inductive Flag
  | autocomplete
  | includeContent
  | fuzzy
  deriving DecidableEq, Repr

/-- An option with a value. -/
inductive Setting
  | hoisted
  | limit
  | logLevel
  | logDir
  deriving DecidableEq, Repr

/-- What a word of the command line is. -/
inductive Word
  | help
  | version
  | flag (f : Flag)
  | setting (s : Setting) (value : Option String)
  /-- A flag with a value, which it cannot have. -/
  | flagWithValue (name : String)
  | unknown (word : String)
  | plain (word : String)
  deriving DecidableEq, Repr

namespace Word

/-- The option with a name. -/
def named (name : String) (value : Option String) : Word :=
  match name with
  | "help" => bare help
  | "version" => bare version
  | "autocomplete" => bare (flag .autocomplete)
  | "include-content" => bare (flag .includeContent)
  | "fuzzy" => bare (flag .fuzzy)
  | "hoisted" => setting .hoisted value
  | "limit" => setting .limit value
  | "log-level" => setting .logLevel value
  | "log-dir" => setting .logDir value
  | _ => unknown ("--" ++ name)
where
  /-- An option that has no value. -/
  bare (w : Word) : Word := if value.isSome then flagWithValue name else w

/-- What the word `s` is. -/
def ofText (s : String) : Word :=
  match s.toList with
  | '-' :: '-' :: rest =>
    let name := String.ofList (rest.takeWhile (· ≠ '='))
    match rest.dropWhile (· ≠ '=') with
    | [] => named name none
    | _ :: value => named name (some (String.ofList value))
  | ['-'] => plain s
  | '-' :: 'h' :: _ => help
  | '-' :: 'V' :: _ => version
  | '-' :: _ => unknown s
  | _ => plain s

/-- The word cannot be the value of an option in front of it. -/
def isOption (s : String) : Bool :=
  match ofText s with
  | plain _ => false
  | _ => true

end Word

/-! ## Faults -/

/-- Why a command line cannot be carried out. -/
inductive UsageError
  | unknownArgument (word : String)
  | flagWithValue (name : String)
  | repeated (name : String)
  | missingValue (name : String)
  | invalidValue (name value : String)
  | missingArgument
  deriving DecidableEq, Repr

/-- The wording of a fault. -/
def UsageError.message : UsageError → String
  | unknownArgument s => "unexpected argument '" ++ s ++ "' found"
  | flagWithValue s => "the option '--" ++ s ++ "' takes no value"
  | repeated s => "the argument '--" ++ s ++ "' cannot be used multiple times"
  | missingValue s => "a value is required for '" ++ s ++ "' but none was supplied"
  | invalidValue s v => "invalid value '" ++ v ++ "' for '--" ++ s ++ "'"
  | missingArgument => "the following required arguments were not provided: <SNAPSHOT> <QUERY>"

/-! ## Reading -/

/-- What was given so far. -/
structure Given where
  plain : List String := []
  flags : List Flag := []
  hoisted : Option String := none
  limit : Option Nat := none
  logLevel : Option String := none
  logDir : Option String := none

namespace Given

/-- The name of a flag. -/
def flagName : Flag → String
  | .autocomplete => "autocomplete"
  | .includeContent => "include-content"
  | .fuzzy => "fuzzy"

/-- Adds a flag. -/
def addFlag (g : Given) (f : Flag) : Except UsageError Given :=
  if g.flags.contains f then .error (.repeated (flagName f))
  else .ok { g with flags := f :: g.flags }

/-- Adds an option with its value. -/
def addSetting (g : Given) (s : Setting) (value : String) : Except UsageError Given :=
  match s with
  | .hoisted =>
    if g.hoisted.isSome then .error (.repeated "hoisted") else .ok { g with hoisted := some value }
  | .logLevel =>
    if g.logLevel.isSome then .error (.repeated "log-level")
    else .ok { g with logLevel := some value }
  | .logDir =>
    if g.logDir.isSome then .error (.repeated "log-dir")
    else if value.isEmpty then .error (.missingValue "--log-dir")
    else .ok { g with logDir := some value }
  | .limit =>
    if g.limit.isSome then .error (.repeated "limit")
    else
      match Number.count? value with
      | some n => .ok { g with limit := some n }
      | none => .error (.invalidValue "limit" value)

/-- Adds a word that is no option: the snapshot, and then the query. -/
def addPlain (g : Given) (word : String) : Except UsageError Given :=
  match g.plain with
  | [] =>
    if word.isEmpty then .error (.missingValue "<SNAPSHOT>") else .ok { g with plain := [word] }
  | [snapshot] => .ok { g with plain := [snapshot, word] }
  | _ => .error (.unknownArgument word)

end Given

/-- What the program is asked to do with a query. -/
structure Arguments where
  snapshot : String
  query : String
  autocomplete : Bool := false
  includeContent : Bool := false
  fuzzy : Bool := false
  hoisted : NoteId := rootId
  limit : Option Nat := none
  logLevel : String := "info"
  logDir : Option String := none
  deriving DecidableEq, Repr

/-- What the program is asked to do. -/
inductive Request
  | help
  | version
  | run (a : Arguments)
  deriving DecidableEq, Repr

/-- What was given, with the defaults for what was not. -/
def Given.request (g : Given) : Except UsageError Request :=
  match g.plain with
  | [snapshot, query] =>
    .ok (.run {
      snapshot, query
      autocomplete := g.flags.contains .autocomplete
      includeContent := g.flags.contains .includeContent
      fuzzy := g.flags.contains .fuzzy
      hoisted := g.hoisted.getD rootId
      limit := g.limit
      logLevel := g.logLevel.getD "info"
      logDir := g.logDir })
  | _ => .error .missingArgument

/-- Reads the words after those that were given. The first fault, or the first request for help or
the version, decides. -/
def Given.read (g : Given) : List String → Except UsageError Request
  | [] => g.request
  | "--" :: rest => do (← rest.foldlM addPlain g).request
  | word :: rest =>
    match Word.ofText word with
    | .help => .ok .help
    | .version => .ok .version
    | .flag f => do (← g.addFlag f).read rest
    | .setting s (some value) => do (← g.addSetting s value).read rest
    | .setting s none =>
      match rest with
      | [] => .error (.missingValue word)
      | value :: rest =>
        if Word.isOption value then .error (.missingValue word)
        else do (← g.addSetting s value).read rest
    | .flagWithValue name => .error (.flagWithValue name)
    | .unknown word => .error (.unknownArgument word)
    | .plain word => do (← g.addPlain word).read rest

/-- Reads a command line. -/
def Request.ofWords (words : List String) : Except UsageError Request := Given.read {} words

/-- Nothing behind a lone `--` is an option. -/
theorem read_append_lone (g : Given) (rest : List String) :
    g.read ("--" :: rest) = (rest.foldlM Given.addPlain g).bind Given.request := rfl

example : (Request.ofWords ["--limit=2", "s.json", "--", "-q"]).toOption =
    some (.run { snapshot := "s.json", query := "-q", limit := some 2 }) := by decide +kernel

example : (Request.ofWords ["a", "--limit", "-1", "--help"]).toOption = none := by decide +kernel

end Zettel.CommandLine
