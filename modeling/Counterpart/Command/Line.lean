/-
The command line: the commands with their options, and what a list of arguments asks for.
-/
import Counterpart.Command.Options
import Counterpart.Command.Run

namespace Counterpart

/-- A command with its options; directories are still as they were given. -/
inductive Command where
  | run (options : RunOptions)
  | header (out : Option String)
  | listCases (corpus : String) (json : Bool)
  | inputs (corpus case : String) (seed count : Nat) (config : Option String) (json : Bool)
  | history (path : String) (json : Bool)
  | regressions (path : String) (base head : Option Int) (json : Bool)
  deriving DecidableEq, Repr

namespace Command

/-- The options of every kind of run. -/
def runTable : OptionTable :=
  [("corpus", .text), ("seed", .nat), ("count", .nat), ("workers", .nat), ("timeout-ms", .nat),
    ("compiler", .text), ("config", .path), ("report", .path), ("history-db", .path)]

/-- The number of argument sets of a run where nothing else is said. -/
def runCount : Nat := 64

/-- The number of argument sets that are shown where nothing else is said. -/
def inputCount : Nat := 16

/-- The options of a run. -/
def runOptions (given : GivenOptions) (decompiled : Option String) : Except Usage RunOptions := do
  let corpus ← Options.required given "corpus"
  .ok
    { corpus := corpus
      decompiled := decompiled
      seed := (Options.nat? given "seed").getD 0
      count := (Options.nat? given "count").getD runCount
      config := given.lookup "config"
      overrides := ⟨Options.nat? given "workers", Options.nat? given "timeout-ms",
        given.lookup "compiler"⟩
      report := given.lookup "report"
      history := given.lookup "history-db" }

/-- The command of a name, from its arguments; none if there is no such command. -/
def ofName? (name : String) (arguments : List String) : Option (Except Usage Command) :=
  let json : String × OptionKind := ("json", .switch)
  match name with
  | "run" => some do
      let given ← Options.read (("decompiled", .text) :: runTable) [] arguments
      let decompiled ← Options.required given "decompiled"
      (runOptions given decompiled).map run
  | "self-check" => some do
      let given ← Options.read runTable [] arguments
      (runOptions given none).map run
  | "header" => some do
      let given ← Options.read [("out", .path)] [] arguments
      .ok (header (given.lookup "out"))
  | "list-cases" => some do
      let given ← Options.read [("corpus", .text), json] [] arguments
      let corpus ← Options.required given "corpus"
      .ok (listCases corpus (Options.isGiven given "json"))
  | "inputs" => some do
      let table := [("corpus", .text), ("case", .text), ("seed", .nat), ("count", .nat),
        ("config", .path), json]
      let given ← Options.read table [] arguments
      let corpus ← Options.required given "corpus"
      let case ← Options.required given "case"
      .ok (inputs corpus case ((Options.nat? given "seed").getD 0)
        ((Options.nat? given "count").getD inputCount) (given.lookup "config")
        (Options.isGiven given "json"))
  | "history" => some do
      let given ← Options.read [("db", .path), json] [] arguments
      let path ← Options.required given "db"
      .ok (history path (Options.isGiven given "json"))
  | "regressions" => some do
      let given ← Options.read [("db", .path), ("base", .int), ("head", .int), json] [] arguments
      let path ← Options.required given "db"
      .ok (regressions path (Options.int? given "base") (Options.int? given "head")
        (Options.isGiven given "json"))
  | _ => none

/-- What a request for help on further names asks for. -/
def helpOn : List String → Usage
  | [] => .help
  | ["help"] => .help
  | name :: rest =>
      match ofName? name [], rest with
      | some _, [] => .help
      | some _, other :: _ => .unexpected other
      | none, _ => .unexpected name

/-- The command that arguments ask for.  Switches of every command may stand in front of its
name. -/
def read : List String → Except Usage Command
  | [] => .error .missingCommand
  | "--verbose" :: rest => read rest
  | "--help" :: _ => .error .help
  | "--version" :: _ => .error .version
  | "help" :: rest => .error (helpOn rest)
  | argument :: rest =>
      match ofName? argument rest with
      | some command => command
      | none =>
          match argument.toList with
          | '-' :: first :: body =>
              match letters (first :: body) with
              | .error fault => .error fault
              | .ok () => read rest
          | _ => .error (.unexpected argument)
where
  /-- Letters behind a single dash. -/
  letters : List Char → Except Usage Unit
    | [] => .ok ()
    | 'v' :: rest => letters rest
    | 'h' :: _ => .error .help
    | 'V' :: _ => .error .version
    | c :: _ => .error (.unexpected ("-" ++ String.singleton c))

end Command

end Counterpart
