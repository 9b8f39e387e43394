/-
Options on a command line.  An option has a name and takes a value, behind an equals sign
or as the next argument, unless it is a switch; no option may be given twice.
-/
import Counterpart.Text.Lines
import Counterpart.Text.Numeral

namespace Counterpart

/-- What an option takes. -/
inductive OptionKind where
  | switch
  | text
  /-- A text that is not empty. -/
  | path
  | nat
  | int
  deriving DecidableEq, Repr

/-- The options of a command by name. -/
abbrev OptionTable := List (String × OptionKind)

/-- The options that were given, with the values of those that take one. -/
abbrev GivenOptions := List (String × String)

/-- Why a command line is not carried out. -/
inductive Usage where
  /-- It asks for help. -/
  | help
  /-- It asks for the version. -/
  | version
  | unexpected (argument : String)
  | missingValue (option : String)
  | badValue (option value : String)
  | repeated (option : String)
  | missing (option : String)
  | missingCommand
  deriving DecidableEq, Repr

/-- What is said of a faulty command line. -/
def Usage.message : Usage → String
  | .help | .version => ""
  | .unexpected argument => "unexpected argument '" ++ argument ++ "' found"
  | .missingValue option => "a value is required for '--" ++ option ++ "' but none was supplied"
  | .badValue option value => "invalid value '" ++ value ++ "' for '--" ++ option ++ "'"
  | .repeated option => "the argument '--" ++ option ++ "' cannot be used multiple times"
  | .missing option => "the required argument '--" ++ option ++ "' was not provided"
  | .missingCommand => "a command is required"

namespace OptionKind

/-- Whether a value has the right form. -/
def admits (kind : OptionKind) (value : String) : Bool :=
  match kind with
  | switch => false
  | text => true
  | path => !value.isEmpty
  | nat => (Text.nat64? value.toList).isSome
  | int => (Text.int64? value.toList).isSome

end OptionKind

namespace Options

open Text

/-- Whether an argument looks like an option; a lone dash does not. -/
def looksLikeOption (argument : String) : Bool :=
  match argument.toList with
  | '-' :: _ :: _ => true
  | _ => false

/-- The name and the value of an argument that opens with two dashes. -/
def splitLong (body : List Char) : String × Option String :=
  match body.dropWhile (· ≠ '=') with
  | [] => (String.ofList body, none)
  | _ :: value => (String.ofList (body.takeWhile (· ≠ '=')), some (String.ofList value))

/-- The options given so far with one more. -/
def give (given : GivenOptions) (name value : String) : Except Usage GivenOptions :=
  if (given.lookup name).isSome then .error (.repeated name) else .ok ((name, value) :: given)

/-- The options given so far with one more value. -/
def giveValue (given : GivenOptions) (name : String) (kind : OptionKind) (value : String) :
    Except Usage GivenOptions :=
  if kind.admits value then give given name value else .error (.badValue name value)

/-- Letters behind a single dash, of which only switches of every command are known. -/
def letters (whole : String) : List Char → Except Usage Unit
  | [] => .ok ()
  | 'v' :: rest => letters whole rest
  | 'h' :: _ => .error .help
  | _ => .error (.unexpected whole)

/-- What an argument with two dashes does.  The result tells whether it takes the next
argument for its value. -/
def long (table : OptionTable) (given : GivenOptions) (whole : String) (body : List Char) :
    Except Usage (GivenOptions × Option (String × OptionKind)) :=
  match splitLong body with
  | ("help", none) => .error .help
  | ("verbose", none) => .ok (given, none)
  | (name, value) =>
      match table.lookup name, value with
      | none, _ => .error (.unexpected whole)
      | some .switch, none => (give given name "").map fun given => (given, none)
      | some .switch, some value => .error (.badValue name value)
      | some kind, none => .ok (given, some (name, kind))
      | some kind, some value => (giveValue given name kind value).map fun given => (given, none)

/-- Reads arguments behind those that were given. -/
def read (table : OptionTable) : GivenOptions → List String → Except Usage GivenOptions
  | given, [] => .ok given
  | given, "--" :: rest =>
      match rest with
      | [] => .ok given
      | argument :: _ => .error (.unexpected argument)
  | given, argument :: rest =>
      match argument.toList with
      | '-' :: '-' :: body =>
          match long table given argument body with
          | .error fault => .error fault
          | .ok (given, none) => read table given rest
          | .ok (given, some (name, kind)) =>
              match rest with
              | [] => .error (.missingValue name)
              | value :: rest =>
                  if looksLikeOption value then .error (.missingValue name)
                  else match giveValue given name kind value with
                    | .error fault => .error fault
                    | .ok given => read table given rest
      | '-' :: first :: body =>
          match letters argument (first :: body) with
          | .error fault => .error fault
          | .ok () => read table given rest
      | _ => .error (.unexpected argument)

/-- The value of an option that must be given. -/
def required (given : GivenOptions) (name : String) : Except Usage String :=
  match given.lookup name with
  | some value => .ok value
  | none => .error (.missing name)

/-- A number that may be given. -/
def nat? (given : GivenOptions) (name : String) : Option Nat :=
  (given.lookup name).bind fun value => nat64? value.toList

/-- A number with a sign that may be given. -/
def int? (given : GivenOptions) (name : String) : Option Int :=
  (given.lookup name).bind fun value => int64? value.toList

/-- Whether a switch is given. -/
def isGiven (given : GivenOptions) (name : String) : Bool :=
  (given.lookup name).isSome

end Options

end Counterpart
