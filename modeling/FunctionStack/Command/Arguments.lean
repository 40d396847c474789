import FunctionStack.Text.Listing
import FunctionStack.Text.Search

/-!
Command-line arguments: options, in a long and a short spelling, and operands, in any order. Short options can
be written behind one dash, and `--` makes operands of all that follows.
-/

namespace FunctionStack

/-- Why a command line cannot be understood. -/
inductive Misuse where
  | unknownOption (spelling : String)
  | unexpectedValue (option : String)
  | missingValue (option : String)
  | missingCommand
  | unknownCommand (name : String)
  | missingOperand
  | extraOperand (operand : String)
  | fileMissing (path : String)
  | fileIsDirectory (path : String)
  deriving DecidableEq, Repr

namespace Misuse

def text : Misuse → String
  | unknownOption spelling => s!"No such option: {spelling}"
  | unexpectedValue option => s!"Option {option} does not take a value."
  | missingValue option => s!"Option {option} requires an argument."
  | missingCommand => "Missing command."
  | unknownCommand name => s!"No such command: {name}"
  | missingOperand => "Missing argument."
  | extraOperand operand => s!"Got unexpected extra argument: {operand}"
  | fileMissing path => s!"File does not exist: {path}"
  | fileIsDirectory path => s!"File is a directory: {path}"

end Misuse

/-- What a value must be. -/
inductive Expectation where
  | text
  | file
  /-- A file, or nothing yet. -/
  | fileToWrite
  deriving DecidableEq, Repr

structure OptionRule where
  name : String
  short : Option Char
  value : Option Expectation
  deriving DecidableEq, Repr

/-- Options by name, with the values of those that take one, and operands. -/
structure Arguments where
  options : List (String × Option String)
  operands : List String
  deriving DecidableEq, Repr

namespace Arguments

/-- What an argument sets, and the option that takes the next argument as its value. -/
structure Reading where
  set : List (String × Option String)
  awaiting : Option String

def longName (rule : OptionRule) : String := "--" ++ rule.name

def readLong (rules : List OptionRule) (spelling : String) (value : Option String) :
    Except Misuse Reading :=
  match rules.find? fun rule => longName rule = spelling with
  | none => .error (.unknownOption spelling)
  | some rule => match rule.value.isSome, value with
    | true, some text => .ok ⟨[(rule.name, some text)], none⟩
    | true, none => .ok ⟨[], some rule.name⟩
    | false, none => .ok ⟨[(rule.name, none)], none⟩
    | false, some _ => .error (.unexpectedValue spelling)

/-- Short options behind one dash; what follows an option that takes a value is its value. -/
def readShort (rules : List OptionRule) : List Char → Except Misuse Reading
  | [] => .ok ⟨[], none⟩
  | c :: rest =>
    match rules.find? fun rule => rule.short = some c with
    | none => .error (.unknownOption (.ofList ['-', c]))
    | some rule =>
      if rule.value.isSome then
        if rest.isEmpty then .ok ⟨[], some rule.name⟩ else .ok ⟨[(rule.name, some (.ofList rest))], none⟩
      else (readShort rules rest).map fun reading => { reading with set := (rule.name, none) :: reading.set }

def readOption (rules : List OptionRule) (argument : String) : Except Misuse Reading :=
  if Text.beginsWith argument "--" then
    match Text.cut argument "=" with
    | some (spelling, value) => readLong rules spelling (some value)
    | none => readLong rules argument none
  else readShort rules (argument.toList.drop 1)

/-- A dash by itself is an operand. -/
def isOption (argument : String) : Bool := Text.beginsWith argument "-" && argument ≠ "-"

def read (rules : List OptionRule) : List String → Arguments → Except Misuse Arguments
  | [], done => .ok done
  | argument :: rest, done =>
    if argument = "--" then .ok { done with operands := done.operands ++ rest }
    else if isOption argument then
      match readOption rules argument with
      | .error misuse => .error misuse
      | .ok ⟨set, none⟩ => read rules rest { done with options := done.options ++ set }
      | .ok ⟨set, some name⟩ =>
        match rest with
        | [] => .error (.missingValue name)
        | value :: rest => read rules rest { done with options := done.options ++ set ++ [(name, some value)] }
    else read rules rest { done with operands := done.operands ++ [argument] }

def parse (rules : List OptionRule) (arguments : List String) : Except Misuse Arguments :=
  read rules arguments ⟨[], []⟩

def isSet (arguments : Arguments) (name : String) : Bool := arguments.options.any (·.1 = name)

/-- The value of an option; the last one given counts. -/
def value? (arguments : Arguments) (name : String) : Option String :=
  arguments.options.reverse.lookup name |>.join

/-- The values of the options, in the order in which the options are first set. -/
def values (rules : List OptionRule) (arguments : Arguments) : List (Expectation × String) :=
  (Text.distinct (arguments.options.map (·.1))).filterMap fun name => do
    let rule ← rules.find? fun rule => rule.name = name
    let expectation ← rule.value
    let value ← arguments.value? name
    some (expectation, value)

end Arguments

end FunctionStack
