import FunctionStack.Command.Arguments

/-!
What the command line asks for.
-/

namespace FunctionStack

structure CompileOptions where
  serviceFile : String
  output : Option String
  stage : Option String
  region : Option String
  previous : Option String
  enforce : Bool
  skipDownload : Bool
  deriving DecidableEq, Repr

inductive CommandName where
  | compile
  | hash
  deriving DecidableEq, Repr

namespace CommandName

def ofText? : String → Option CommandName
  | "compile" => some compile
  | "hash" => some hash
  | _ => none

def options : CommandName → List OptionRule
  | compile => [
    ⟨"output", some 'o', some .fileToWrite⟩,
    ⟨"stage", some 's', some .text⟩,
    ⟨"region", some 'r', some .text⟩,
    ⟨"previous", none, some .file⟩,
    ⟨"enforce-hash-update", none, none⟩,
    ⟨"skip-download", none, none⟩,
    ⟨"verbose", some 'v', none⟩]
  | hash => []

/-- What the only operand must be; a file to hash may turn out to be missing. -/
def operand : CommandName → Expectation
  | compile => .file
  | hash => .fileToWrite

end CommandName

namespace CompileOptions

def ofArguments (serviceFile : String) (arguments : Arguments) : CompileOptions where
  serviceFile := serviceFile
  output := arguments.value? "output"
  stage := arguments.value? "stage"
  region := arguments.value? "region"
  previous := arguments.value? "previous"
  enforce := arguments.isSet "enforce-hash-update"
  skipDownload := arguments.isSet "skip-download"

end CompileOptions

/-- A command with its arguments, whose values have not been looked at. -/
structure Invocation where
  command : CommandName
  arguments : Arguments
  deriving DecidableEq, Repr

namespace Invocation

def ofCommand : List String → Except Misuse Invocation
  | [] => .error .missingCommand
  | name :: rest => match CommandName.ofText? name with
    | none => .error (.unknownCommand name)
    | some command => (Arguments.parse command.options rest).map fun arguments => ⟨command, arguments⟩

/-- No option goes before the command. -/
def ofArguments : List String → Except Misuse Invocation
  | [] => .error .missingCommand
  | "--" :: rest => ofCommand rest
  | first :: rest =>
    if Arguments.isOption first then .error (.unknownOption first) else ofCommand (first :: rest)

end Invocation

end FunctionStack
