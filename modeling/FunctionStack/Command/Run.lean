import FunctionStack.Artifact.Download
import FunctionStack.Command.Invocation
import FunctionStack.Compile.Function
import FunctionStack.Config.ServiceFile
import FunctionStack.Text.Styling

/-!
The commands: compiling a service file into a template, and hashing a file. What has been printed and written
before a failure stays. Lines are printed plain, without the terminal styling that a name may hold.
-/

namespace FunctionStack

/-- How a command ended. -/
inductive Ending where
  | done
  | failed (error : CompileError)
  | misused (misuse : Misuse)
  | crashed (failure : Failure)

namespace Ending

def exitCode : Ending → Nat
  | done => 0
  | failed _ => 1
  | misused _ => 2
  | crashed _ => 1

end Ending

/-- The files, and what has been printed: the output, and the report on how it went. -/
structure Console where
  files : Files
  output : String
  report : String

/-- What a command can reach, and how it words what its messages only quote. -/
structure Surroundings where
  store : ObjectStore
  registry : Registry
  wording : Wording

abbrev Command (α : Type) := ExceptT Ending (StateM Console) α

namespace Command

def say (line : String) : Command Unit :=
  modify fun c => { c with output := c.output ++ Text.unstyled line ++ "\n" }

def tell (line : String) : Command Unit :=
  modify fun c => { c with report := c.report ++ Text.unstyled line ++ "\n" }

def fail {α : Type} (wording : Wording) (error : CompileError) : Command α := do
  tell s!"Error [{error.code}]: {error.message wording}"
  throw (.failed error)

def crash {α : Type} (failure : Failure) : Command α := throw (.crashed failure)

/-- A rejected service is reported; any other failure ends the command as it is. -/
def ofResult {α : Type} (wording : Wording) : Result α → Command α
  | .ok a => return a
  | .error (.rejected error) => fail wording error
  | .error failure => crash failure

def orCrash {α : Type} : Result α → Command α
  | .ok a => return a
  | .error failure => crash failure

/-- What a path on the command line leads to, if it leads anywhere. -/
def lookUp (path : String) : Command (Option Node) := do
  if Files.holdsNul path then crash (.faulty .badValue)
  else match (← get).files.find path with
    | .ok node => return some node
    | .error _ => return none

def expect : Expectation → String → Command Unit
  | .text, _ => return ()
  | .file, path => do
    match ← lookUp path with
    | some (.file _) => return ()
    | some .directory => throw (.misused (.fileIsDirectory path))
    | none => throw (.misused (.fileMissing path))
  | .fileToWrite, path => do
    match ← lookUp path with
    | some .directory => throw (.misused (.fileIsDirectory path))
    | _ => return ()

def expectAll : List (Expectation × String) → Command Unit
  | [] => return ()
  | (expectation, value) :: rest => do
    expect expectation value
    expectAll rest

/-- The only operand. It is looked at before anything is said of a second one. -/
def operand (expectation : Expectation) : List String → Command String
  | [] => throw (.misused .missingOperand)
  | first :: rest => do
    expect expectation first
    match rest with
    | [] => return first
    | extra :: _ => throw (.misused (.extraOperand extra))

def load (wording : Wording) (options : CompileOptions) : Command LoadedService := do
  let overrides := [("stage", Value.ofText? options.stage), ("region", Value.ofText? options.region)]
  match ServiceFile.load (← get).files options.serviceFile overrides with
  | .ok loaded => return loaded
  | .error (.invalid issues) => fail wording ⟨.serviceFileInvalid options.serviceFile issues, none⟩
  | .error .unparsable => fail wording ⟨.serviceFileUnparsable options.serviceFile, none⟩
  | .error failure => crash failure

/-- An earlier template, with stand-ins for halves that are neither in it nor among other characters. -/
def templateOf (text : String) (others : List Char) : Result (Graph × Text.StandIns) := do
  let characters := text.toList
  let standIns := Text.StandIns.apartFrom (characters ++ JsonReader.spelledPairs characters ++ others)
  let template ← Value.readJson standIns text
  let graph ← Graph.ofTemplate template
  return (graph, standIns)

/-- The text of the earlier template, which must be one. -/
def readPrevious (path : Option String) : Command (Option String) := do
  match Text.given path with
  | none => return none
  | some path =>
    let text ← orCrash ((← get).files.jsonText (Path.ofText path).toText)
    let _ ← orCrash (templateOf text [])
    return some text

/-- A template with what it keeps of the earlier one. -/
def succeed (graph : Graph) : Option String → Result (Graph × Option Text.StandIns)
  | none => .ok (graph, none)
  | some text => do
    let (previous, standIns) ← templateOf text (graph.toTemplate.toJson .compact).toList
    return (graph.carryRetained previous, some standIns)

def fetch (surroundings : Surroundings) (service : ServiceConfig) : Command ServiceConfig := do
  let (outcome, files) := surroundings.store.fetch .default service (← get).files
  modify fun c => { c with files := files }
  let places ← ofResult surroundings.wording outcome
  if !places.isEmpty then tell s!"Downloaded {places.length} artifact(s)"
  return service.relocate places

/-- Puts the template into its file, or prints it. -/
def deliver (output : Option String) (template : String) : Command Unit := do
  match Text.given output with
  | none => say template
  | some path =>
    let content := FileContent.bytes (.ofText (template ++ "\n"))
    let files ← orCrash ((← get).files.write (Path.ofText path).toText content)
    modify fun c => { c with files := files }

def tellVersions : List CompiledFunction → Command Unit
  | [] => return ()
  | function :: rest => do
    let version := (Text.given function.version).getD "unversioned"
    tell s!"  - {function.name}: {version}"
    tellVersions rest

def summarize (graph : Graph) (compiled : List CompiledFunction) : Command Unit := do
  tell s!"✓ Compiled {compiled.length} function(s) into {graph.resources.length} resources"
  tellVersions compiled

def compile (surroundings : Surroundings) (options : CompileOptions) : Command Unit := do
  let loaded ← load surroundings.wording options
  let previous ← readPrevious options.previous
  let service ← if options.skipDownload then pure loaded.service else fetch surroundings loaded.service
  let blueprint := Blueprint.ofService service (← get).files surroundings.registry options.enforce
  let (compiledGraph, compiled) ← ofResult surroundings.wording (blueprint.compileService none).1
  let (graph, standIns) ← orCrash (succeed compiledGraph previous)
  let text ← orCrash (graph.toTemplate.printed (.indented standIns))
  deliver options.output text
  summarize graph compiled
  if let some path := Text.given options.output then tell s!"  Template: {path}"

def hash (wording : Wording) (path : String) : Command Unit := do
  let value ← ofResult wording ((← get).files.hash path)
  say value

/-- The values of options are looked at before the operand. -/
def perform (surroundings : Surroundings) (arguments : List String) : Command Unit :=
  match Invocation.ofArguments arguments with
  | .error misuse => throw (.misused misuse)
  | .ok invocation => do
    let command := invocation.command
    expectAll (invocation.arguments.values command.options)
    let path ← operand command.operand invocation.arguments.operands
    match command with
    | .compile => compile surroundings (.ofArguments path invocation.arguments)
    | .hash => hash surroundings.wording path

def run (surroundings : Surroundings) (files : Files) (arguments : List String) : Ending × Console :=
  match StateT.run (ExceptT.run (perform surroundings arguments)) ⟨files, "", ""⟩ with
  | (.ok _, console) => (.done, console)
  | (.error ending, console) => (ending, console)

end Command

end FunctionStack
