import FunctionStack.Artifact.Image
import FunctionStack.Compile.Destination
import FunctionStack.Template.Policy

/-!
What a compilation works on. A step either succeeds or fails; what earlier steps have done stays done.
-/

namespace FunctionStack

/-- The logical ids of what a function was compiled into. -/
structure CompiledFunction where
  name : String
  id : String
  version : Option String
  targetAlias : Option String
  url : Option String
  eventConfig : Option String
  deriving DecidableEq, Repr

structure Workspace where
  graph : Graph
  policy : Option ExecutionPolicy
  /-- Functions with the keys of the destinations they have been granted. -/
  granted : List (String × String)
  compiled : List CompiledFunction
  registry : RegistrySession

abbrev Build (α : Type) := ExceptT Failure (StateM Workspace) α

namespace Build

def ofResult {α : Type} (result : Result α) : Build α := ExceptT.mk (pure result)

def addResource (id : String) (resource : Resource) : Build Unit := do
  let graph ← ofResult ((← get).graph.add id resource)
  modify fun w => { w with graph := graph }

def addOutput (id : String) (value : Value) (description : String) : Build Unit := do
  let graph ← ofResult ((← get).graph.addOutput id value description)
  modify fun w => { w with graph := graph }

/-- Adds a statement to the execution policy; without one there is nothing to grant. -/
def grant (statement : Value) : Build Bool := do
  let w ← get
  match w.policy with
  | none => return false
  | some policy =>
    let (graph, policy, added) ← ofResult (policy.add w.graph statement)
    modify fun w => { w with graph := graph, policy := some policy }
    return added

def grantAll : List Value → Build Unit
  | [] => return ()
  | statement :: rest => do
    let _ ← grant statement
    grantAll rest

/-- Lets a function send to a destination, once for each of its destinations. -/
def grantDestination (function : String) (destination : Destination) : Build Bool := do
  let w ← get
  if w.policy.isNone then return false
  else if w.granted.contains (function, destination.key) then return false
  else
    modify fun w => { w with granted := w.granted ++ [(function, destination.key)] }
    grant (Statements.allow (.str destination.kind.action) destination.pointer
      (some (destination.sid function)))

def resolveImage (registry : Registry) (provider : ProviderConfig) (function : String)
    (image : ImageConfig) : Build ResolvedImage := do
  let (resolved, session) := Image.resolve registry provider function image (← get).registry
  modify fun w => { w with registry := session }
  ofResult resolved

/-- A failure inside one function names that function. -/
def attributed (function : String) : Failure → Failure
  | .rejected error => .rejected (error.during function)
  | .faulty f => .because (.functionFaulty function f)
  | other => other

def forFunction {α : Type} (function : String) (step : Build α) : Build α :=
  ExceptT.mk (do return (← step.run).mapError (attributed function))

end Build

end FunctionStack
