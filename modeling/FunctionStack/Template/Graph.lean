import FunctionStack.Template.Resource
import FunctionStack.Value.Section

/-!
A template under construction: resources by logical id and outputs, both in order of insertion. Resources are
only added; a different resource under a taken id is an error.
-/

namespace FunctionStack

structure Graph where
  resources : Table Resource
  outputs : Value

namespace Graph

def empty : Graph := ⟨[], .obj []⟩

def find? (graph : Graph) (id : String) : Option Resource := graph.resources.find? id

def has (graph : Graph) (id : String) : Bool := graph.resources.has id

def ids (graph : Graph) : List String := graph.resources.keys

/-- Adds a resource; one that equals the resource already there changes nothing. -/
def add (graph : Graph) (id : String) (resource : Resource) : Result Graph :=
  match graph.find? id with
  | none => .ok { graph with resources := graph.resources ++ [(id, resource)] }
  | some existing =>
    if existing.same resource then .ok graph
    else reject (.duplicateResource id existing.type resource.source)

def addOutput (graph : Graph) (id : String) (value : Value) (description : String) : Result Graph :=
  match graph.outputs with
  | .obj outputs =>
    let output := Value.obj [("Description", .str description), ("Value", value)]
    .ok { graph with outputs := .obj (Table.insert outputs id output) }
  | _ => fault .wrongType

def ofType (graph : Graph) (type : String) : List String :=
  (graph.resources.filter fun (_, resource) => resource.type.same (.str type)).map (·.1)

/-- Whether a dependency names a resource of the graph; only a text can. -/
def resolves (graph : Graph) : Value → Bool
  | .str id => graph.has id
  | _ => false

def checkDependencies (graph : Graph) (id : String) (source : Option String) : List Value → Result Unit
  | [] => .ok ()
  | dependency :: rest =>
    if !dependency.isKey then fault .wrongType
    else if graph.resolves dependency then graph.checkDependencies id source rest
    else reject (.danglingDependency id dependency source)

def checkResources (graph : Graph) : List (String × Resource) → Result Unit
  | [] => .ok ()
  | (id, resource) :: rest => do
    graph.checkDependencies id resource.source resource.dependsOn
    graph.checkResources rest

/-- Every dependency must name a resource of the graph; the first that does not is reported. -/
def validate (graph : Graph) : Result Unit := graph.checkResources graph.resources

/-- The retained resources of an earlier graph whose ids are free here. -/
def carried (graph previous : Graph) : Table Resource :=
  previous.resources.filter fun (id, resource) => resource.retained && !graph.has id

def carryRetained (graph previous : Graph) : Graph :=
  { graph with resources := graph.resources ++ graph.carried previous }

def toTemplate (graph : Graph) : Value :=
  .obj [
    ("AWSTemplateFormatVersion", .str "2010-09-09"),
    ("Description", .str "The AWS CloudFormation template for this Serverless application"),
    ("Resources", .obj (graph.resources.mapValues Resource.toValue)),
    ("Outputs", graph.outputs)]

def readResources : Fields → Result (Table Resource)
  | [] => .ok []
  | (id, value) :: rest => do
    let resource ← Resource.ofValue value
    let others ← readResources rest
    return (id, resource) :: others

def ofTemplate : Value → Result Graph
  | .obj template => do
    let resources ← Fields.entries template "Resources"
    let resources ← readResources resources
    return ⟨resources, ((Table.find? template "Outputs").getD .null).orElse (.obj [])⟩
  | _ => fault .noSuchMember

end Graph

end FunctionStack
