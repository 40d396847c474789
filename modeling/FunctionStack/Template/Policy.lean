import FunctionStack.Naming
import FunctionStack.Template.Graph
import FunctionStack.Text.Search

/-!
The statements of the shared execution policy. A statement is appended unless one equal to it is there. The
policy is the first one of the default execution role, where that role is part of the graph.
-/

namespace FunctionStack

namespace Statements

def add (statements : List Value) (statement : Value) : List Value :=
  if statement.isIn statements then statements else statements ++ [statement]

def allow (actions resources : Value) (sid : Option String) : Value :=
  .obj ((Text.given sid).elim [] (fun s => [("Sid", .str s)]) ++
    [("Effect", .str "Allow"), ("Action", actions), ("Resource", resources)])

end Statements

namespace Value

/-- Membership in a value: an item of a list, a key of a table, or a piece of a text. -/
def contains (container value : Value) : Result Bool :=
  match container with
  | .arr items => .ok (value.isIn items)
  | .obj fields =>
    if value.isKey then .ok (value.text?.any (Table.has fields)) else FunctionStack.fault .wrongType
  | .str text => match value with
    | .str piece => .ok (Text.contains text piece)
    | _ => FunctionStack.fault .wrongType
  | _ => FunctionStack.fault .wrongType

def count : Value → Result Nat
  | .arr items => .ok items.length
  | .obj fields => .ok fields.length
  | .str text => .ok text.length
  | _ => FunctionStack.fault .wrongType

/-- Appends to a list what it does not contain; tells whether it did. -/
def addStatement (container statement : Value) : Result (Value × Bool) := do
  if ← container.contains statement then return (container, false)
  else match container with
    | .arr items => return (.arr (items ++ [statement]), true)
    | _ => FunctionStack.fault .noSuchMember

def modifyField (key : String) (f : Value → Value) : Value → Value
  | .obj fields => .obj (Table.update fields key f)
  | value => value

def modifyFirst (f : Value → Value) : Value → Value
  | .arr (item :: items) => .arr (f item :: items)
  | value => value

def first? : Value → Option Value
  | .arr (item :: _) => some item
  | _ => none

/-- A table in which a key has at least a default. -/
def withDefault (value : Value) (key : String) (default : Value) : Result Fields :=
  match value with
  | .obj fields => .ok (if Table.has fields key then fields else fields ++ [(key, default)])
  | _ => FunctionStack.fault .noSuchMember

end Value

/-- Where the execution policy keeps its statements. -/
inductive ExecutionPolicy where
  | inRole
  | apart (statements : Value)

namespace ExecutionPolicy

def emptyPolicy : Value := .obj [("PolicyName", .str "default"), ("PolicyDocument", .obj [])]

/-- A policy document with a version and statements. -/
def completeDocument (document : Value) : Result Value := do
  let fields ← document.withDefault "Version" (.str "2012-10-17")
  let fields ← (Value.obj fields).withDefault "Statement" (.arr [])
  return .obj fields

def completePolicy (policy : Value) : Result Value := do
  let fields ← policy.withDefault "PolicyDocument" (.obj [])
  let document ← completeDocument ((Table.find? fields "PolicyDocument").getD .null)
  return .obj (Table.insert fields "PolicyDocument" document)

/-- The list of policies with the first one complete; an empty list gets one. -/
def completePolicies : Value → Result Value
  | .arr [] => do
    let policy ← completePolicy emptyPolicy
    return .arr [policy]
  | .arr (policy :: others) => do
    let policy ← completePolicy policy
    return .arr (policy :: others)
  | policies =>
    if !policies.given then fault .noSuchMember
    else match policies with
      | .obj _ => fault .missingKey
      | .str _ => fault .noSuchMember
      | _ => fault .wrongType

def completeRole (properties : Value) : Result Value := do
  let fields ← properties.withDefault "Policies" (.arr [])
  let policies ← completePolicies ((Table.find? fields "Policies").getD .null)
  return .obj (Table.insert fields "Policies" policies)

def statementOf (properties : Value) : Value :=
  ((properties.field? "Policies" >>= Value.first?) >>= (·.field? "PolicyDocument") >>=
    (·.field? "Statement")).getD .null

def withStatement (statement : Value) : Value → Value :=
  .modifyField "Policies" (.modifyFirst (.modifyField "PolicyDocument"
    (.modifyField "Statement" fun _ => statement)))

def setProperties (graph : Graph) (id : String) (properties : Value) : Graph :=
  { graph with resources := graph.resources.update id fun r => { r with properties := properties } }

/-- Finds the policy of a graph and completes it. Explicitly null statements stay null in the role, and the
policy then keeps its statements apart. -/
def ofGraph (graph : Graph) : Result (Graph × Option ExecutionPolicy) :=
  match graph.find? defaultExecutionRole with
  | none => .ok (graph, none)
  | some role => do
    let properties ← completeRole role.properties
    let policy := match statementOf properties with
      | .null => apart (.arr [])
      | _ => inRole
    return (setProperties graph defaultExecutionRole properties, some policy)

def statements (graph : Graph) : ExecutionPolicy → Value
  | inRole => (graph.find? defaultExecutionRole).elim .null fun role => statementOf role.properties
  | apart statements => statements

/-- Appends a statement that is not there yet; tells whether it did. -/
def add (graph : Graph) (policy : ExecutionPolicy) (statement : Value) :
    Result (Graph × ExecutionPolicy × Bool) := do
  let (grown, added) ← (policy.statements graph).addStatement statement
  match policy with
  | apart _ => return (graph, apart grown, added)
  | inRole =>
    let properties := (graph.find? defaultExecutionRole).elim .null (·.properties)
    return (setProperties graph defaultExecutionRole (withStatement grown properties), inRole, added)

end ExecutionPolicy

end FunctionStack
