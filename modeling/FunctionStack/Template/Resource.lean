import FunctionStack.Failure
import FunctionStack.Value.Same

/-!
One resource of a template: its type and properties, what it is created after, and whether it is kept when it
leaves the template. The function or layer it was made from is not part of the template.
-/

namespace FunctionStack

structure Resource where
  type : Value
  properties : Value
  dependsOn : List Value
  condition : Value
  deletionPolicy : Value
  source : Option String

namespace Resource

def make (type : String) (properties : Fields) (source : Option String) : Resource :=
  ⟨.str type, .obj properties, [], .null, .null, source⟩

def retainPolicy : Value := .str "Retain"

def retained (resource : Resource) : Bool := resource.deletionPolicy.same retainPolicy

/-- Equality of everything that is part of the template. -/
def same (a b : Resource) : Bool :=
  a.type.same b.type && a.properties.same b.properties && Value.sameItems a.dependsOn b.dependsOn &&
    a.condition.same b.condition && a.deletionPolicy.same b.deletionPolicy

/-- The dependencies of a call that are not recorded yet; empty ones are ignored. -/
def newDependencies (resource : Resource) (ids : List Value) : List Value :=
  ids.filter fun id => id.given && !id.isIn resource.dependsOn

def dependOn (resource : Resource) (ids : List Value) : Resource :=
  { resource with dependsOn := resource.dependsOn ++ resource.newDependencies ids }

def dependFirstOn (resource : Resource) (ids : List Value) : Resource :=
  { resource with dependsOn := resource.newDependencies ids ++ resource.dependsOn }

def optionalField (key : String) (value : Value) : Fields := if value.given then [(key, value)] else []

def toValue (resource : Resource) : Value :=
  .obj ([("Type", resource.type)] ++ optionalField "DeletionPolicy" resource.deletionPolicy ++
    optionalField "Condition" resource.condition ++ [("Properties", resource.properties)] ++
    optionalField "DependsOn" (.arr resource.dependsOn))

/-- One dependency by itself stands for a list of it; a table stands for its keys. -/
def dependencies : Value → Result (List Value)
  | .arr items => .ok items
  | .str id => .ok [.str id]
  | .obj fields => .ok (fields.map fun field => .str field.1)
  | _ => fault .wrongType

def ofValue : Value → Result Resource
  | .obj data => do
    let value key := (Table.find? data key).getD .null
    match Table.find? data "Type" with
    | none => fault .missingKey
    | some type =>
      let dependsOn ← dependencies ((value "DependsOn").orElse (.arr []))
      return ⟨type, (value "Properties").orElse (.obj []), dependsOn, value "Condition",
        value "DeletionPolicy", none⟩
  | _ => fault .noSuchMember

end Resource

end FunctionStack
