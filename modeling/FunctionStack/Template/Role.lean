import FunctionStack.Config.Provider
import FunctionStack.Naming
import FunctionStack.Template.Intrinsic
import FunctionStack.Template.Resource

/-!
The execution role of a function: the shared default one, a literal ARN, a role of the template by its id or
by one of its attributes, or a computed value. Only the default role gets permissions from the compiler.
-/

namespace FunctionStack

inductive RoleKind where
  | default
  | arn
  | logical
  | getAtt
  | computed
  deriving DecidableEq, Repr

/-- A role as the value of a function's `Role` and the resource it must be created after, if any. -/
structure Role where
  kind : RoleKind
  value : Value
  dependency : Value

namespace Role

def isDefault (role : Role) : Bool := role.kind = .default

def theDefault : Role := ⟨.default, Intrinsic.getAtt defaultExecutionRole "Arn", .null⟩

/-- The first item of a list or the first character of a text. -/
def firstOf : Value → Result Value
  | .arr [] => fault .indexOutOfRange
  | .arr (item :: _) => .ok item
  | .str text => match text.toList with
    | [] => fault .indexOutOfRange
    | c :: _ => .ok (.str (.ofList [c]))
  | .obj _ => fault .missingKey
  | _ => fault .wrongType

def ofText (text : String) : Role :=
  if text = defaultExecutionRole then theDefault
  else if Text.beginsWith text "arn:" then ⟨.arn, .str text, .null⟩
  else ⟨.logical, Intrinsic.getAtt text "Arn", .str text⟩

def ofValue : Value → Result Role
  | .null => .ok theDefault
  | .str text => .ok (ofText text)
  | .obj fields => match Table.find? fields "Fn::GetAtt" with
    | some target => do
      let dependency ← firstOf target
      return ⟨.getAtt, .obj fields, dependency⟩
    | none => .ok ⟨.computed, .obj fields, .null⟩
  | .arr items =>
    if (Value.str "Fn::GetAtt").isIn items then fault .wrongType
    else .ok ⟨.computed, .arr items, .null⟩
  | _ => fault .wrongType

/-- A function's own role, or else the provider's. -/
def declared (function : FunctionConfig) (provider : ProviderConfig) : Value :=
  match function.role.filter Pointer.isGiven with
  | some role => role.toValue
  | none => provider.role.elim .null Pointer.toValue

def ofFunction (function : FunctionConfig) (provider : ProviderConfig) : Result Role :=
  ofValue (declared function provider)

end Role

end FunctionStack
