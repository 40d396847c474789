import FunctionStack.Text.Search
import FunctionStack.Value.Basic

/-!
Settings as they are read from validated configuration. A setting may be left out, cleared by an explicit
null, or given.
-/

namespace FunctionStack

inductive Setting (α : Type) where
  | absent
  | cleared
  | given (value : α)

namespace Setting

def value? {α : Type} : Setting α → Option α
  | .given value => some value
  | _ => none

end Setting

/-- An ARN, or a table that computes one when the stack is created. -/
inductive Pointer where
  | arn (text : String)
  | computed (fields : Fields)

namespace Pointer

def toValue : Pointer → Value
  | .arn text => .str text
  | .computed fields => .obj fields

def ofValue? : Value → Option Pointer
  | .str text => some (.arn text)
  | .obj fields => some (.computed fields)
  | _ => none

def isGiven (pointer : Pointer) : Bool := pointer.toValue.given

/-- The text of a literal ARN. -/
def literal? : Pointer → Option String
  | .arn text => some text
  | .computed _ => none

/-- The first pointer if it is given, else the second if that is. -/
def firstGiven (first second : Option Pointer) : Option Pointer :=
  (first.filter isGiven) <|> (second.filter isGiven)

end Pointer

/-- How requests are traced: switched on or off, or in a named mode. -/
inductive Tracing where
  | enabled (on : Bool)
  | mode (name : String)

namespace Tracing

/-- The tracing mode, where there is tracing. -/
def mode? : Tracing → Option String
  | .enabled on => if on then some "Active" else none
  | .mode name => if name = "" then none else some name

def ofValue? : Value → Option Tracing
  | .bool on => some (.enabled on)
  | .str name => some (.mode name)
  | _ => none

def toValue : Tracing → Value
  | .enabled on => .bool on
  | .mode name => .str name

end Tracing

namespace Settings

def text? (fields : Fields) (key : String) : Option String := Table.find? fields key >>= Value.text?

def integer? (fields : Fields) (key : String) : Option Int :=
  match Table.find? fields key with
  | some (.int number) => some number
  | _ => none

def boolean? (fields : Fields) (key : String) : Option Bool :=
  match Table.find? fields key with
  | some (.bool truth) => some truth
  | _ => none

def items? (fields : Fields) (key : String) : Option (List Value) := Table.find? fields key >>= Value.items?

def texts? (fields : Fields) (key : String) : Option (List String) :=
  (items? fields key).map (·.filterMap Value.text?)

def table? (fields : Fields) (key : String) : Option Fields := Table.find? fields key >>= Value.fields?

def pointer? (fields : Fields) (key : String) : Option Pointer :=
  Table.find? fields key >>= Pointer.ofValue?

def setting {α : Type} (read : Value → Option α) (fields : Fields) (key : String) : Setting α :=
  match Table.find? fields key with
  | none => .absent
  | some value => match read value with
    | some a => .given a
    | none => .cleared

/-- A table of tables, each read as a whole. -/
def tableOf {α : Type} (read : Fields → α) (fields : Fields) (key : String) : Table α :=
  ((table? fields key).getD []).map fun (name, value) => (name, read (value.fields?.getD []))

def nonZero (number : Option Int) : Option Int := number.filter (· ≠ 0)

def nonEmpty {α : Type} (items : Option (List α)) : Option (List α) := items.filter (!·.isEmpty)

end Settings

end FunctionStack
