import FunctionStack.Schema.Basic
import FunctionStack.Schema.Scalars

/-!
Validation of a value against a shape. The outcome is the value with its fields under their keys, in the
order of the model, after conversion and without unknown fields; or all issues, in that order.
-/

namespace FunctionStack

abbrev Checked (α : Type) := Except (List Issue) α

namespace Checked

/-- Two checks, the issues of the first before those of the second. -/
def both {α β γ : Type} (combine : α → β → γ) (first : Checked α) (second : Checked β) : Checked γ :=
  match first, second with
  | .ok a, .ok b => .ok (combine a b)
  | .ok _, .error issues => .error issues
  | .error issues, .ok _ => .error issues
  | .error issues, .error more => .error (issues ++ more)

def inside {α : Type} (step : LocationStep) (check : Checked α) : Checked α :=
  check.mapError (·.map (Issue.inside step))

def issue {α : Type} (kind : IssueKind) : Checked α := .error [⟨[], kind⟩]

def ofScalar {α : Type} (make : α → Value) (scalar : Except IssueKind α) : Checked Value :=
  match scalar with
  | .ok a => .ok (make a)
  | .error kind => issue kind

def items (check : Value → Checked Value) (position : Nat) : List Value → Checked (List Value)
  | [] => .ok []
  | value :: rest =>
    both List.cons ((check value).inside (.index position)) (items check (position + 1) rest)

def entries (check : Value → Checked Value) : Fields → Checked Fields
  | [] => .ok []
  | (key, value) :: rest =>
    both (fun checked others => (key, checked) :: others) ((check value).inside (.key key))
      (entries check rest)

end Checked

namespace FieldName

/-- The key a field is given under; the key proper wins over the plain name. -/
def given? (field : FieldName) (fields : Fields) : Option (String × Value) :=
  match Table.find? fields field.key with
  | some value => some (field.key, value)
  | none => (Table.find? fields field.name).map (field.name, ·)

end FieldName

namespace Schema

/-- The alternative that owns the value goes first; if both fail, both are heard in their own order. -/
def choose (first second : Schema) (value : Value) (one two : Checked Value) : Checked Value :=
  match one, two with
  | .ok a, .ok b => .ok (if second.owns value && !first.owns value then b else a)
  | .ok a, .error _ => .ok a
  | .error _, .ok b => .ok b
  | .error issues, .error more =>
    .error (issues.map (Issue.inside (.key first.tag)) ++ more.map (Issue.inside (.key second.tag)))

mutual

def validate : Schema → Value → Checked Value
  | .any, value => .ok value
  | .text, .str content => .ok (.str content)
  | .text, _ => Checked.issue .notText
  | .integer, value => Checked.ofScalar Value.int (toInteger value)
  | .boolean, value => Checked.ofScalar Value.bool (toBoolean value)
  | .path, .str content => .ok (.str content)
  | .path, _ => Checked.issue .notPath
  | .list item, .arr values => (Checked.items (validate item) 0 values).map Value.arr
  | .list _, _ => Checked.issue .notList
  | .table item, .obj fields => (Checked.entries (validate item) fields).map Value.obj
  | .table _, _ => Checked.issue .notTable
  | .optional _, .null => .ok .null
  | .optional inner, value => validate inner value
  | .either first second, value => choose first second value (validate first value) (validate second value)
  | .model _ fields, .obj given => (validateFields fields given).map Value.obj
  | .model _ _, _ => Checked.issue .notModel

def validateFields : List (FieldName × Schema) → Fields → Checked Fields
  | [], _ => .ok []
  | (field, schema) :: rest, given =>
    match field.given? given with
    | some (key, value) =>
      Checked.both (fun checked others => (field.key, checked) :: others)
        ((validate schema value).inside (.key key)) (validateFields rest given)
    | none =>
      if field.required then
        Checked.both (fun (_ : Value) others => others)
          ((Checked.issue .missing).inside (.key field.key)) (validateFields rest given)
      else validateFields rest given

end

/-- A validated value as it is shown: without the fields that are never shown. -/
def dump : Schema → Value → Value
  | .model _ fields, .obj given =>
    .obj (given.filter fun (key, _) => fields.all fun (field, _) => field.key ≠ key || field.shown)
  | _, value => value

/-- The plain names of the fields that a validated value sets. -/
def setNames : Schema → Value → List String
  | .model _ fields, .obj given =>
    fields.filterMap fun (field, _) => if Table.has given field.key then some field.name else none
  | _, _ => []

end Schema

end FunctionStack
