import FunctionStack.Config.Service
import FunctionStack.Storage.Document
import FunctionStack.Value.Section

/-!
Service files. A file is read as one document, whose provider settings can be overridden from outside before
the whole is validated; the service lies in the directory of its file.
-/

namespace FunctionStack

/-- A service with the validated settings it was read from. -/
structure LoadedService where
  settings : Value
  service : ServiceConfig

namespace ServiceFile

/-- A pair of a key and a value; only a text can name a setting. -/
def pair : Value → Result (Option (String × Value))
  | .arr [key, value] => if key.isKey then .ok (key.text?.map (·, value)) else fault .wrongType
  | .arr _ => fault .badValue
  | .obj [(key, _), (value, _)] => .ok (some (key, .str value))
  | .obj _ => fault .badValue
  | .str text => match text.toList with
    | [key, value] => .ok (some (.ofList [key], .str (.ofList [value])))
    | _ => fault .badValue
  | _ => fault .wrongType

def pairs : List Value → Result Fields
  | [] => .ok []
  | item :: rest => do
    let first ← pair item
    let others ← pairs rest
    return first.toList ++ others

/-- Provider settings as a table: a table itself, or the pairs that make one. -/
def providerFields (provider : Value) : Result Fields :=
  match provider.orElse (.obj []) with
  | .obj fields => .ok fields
  | .arr items => do
    let entries ← pairs items
    return Table.merge [] entries
  | .str _ => fault .badValue
  | _ => fault .wrongType

def isSet : Value → Bool
  | .null => false
  | _ => true

/-- Lays values over the provider's settings; a null overrides nothing. -/
def override (overrides data : Fields) : Result Fields :=
  if overrides.isEmpty then .ok data
  else do
    let provider ← providerFields ((Table.find? data "provider").getD .null)
    let chosen := overrides.filter fun field => isSet field.2
    return Table.insert data "provider" (.obj (Table.merge provider chosen))

/-- A function may be declared by its name alone. -/
def completeFunctions (data : Fields) : Result Fields := do
  let functions ← Fields.entries data "functions"
  return Table.insert data "functions" (.obj (Table.mapValues (·.orElse (.obj [])) functions))

def settings (overrides : Fields) (document : Value) : Result Fields :=
  match document.orElse (.obj []) with
  | .obj data => do
    let data ← override overrides data
    completeFunctions data
  | _ => fault .noSuchMember

def validated (data : Fields) : Result Value :=
  match Shapes.service.validate (.obj data) with
  | .ok checked => .ok checked
  | .error issues => .error (.invalid issues)

def load (files : Files) (path : String) (overrides : Fields) : Result LoadedService := do
  let content ← files.read (Path.ofText path).toText
  let document ← content.toValue
  let data ← settings overrides document
  let checked ← validated data
  let service := ServiceConfig.ofFields (checked.fields?.getD [])
  return ⟨checked, { service with directory := (files.resolve path).parent }⟩

end ServiceFile

end FunctionStack
