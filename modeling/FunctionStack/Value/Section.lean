import FunctionStack.Failure

/-!
Sections of a document: tables that may be left out.
-/

namespace FunctionStack.Fields

/-- The entries of a section; an empty setting of any kind counts as no entries. -/
def entries (fields : Fields) (key : String) : Result Fields :=
  match ((Table.find? fields key).getD .null).orElse (.obj []) with
  | .obj entries => .ok entries
  | _ => fault .noSuchMember

end FunctionStack.Fields
