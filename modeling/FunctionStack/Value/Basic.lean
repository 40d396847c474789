import FunctionStack.Number.Double

/-!
Free-form values of service files and templates: numbers, texts, lists and tables. A table keeps its keys in
the order in which they were first written.
-/

namespace FunctionStack

/-- Keys with their values, in order of insertion. -/
abbrev Table (α : Type) := List (String × α)

namespace Table

variable {α β : Type}

def find? (table : Table α) (key : String) : Option α := List.lookup key table

def has (table : Table α) (key : String) : Bool := (table.find? key).isSome

/-- A known key keeps its place, a new one goes to the end. -/
def insert : Table α → String → α → Table α
  | [], key, value => [(key, value)]
  | (k, v) :: rest, key, value =>
    if k = key then (k, value) :: rest else (k, v) :: insert rest key value

def erase (table : Table α) (key : String) : Table α := table.filter (·.1 ≠ key)

def keys (table : Table α) : List String := table.map (·.1)

def mapValues (f : α → β) (table : Table α) : Table β := table.map fun (key, value) => (key, f value)

def merge (table other : Table α) : Table α := other.foldl (fun t (key, value) => insert t key value) table

def update (table : Table α) (key : String) (f : α → α) : Table α :=
  table.map fun (k, v) => (k, if k = key then f v else v)

end Table

inductive Value where
  | null
  | bool (truth : Bool)
  | int (number : Int)
  | float (number : Double)
  | str (text : String)
  | arr (items : List Value)
  | obj (fields : List (String × Value))
  deriving Inhabited

abbrev Fields := Table Value

namespace Value

instance : Coe String Value := ⟨.str⟩

/-- A setting that is null, false, zero or empty counts as not given. -/
def given : Value → Bool
  | .null => false
  | .bool truth => truth
  | .int number => number ≠ 0
  | .float number => !number.isZero
  | .str text => text ≠ ""
  | .arr items => !items.isEmpty
  | .obj fields => !fields.isEmpty

def orElse (value other : Value) : Value := if value.given then value else other

def text? : Value → Option String
  | .str text => some text
  | _ => none

def fields? : Value → Option Fields
  | .obj fields => some fields
  | _ => none

def items? : Value → Option (List Value)
  | .arr items => some items
  | _ => none

def field? (value : Value) (key : String) : Option Value := value.fields? >>= (·.find? key)

def ofText? (text : Option String) : Value := text.elim .null .str

def texts (items : List String) : Value := .arr (items.map .str)

/-- Lists and tables cannot serve as keys. -/
def isKey : Value → Bool
  | .arr _ => false
  | .obj _ => false
  | _ => true

end Value

end FunctionStack
