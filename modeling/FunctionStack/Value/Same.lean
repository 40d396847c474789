import FunctionStack.Value.Basic

/-!
Structural equality of values: numbers by their mathematical value whatever their kind, with `true` as one
and `false` as zero; tables without regard to the order of their keys.
-/

namespace FunctionStack.Value

mutual

def same : Value → Value → Bool
  | .null, .null => true
  | .bool a, .bool b => a = b
  | .bool a, .int b => (if a then 1 else 0) = b
  | .bool a, .float b => b.equalsInt (if a then 1 else 0)
  | .int a, .bool b => a = (if b then 1 else 0)
  | .int a, .int b => a = b
  | .int a, .float b => b.equalsInt a
  | .float a, .bool b => a.equalsInt (if b then 1 else 0)
  | .float a, .int b => a.equalsInt b
  | .float a, .float b => a.equals b
  | .str a, .str b => a = b
  | .arr a, .arr b => sameItems a b
  | .obj a, .obj b => a.length = b.length && sameFields a b
  | _, _ => false

def sameItems : List Value → List Value → Bool
  | [], [] => true
  | a :: as, b :: bs => same a b && sameItems as bs
  | _, _ => false

/-- Each field of the first table is in the second with the same value. -/
def sameFields : List (String × Value) → List (String × Value) → Bool
  | [], _ => true
  | (key, value) :: rest, other =>
    (match List.lookup key other with
      | some found => same value found
      | none => false) && sameFields rest other

end

/-- Membership up to structural equality. -/
def isIn (value : Value) (items : List Value) : Bool := items.any (same value)

end FunctionStack.Value
