/-!
Lists of texts as sets: first occurrences, and the order by code point.
-/

namespace FunctionStack.Text

/-- The first occurrences, in order. -/
def distinct : List String → List String
  | [] => []
  | text :: rest => text :: (distinct rest).filter (· ≠ text)

def sorted (texts : List String) : List String := texts.mergeSort fun a b => decide (a ≤ b)

end FunctionStack.Text
