/-!
Searching and cutting text by fixed pieces.
-/

namespace FunctionStack.Text

def beginsWith (text head : String) : Bool := head.toList.isPrefixOf text.toList

def occursIn (piece : List Char) : List Char → Bool
  | [] => piece.isEmpty
  | c :: rest => piece.isPrefixOf (c :: rest) || occursIn piece rest

def contains (text piece : String) : Bool := occursIn piece.toList text.toList

/-- Splits at the first occurrence of the piece, which belongs to neither side. -/
def cutAt (piece : List Char) : List Char → Option (List Char × List Char)
  | [] => if piece.isEmpty then some ([], []) else none
  | c :: rest =>
    if piece.isPrefixOf (c :: rest) then some ([], (c :: rest).drop piece.length)
    else (cutAt piece rest).map fun (before, after) => (c :: before, after)

def cut (text piece : String) : Option (String × String) :=
  (cutAt piece.toList text.toList).map fun (before, after) => (.ofList before, .ofList after)

/-- The pieces between separators; a text without one is a single piece. -/
def pieces (separator : Char) : List Char → List (List Char)
  | [] => [[]]
  | c :: rest =>
    if c = separator then [] :: pieces separator rest
    else match pieces separator rest with
      | [] => [[c]]
      | piece :: others => (c :: piece) :: others

/-- The text after the last separator. -/
def afterLast (separator : Char) (text : String) : String :=
  .ofList (text.toList.reverse.takeWhile (· ≠ separator)).reverse

/-- Every occurrence of a character replaced by a text. -/
def replaceChar (old : Char) (new : List Char) (text : List Char) : List Char :=
  text.flatMap fun c => if c = old then new else [c]

def given (text : Option String) : Option String := text.filter (· ≠ "")

end FunctionStack.Text
