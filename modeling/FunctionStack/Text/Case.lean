import FunctionStack.Text.CaseTable

/-!
Capital and small forms of texts, and the collation that ignores case until two texts are otherwise equal,
where a small letter then goes first.
-/

namespace FunctionStack.Text

def isTitleLetter (c : Char) : Bool := titleLetters.any (CodeRange.has c.toNat)

def hasCase (c : Char) : Bool := casedRanges.any (CodeRange.has c.toNat)

def isSkipped (c : Char) : Bool := skippedRanges.any (CodeRange.has c.toNat)

def capital (c : Char) : List Char :=
  match longCapitals.lookup c.toNat with
  | some codes => codes.map Char.ofNat
  | none => [((capitalRuns.findSome? (CaseRun.partner? c.toNat)).map Char.ofNat).getD c]

/-- The small form of a letter by itself; only the dotted capital I has one of two characters. -/
def small (c : Char) : List Char :=
  if c.toNat = 304 then ['i', Char.ofNat 775]
  else [((smallRuns.findSome? (CaseRun.partner? c.toNat)).map Char.ofNat).getD c]

/-- Whether the nearest character that is not passed over is a letter with case. -/
def meetsLetter (neighbours : List Char) : Bool :=
  match neighbours.dropWhile isSkipped with
  | [] => false
  | c :: _ => hasCase c

/-- A capital sigma between the text before it, nearest first, and the text after it. -/
def smallSigma (before after : List Char) : Char :=
  Char.ofNat (if meetsLetter before && !meetsLetter after then 962 else 963)

def smallAfter (before : List Char) : List Char → List Char
  | [] => []
  | c :: rest =>
    (if c.toNat = 931 then [smallSigma before rest] else small c) ++ smallAfter (c :: before) rest

def toSmall (text : String) : String := .ofList (smallAfter [] text.toList)

def swapAfter (before : List Char) : List Char → List Char
  | [] => []
  | c :: rest =>
    (if isTitleLetter c then [c]
     else if c.toNat = 931 then [smallSigma before rest]
     else if small c ≠ [c] then small c
     else capital c) ++ swapAfter (c :: before) rest

def swapCase (text : String) : String := .ofList (swapAfter [] text.toList)

def capitalizeFirst (text : String) : String :=
  match text.toList with
  | [] => ""
  | c :: rest => .ofList (capital c ++ rest)

/-- What collation looks at in a text: its small form, and the text itself with small and capital exchanged. -/
structure CollationKey where
  small : String
  exchanged : String
  deriving DecidableEq, Repr

def collationKey (text : String) : CollationKey := ⟨toSmall text, swapCase text⟩

/-- Case-insensitive order, a small letter before its capital where that is the only difference. -/
def CollationKey.precedes (a b : CollationKey) : Bool :=
  if a.small = b.small then decide (a.exchanged ≤ b.exchanged) else decide (a.small ≤ b.small)

end FunctionStack.Text
