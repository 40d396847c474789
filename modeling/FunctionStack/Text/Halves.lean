import Std.Data.HashSet

/-!
Halves of characters beyond the basic plane. A text can spell one half by itself, for which there is no character;
such a half is held as a character beyond the basic plane that the texts at hand do not use.
-/

namespace FunctionStack.Text

def isHighHalf (code : Nat) : Bool := 0xD800 ≤ code && code < 0xDC00

def isLowHalf (code : Nat) : Bool := 0xDC00 ≤ code && code < 0xE000

/-- Whether a character lies beyond the basic plane. -/
def isFar (c : Char) : Bool := 0x10000 ≤ c.toNat

/-- The characters beyond the basic plane, counted from those for private use on. -/
def farChar (n : Nat) : Char := Char.ofNat (0x10000 + (0xE0000 + n) % 0x100000)

/-- A number of far characters that a text does not use. Each one that it does use rules out one candidate. -/
def unusedChars (count : Nat) (text : List Char) : List Char :=
  let used := Std.HashSet.ofList ((text.filter isFar).map Char.toNat)
  let candidates := (List.range (count + used.size)).map farChar
  (candidates.filter fun c => !used.contains c.toNat).take count

/-- The characters that stand for the halves, one for each in the order of their codes. -/
structure StandIns where
  characters : List Char
  deriving DecidableEq, Repr

namespace StandIns

def empty : StandIns := ⟨[]⟩

/-- Stand-ins that do not occur in a text. -/
def apartFrom (text : List Char) : StandIns := ⟨unusedChars 0x800 text⟩

/-- A half that nothing stands for is unreadable. -/
def standIn (standIns : StandIns) (half : Nat) : Char :=
  standIns.characters.getD (half - 0xD800) (Char.ofNat 0xFFFD)

/-- The half that a character stands for. -/
def half? (standIns : StandIns) (c : Char) : Option Nat :=
  if isFar c then (standIns.characters.idxOf? c).map (0xD800 + ·) else none

/-- The half that a character stands for in front of others; two halves that would join are not taken apart. -/
def loneHalf? (standIns : StandIns) (c : Char) (rest : List Char) : Option Nat :=
  (standIns.half? c).filter fun half => !(isHighHalf half && (rest.head?.bind standIns.half?).any isLowHalf)

end StandIns

end FunctionStack.Text
