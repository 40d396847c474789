import FunctionStack.Text.Halves
import FunctionStack.Value.Basic

/-!
Reading JSON texts. A number with a fraction or an exponent is a floating-point number, any other an integer
of up to 4300 digits. Of two fields with one key the later value stands at the earlier place.
-/

namespace FunctionStack

/-- Why a text could not be read: it is no JSON, or a number in it is too long. -/
inductive JsonFlaw where
  | malformed
  | numberTooLong
  deriving DecidableEq, Repr

namespace JsonReader

def maximumDigits : Nat := 4300

def orMalformed {α : Type} : Option α → Except JsonFlaw α
  | some a => .ok a
  | none => .error .malformed

def isBlank (c : Char) : Bool := c = ' ' || c = '\n' || c = '\r' || c = '\t'

def skipBlanks (input : List Char) : List Char := input.dropWhile isBlank

def digitOf (c : Char) : Nat := c.toNat - '0'.toNat

def decimal (digits : List Char) : Nat := digits.foldl (fun n c => 10 * n + digitOf c) 0

def hexOf? (c : Char) : Option Nat :=
  if c.isDigit then some (digitOf c)
  else if 'a' ≤ c && c ≤ 'f' then some (c.toNat - 87)
  else if 'A' ≤ c && c ≤ 'F' then some (c.toNat - 55)
  else none

def unit? (a b c d : Char) : Option Nat := do
  some ((((← hexOf? a) * 16 + (← hexOf? b)) * 16 + (← hexOf? c)) * 16 + (← hexOf? d))

/-- The character of a pair of halves. -/
def joined? (high low : Nat) : Option Char :=
  if Text.isHighHalf high && Text.isLowHalf low then
    some (Char.ofNat (0x10000 + (high - 0xD800) * 0x400 + (low - 0xDC00)))
  else none

/-- The character that a text spells by its two halves, at the text's start. -/
def spelledPair? : List Char → Option Char
  | '\\' :: 'u' :: a :: b :: c :: d :: '\\' :: 'u' :: e :: f :: g :: h :: _ => do
    joined? (← unit? a b c d) (← unit? e f g h)
  | _ => none

/-- The characters that a text spells by their halves anywhere in it. -/
def spelledPairs : List Char → List Char
  | [] => []
  | c :: rest =>
    match spelledPair? (c :: rest) with
    | some char => char :: spelledPairs rest
    | none => spelledPairs rest

/-- The character of one code, or the one that stands for half a pair. -/
def single (halves : Text.StandIns) (code : Nat) : Char :=
  if Text.isHighHalf code || Text.isLowHalf code then halves.standIn code else Char.ofNat code

def shortEscape? : Char → Option Char
  | '"' => some '"'
  | '\\' => some '\\'
  | '/' => some '/'
  | 'b' => some (Char.ofNat 8)
  | 'f' => some (Char.ofNat 12)
  | 'n' => some '\n'
  | 'r' => some '\r'
  | 't' => some '\t'
  | _ => none

/-- Reads up to the closing quote. -/
def readText (halves : Text.StandIns) : List Char → Option (List Char × List Char)
  | [] => none
  | '"' :: rest => some ([], rest)
  | '\\' :: 'u' :: a :: b :: c :: d :: '\\' :: 'u' :: e :: f :: g :: h :: rest => do
    let high ← unit? a b c d
    match (unit? e f g h).bind (joined? high) with
    | some char =>
      let (text, after) ← readText halves rest
      some (char :: text, after)
    | none =>
      let (text, after) ← readText halves ('\\' :: 'u' :: e :: f :: g :: h :: rest)
      some (single halves high :: text, after)
  | '\\' :: 'u' :: a :: b :: c :: d :: rest => do
    let code ← unit? a b c d
    let (text, after) ← readText halves rest
    some (single halves code :: text, after)
  | '\\' :: c :: rest => do
    let char ← shortEscape? c
    let (text, after) ← readText halves rest
    some (char :: text, after)
  | c :: rest => do
    if c.toNat < 0x20 then none
    else
      let (text, after) ← readText halves rest
      some (c :: text, after)

def readFraction (input : List Char) : List Char × List Char :=
  match input with
  | '.' :: rest =>
    if (rest.takeWhile Char.isDigit).isEmpty then ([], input)
    else (rest.takeWhile Char.isDigit, rest.dropWhile Char.isDigit)
  | _ => ([], input)

def readSign : List Char → Bool × List Char
  | '-' :: rest => (true, rest)
  | '+' :: rest => (false, rest)
  | rest => (false, rest)

def readExponent (input : List Char) : Option Int × List Char :=
  match input with
  | c :: rest =>
    if c = 'e' || c = 'E' then
      let (negative, digits) := readSign rest
      if (digits.takeWhile Char.isDigit).isEmpty then (none, input)
      else
        let size : Int := decimal (digits.takeWhile Char.isDigit)
        (some (if negative then -size else size), digits.dropWhile Char.isDigit)
    else (none, input)
  | [] => (none, [])

def readMagnitude (negative : Bool) (input : List Char) : Except JsonFlaw (Value × List Char) :=
  let run := input.takeWhile Char.isDigit
  if run.isEmpty then .error .malformed
  else
    let whole := if run.head? = some '0' then ['0'] else run
    let (fraction, rest) := readFraction (input.drop whole.length)
    let (exponent, rest) := readExponent rest
    if fraction.isEmpty && exponent.isNone then
      if maximumDigits < whole.length then .error .numberTooLong
      else
        let size : Int := decimal whole
        .ok (.int (if negative then -size else size), rest)
    else
      let digits := (whole ++ fraction).dropWhile (· = '0')
      .ok (.float (Double.ofDigits negative (decimal digits) digits.length
        (exponent.getD 0 - fraction.length)), rest)

/-- What follows a literal word, if the input begins with it. -/
def afterWord? (word : String) (input : List Char) : Option (List Char) :=
  if word.toList.isPrefixOf input then some (input.drop word.length) else none

def words : List (String × Value) :=
  [("null", .null), ("true", .bool true), ("false", .bool false), ("NaN", .float .nan),
   ("Infinity", .float (.infinite false)), ("-Infinity", .float (.infinite true))]

def readScalar (input : List Char) : Except JsonFlaw (Value × List Char) :=
  match words.findSome? fun (word, value) => (afterWord? word input).map (value, ·) with
  | some found => .ok found
  | none => match input with
    | '-' :: rest => readMagnitude true rest
    | _ => readMagnitude false input

mutual

/-- Reads one value at the start of the input; the fuel bounds the nesting and the number of parts. -/
def readValue (halves : Text.StandIns) : Nat → List Char → Except JsonFlaw (Value × List Char)
  | 0, _ => .error .malformed
  | fuel + 1, input =>
    match skipBlanks input with
    | '"' :: rest => (orMalformed (readText halves rest)).map fun (text, after) => (.str (.ofList text), after)
    | '[' :: rest =>
      match skipBlanks rest with
      | ']' :: after => .ok (.arr [], after)
      | _ => (readItems halves fuel rest).map fun (items, after) => (.arr items, after)
    | c :: rest =>
      if c = Char.ofNat 123 then
        match skipBlanks rest with
        | d :: after =>
          if d = Char.ofNat 125 then .ok (.obj [], after)
          else (readFields halves fuel rest []).map fun (fields, after) => (.obj fields, after)
        | [] => .error .malformed
      else readScalar (c :: rest)
    | [] => .error .malformed

def readItems (halves : Text.StandIns) : Nat → List Char → Except JsonFlaw (List Value × List Char)
  | 0, _ => .error .malformed
  | fuel + 1, input => do
    let (item, rest) ← readValue halves fuel input
    match skipBlanks rest with
    | ',' :: rest =>
      let (items, after) ← readItems halves fuel rest
      .ok (item :: items, after)
    | ']' :: after => .ok ([item], after)
    | _ => .error .malformed

def readFields (halves : Text.StandIns) : Nat → List Char → Fields → Except JsonFlaw (Fields × List Char)
  | 0, _, _ => .error .malformed
  | fuel + 1, input, fields =>
    match skipBlanks input with
    | '"' :: rest => do
      let (key, rest) ← orMalformed (readText halves rest)
      match skipBlanks rest with
      | ':' :: rest =>
        let (value, rest) ← readValue halves fuel rest
        let fields := Table.insert fields (.ofList key) value
        match skipBlanks rest with
        | ',' :: rest => readFields halves fuel rest fields
        | c :: after => if c = Char.ofNat 125 then .ok (fields, after) else .error .malformed
        | [] => .error .malformed
      | _ => .error .malformed
    | _ => .error .malformed

end

end JsonReader

namespace Value

def ofJson (halves : Text.StandIns) (text : String) : Except JsonFlaw Value := do
  let input := text.toList
  let (value, rest) ← JsonReader.readValue halves (input.length + 1) input
  if (JsonReader.skipBlanks rest).isEmpty then .ok value else .error .malformed

def ofJson? (text : String) : Option Value := (ofJson .empty text).toOption

end Value

end FunctionStack
