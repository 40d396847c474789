import FunctionStack.Schema.Issue
import FunctionStack.Text.Search
import FunctionStack.Value.Basic

/-!
Conversions of scalars: which texts and numbers are taken for integers and for booleans.
-/

namespace FunctionStack.Schema

def blankCodes : List Nat := [0x20, 0x85, 0xA0, 0x1680, 0x2028, 0x2029, 0x202F, 0x205F, 0x3000]

def isBlank (c : Char) : Bool :=
  (9 ≤ c.toNat && c.toNat ≤ 13) || (0x2000 ≤ c.toNat && c.toNat ≤ 0x200A) || blankCodes.contains c.toNat

def trimmed (text : List Char) : List Char :=
  ((text.dropWhile isBlank).reverse.dropWhile isBlank).reverse

def decimalValue (digits : List Char) : Nat := digits.foldl (fun n c => 10 * n + (c.toNat - 48)) 0

/-- What comes of reading a text as an integer. -/
inductive IntegerReading where
  | integer (number : Int)
  | tooLong
  | unreadable
  deriving DecidableEq, Repr

/-- The most digits that an integer may have. -/
def maximumWidth : Nat := 4300

def readUnsigned (text : List Char) : IntegerReading :=
  let digits := text.takeWhile Char.isDigit
  if maximumWidth < digits.length && digits.head? ≠ some '0' then .tooLong
  else if digits.isEmpty || digits.length < text.length then .unreadable
  else if digits.head? = some '0' && 1 < digits.length then .unreadable
  else .integer (decimalValue digits)

/-- Reads digits behind a minus sign or none; only a zero by itself begins with zero. What follows too many
digits is not looked at. -/
def readDigits : List Char → IntegerReading
  | '-' :: rest => match readUnsigned rest with
    | .integer number => .integer (-number)
    | other => other
  | magnitude => readUnsigned magnitude

/-- Drops zeros at the start, and underscores among them. What remains begins with a digit or a minus sign,
or is the last character. -/
def afterZeros? (last : Char) : List Char → Option (List Char)
  | [] => some [last]
  | c :: rest =>
    if c = '0' || c = '_' then afterZeros? c rest
    else if c.isDigit || c = '-' then some (c :: rest)
    else if c = '.' then some (last :: c :: rest)
    else none

def withoutZeros? : List Char → Option (List Char)
  | '0' :: rest => afterZeros? '0' rest
  | c :: rest => if c.isDigit || c = '-' then some (c :: rest) else none
  | [] => none

/-- The part before a point that zeros follow, and nothing else. -/
def withoutZeroFraction (text : List Char) : List Char :=
  match Text.cutAt ['.'] text with
  | some (whole, fraction) => if fraction ≠ [] && fraction.all (· = '0') then whole else text
  | none => text

/-- Groups joined by single underscores, put together; any other text stays as it is. -/
def withoutUnderscores (text : List Char) : List Char :=
  let groups := Text.pieces '_' text
  if groups.all (· ≠ []) then groups.flatten else text

def plainDigits? (text : List Char) : Option (List Char) :=
  (withoutZeros? text).map fun digits => withoutUnderscores (withoutZeroFraction digits)

/-- The digits that a looser spelling stands for. -/
def plainInteger? (text : List Char) : Option (List Char) :=
  match trimmed text with
  | '+' :: '-' :: _ => none
  | '+' :: rest => plainDigits? rest
  | '-' :: rest => (plainDigits? rest).map ('-' :: ·)
  | rest => plainDigits? rest

/-- Only a text that is plain from the start is told that it is too long. -/
def readInteger (text : String) : IntegerReading :=
  match readDigits text.toList with
  | .unreadable => match (plainInteger? text.toList).map readDigits with
    | some (.integer number) => .integer number
    | _ => .unreadable
  | other => other

/-- Floating-point numbers count as integers strictly between these two powers of two. -/
def integerBound : Int := 9223372036854775808

def boundedInteger? (number : Double) : Option Int :=
  number.toInt?.filter fun whole => -integerBound < whole && whole < integerBound

def falseWords : List String := ["0", "off", "f", "false", "n", "no"]

def trueWords : List String := ["1", "on", "t", "true", "y", "yes"]

def booleanOfText? (text : String) : Option Bool :=
  let word := String.ofList (text.toList.map Char.toLower)
  if falseWords.contains word then some false
  else if trueWords.contains word then some true
  else none

def toInteger : Value → Except IssueKind Int
  | .int number => .ok number
  | .bool truth => .ok (if truth then 1 else 0)
  | .float number =>
    if !number.isFinite then .error .notFinite
    else if number.toInt?.isNone then .error .integerFractional
    else match boundedInteger? number with
      | some whole => .ok whole
      | none => .error .integerTooLarge
  | .str content => match readInteger content with
    | .integer number => .ok number
    | .tooLong => .error .integerTooLarge
    | .unreadable => .error .integerUnreadable
  | _ => .error .notInteger

/-- Only zero and one are truth values. -/
def booleanOfInteger (number : Int) : Except IssueKind Bool :=
  if number = 0 then .ok false else if number = 1 then .ok true else .error .booleanUnreadable

def toBoolean : Value → Except IssueKind Bool
  | .bool truth => .ok truth
  | .int number =>
    if -integerBound ≤ number && number < integerBound then booleanOfInteger number else .error .notBoolean
  | .float number => match boundedInteger? number with
    | some whole => booleanOfInteger whole
    | none => .error .notBoolean
  | .str content => match booleanOfText? content with
    | some truth => .ok truth
    | none => .error .booleanUnreadable
  | _ => .error .notBoolean

end FunctionStack.Schema
