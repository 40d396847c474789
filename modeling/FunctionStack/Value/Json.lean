import FunctionStack.Number.Shortest
import FunctionStack.Text.Halves
import FunctionStack.Text.Quoted
import FunctionStack.Value.Basic

/-!
JSON texts of values in the three spellings that occur: compact with all characters raw, spaced with ASCII
characters only, and indented.
-/

namespace FunctionStack

/-- How a JSON text is spelled, and which characters are written as the halves that they stand for. -/
structure JsonStyle where
  comma : List Char
  colon : List Char
  asciiOnly : Bool
  indent : Option Nat
  halves : Option Text.StandIns

namespace JsonStyle

def compact : JsonStyle := ⟨[','], [':'], false, none, none⟩

def spaced : JsonStyle := ⟨[',', ' '], [':', ' '], true, none, none⟩

def indented (halves : Option Text.StandIns) : JsonStyle := ⟨[','], [':', ' '], true, some 2, halves⟩

def lineBreak (style : JsonStyle) (depth : Nat) : List Char :=
  match style.indent with
  | none => []
  | some width => '\n' :: List.replicate (width * depth) ' '

def escapedUnit (code : Nat) : List Char := '\\' :: 'u' :: Text.hexDigits 4 code

/-- A code beyond the basic plane is written as its two halves. -/
def escapedCode (code : Nat) : List Char :=
  if code < 0x10000 then escapedUnit code
  else escapedUnit (0xD800 + (code - 0x10000) / 0x400) ++ escapedUnit (0xDC00 + (code - 0x10000) % 0x400)

def escapedChar (asciiOnly : Bool) (c : Char) : List Char :=
  if c = '"' || c = '\\' then ['\\', c]
  else if c = '\n' then ['\\', 'n']
  else if c = '\r' then ['\\', 'r']
  else if c = '\t' then ['\\', 't']
  else if c = Char.ofNat 8 then ['\\', 'b']
  else if c = Char.ofNat 12 then ['\\', 'f']
  else if c.toNat < 0x20 || (asciiOnly && 0x7e < c.toNat) then escapedCode c.toNat
  else [c]

def writeChars (style : JsonStyle) : List Char → List Char
  | [] => []
  | c :: rest =>
    match style.halves.bind fun standIns => standIns.loneHalf? c rest with
    | some half => escapedUnit half ++ style.writeChars rest
    | none => escapedChar style.asciiOnly c ++ style.writeChars rest

def writeText (style : JsonStyle) (text : String) : List Char :=
  '"' :: style.writeChars text.toList ++ ['"']

def writeFloat : Double → List Char
  | .finite negative significand scale =>
    let size := Double.magnitudeText significand scale
    if negative then '-' :: size else size
  | .infinite negative => (if negative then ['-'] else []) ++ "Infinity".toList
  | .nan => "NaN".toList

mutual

def write (style : JsonStyle) (depth : Nat) : Value → List Char
  | .null => "null".toList
  | .bool truth => if truth then "true".toList else "false".toList
  | .int number => (toString number).toList
  | .float number => writeFloat number
  | .str text => style.writeText text
  | .arr [] => ['[', ']']
  | .arr (item :: items) =>
    '[' :: style.lineBreak (depth + 1) ++ style.write (depth + 1) item ++
      style.writeItems (depth + 1) items ++ style.lineBreak depth ++ [']']
  | .obj [] => [Char.ofNat 123, Char.ofNat 125]
  | .obj ((key, value) :: fields) =>
    Char.ofNat 123 :: style.lineBreak (depth + 1) ++ style.writeText key ++ style.colon ++
      style.write (depth + 1) value ++ style.writeFields (depth + 1) fields ++
      style.lineBreak depth ++ [Char.ofNat 125]

def writeItems (style : JsonStyle) (depth : Nat) : List Value → List Char
  | [] => []
  | item :: items =>
    style.comma ++ style.lineBreak depth ++ style.write depth item ++ style.writeItems depth items

def writeFields (style : JsonStyle) (depth : Nat) : List (String × Value) → List Char
  | [] => []
  | (key, value) :: fields =>
    style.comma ++ style.lineBreak depth ++ style.writeText key ++ style.colon ++
      style.write depth value ++ style.writeFields depth fields

end

end JsonStyle

namespace Value

def toJson (style : JsonStyle) (value : Value) : String := .ofList (style.write 0 value)

def insertByKey (key : String) (value : Value) : List (String × Value) → List (String × Value)
  | [] => [(key, value)]
  | (k, v) :: rest => if key ≤ k then (key, value) :: (k, v) :: rest else (k, v) :: insertByKey key value rest

mutual

/-- Every table ordered by key, by code point; lists keep their order. -/
def sortKeys : Value → Value
  | .arr items => .arr (sortItems items)
  | .obj fields => .obj (sortFields fields)
  | value => value

def sortItems : List Value → List Value
  | [] => []
  | item :: items => sortKeys item :: sortItems items

def sortFields : List (String × Value) → List (String × Value)
  | [] => []
  | (key, value) :: fields => insertByKey key (sortKeys value) (sortFields fields)

end

end Value

end FunctionStack
