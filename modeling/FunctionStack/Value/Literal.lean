import FunctionStack.Number.Shortest
import FunctionStack.Text.Quoted
import FunctionStack.Value.Basic

/-!
Values as they are shown in messages: texts quoted inside a structure and plain by themselves.
-/

namespace FunctionStack.Value

def floatLiteral : Double → List Char
  | .finite negative significand scale =>
    let size := Double.magnitudeText significand scale
    if negative then '-' :: size else size
  | .infinite negative => (if negative then ['-'] else []) ++ "inf".toList
  | .nan => "nan".toList

mutual

def literalChars : Value → List Char
  | .null => "None".toList
  | .bool truth => if truth then "True".toList else "False".toList
  | .int number => (toString number).toList
  | .float number => floatLiteral number
  | .str text => (Text.quoted text).toList
  | .arr [] => ['[', ']']
  | .arr (item :: items) => '[' :: literalChars item ++ literalItems items ++ [']']
  | .obj [] => [Char.ofNat 123, Char.ofNat 125]
  | .obj ((key, value) :: fields) =>
    Char.ofNat 123 :: (Text.quoted key).toList ++ ':' :: ' ' :: literalChars value ++
      literalFields fields ++ [Char.ofNat 125]

def literalItems : List Value → List Char
  | [] => []
  | item :: items => ',' :: ' ' :: literalChars item ++ literalItems items

def literalFields : List (String × Value) → List Char
  | [] => []
  | (key, value) :: fields =>
    ',' :: ' ' :: (Text.quoted key).toList ++ ':' :: ' ' :: literalChars value ++ literalFields fields

end

def literal (value : Value) : String := .ofList (literalChars value)

def display : Value → String
  | .str text => text
  | value => value.literal

end FunctionStack.Value
