import FunctionStack.Storage.Hashing
import FunctionStack.Value.Json
import FunctionStack.Value.Json.Reader

/-!
Files read as texts and as documents, and the texts of documents that are written.
-/

namespace FunctionStack

namespace FileContent

/-- The text of a file, where its bytes are one. -/
def text (content : FileContent) : Result String :=
  match String.fromUTF8? content.toBlob.data with
  | some text => .ok text
  | none => .error .undecodable

def isBlankText (text : String) : Bool := text.toList.all fun c => c = ' ' || c = '\n' || c = '\r'

/-- Words of letters and digits, which need no marks to be a text. -/
def isPlainText (text : String) : Bool :=
  text.toList.all fun c => c.isAlphanum || c = ' ' || c = '\n' || c = '\r'

/-- The value a document reads as; a blank one reads as null. -/
def toValue : FileContent → Result Value
  | .document (some value) => .ok value
  | .document none => .error .unparsable
  | .bytes blob => do
    let text ← (FileContent.bytes blob).text
    if isBlankText text then return .null
    else match Value.ofJson? text with
      | some value => return value
      | none => if isPlainText text then return .str text else .error .unparsable

end FileContent

namespace Value

def readJson (standIns : Text.StandIns) (text : String) : Result Value :=
  match ofJson standIns text with
  | .ok value => .ok value
  | .error .malformed => .error .invalidJson
  | .error .numberTooLong => fault .badValue

end Value

namespace Value

mutual

/-- Whether every integer in a value has as many digits at most as one that is written. -/
def isPrintable : Value → Bool
  | .int number => (Nat.toDigits 10 number.natAbs).length ≤ JsonReader.maximumDigits
  | .arr items => arePrintable items
  | .obj fields => printableFields fields
  | _ => true

def arePrintable : List Value → Bool
  | [] => true
  | item :: items => isPrintable item && arePrintable items

def printableFields : List (String × Value) → Bool
  | [] => true
  | (_, value) :: fields => isPrintable value && printableFields fields

end

/-- The JSON text of a value, if it has one. -/
def printed (style : JsonStyle) (value : Value) : Result String :=
  if value.isPrintable then .ok (value.toJson style) else fault .badValue

end Value

namespace Files

/-- The JSON text that a file holds. Of documents in another notation only empty ones are JSON too. -/
def jsonText (files : Files) (path : String) : Result String := do
  match ← files.read path with
  | .document (some (.obj [])) => return "\x7b\x7d"
  | .document (some (.arr [])) => return "[]"
  | .document _ => .error .invalidJson
  | content => content.text

end Files

end FunctionStack
