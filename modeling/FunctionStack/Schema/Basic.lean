import FunctionStack.Value.Basic

/-!
Shapes of configuration values. A field of a model is found under its key or under its plain name.
-/

namespace FunctionStack

structure FieldName where
  key : String
  name : String
  required : Bool
  shown : Bool
  deriving DecidableEq, Repr

inductive Schema where
  | any
  | text
  | integer
  | boolean
  | path
  | list (item : Schema)
  | table (item : Schema)
  | optional (inner : Schema)
  | either (first second : Schema)
  | model (name : String) (fields : List (FieldName × Schema))

namespace Schema

/-- What an alternative is called where every alternative has failed. -/
def tag : Schema → String
  | .any => "any"
  | .text => "str"
  | .integer => "int"
  | .boolean => "bool"
  | .path => "path"
  | .list item => "list[" ++ item.tag ++ "]"
  | .table item => "dict[str," ++ item.tag ++ "]"
  | .optional inner => inner.tag
  | .either first second => first.tag ++ "|" ++ second.tag
  | .model name _ => name

/-- Whether a value is of the shape's own kind, so that it is taken without conversion. -/
def owns : Schema → Value → Bool
  | .any, _ => true
  | .text, .str _ => true
  | .integer, .int _ => true
  | .boolean, .bool _ => true
  | .path, .str _ => true
  | .list _, .arr _ => true
  | .table _, .obj _ => true
  | .model _ _, .obj _ => true
  | .optional _, .null => true
  | .optional inner, value => inner.owns value
  | .either first second, value => first.owns value || second.owns value
  | _, _ => false

end Schema

end FunctionStack
