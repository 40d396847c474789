/-!
What is wrong with a piece of configuration, and where.
-/

namespace FunctionStack

/-- One step from a value into its parts. -/
inductive LocationStep where
  | key (name : String)
  | index (position : Nat)
  deriving DecidableEq, Repr

inductive IssueKind where
  | notText
  | notInteger
  | integerUnreadable
  | integerFractional
  | integerTooLarge
  | notFinite
  | notBoolean
  | booleanUnreadable
  | notList
  | notTable
  | notModel
  | notPath
  | missing
  deriving DecidableEq, Repr

namespace IssueKind

def code : IssueKind → String
  | notText => "string_type"
  | notInteger => "int_type"
  | integerUnreadable => "int_parsing"
  | integerFractional => "int_from_float"
  | integerTooLarge => "int_parsing_size"
  | notFinite => "finite_number"
  | notBoolean => "bool_type"
  | booleanUnreadable => "bool_parsing"
  | notList => "list_type"
  | notTable => "dict_type"
  | notModel => "model_type"
  | notPath => "path_type"
  | missing => "missing"

end IssueKind

structure Issue where
  location : List LocationStep
  kind : IssueKind
  deriving DecidableEq, Repr

namespace Issue

def inside (step : LocationStep) (issue : Issue) : Issue := { issue with location := step :: issue.location }

end Issue

end FunctionStack
