import FunctionStack.Text.Search

/-!
File paths in normal form: repeated slashes, `.` components and a slash at the end carry no meaning and are
dropped, `..` is kept.
-/

namespace FunctionStack

/-- An absolute path begins with one slash, or with exactly two. -/
structure Path where
  slashes : Nat
  parts : List String
  deriving DecidableEq, Repr

namespace Path

def isPart (piece : List Char) : Bool := piece ≠ [] && piece ≠ ['.']

def partsOf (text : List Char) : List String :=
  ((Text.pieces '/' text).filter isPart).map String.ofList

def slashesOf (text : List Char) : Nat :=
  match (text.takeWhile (· = '/')).length with
  | 0 => 0
  | 2 => 2
  | _ => 1

def ofText (text : String) : Path := ⟨slashesOf text.toList, partsOf text.toList⟩

def current : Path := ⟨0, []⟩

def isAbsolute (path : Path) : Bool := 0 < path.slashes

def toText (path : Path) : String :=
  if path.slashes = 0 && path.parts.isEmpty then "."
  else .ofList (List.replicate path.slashes '/') ++ "/".intercalate path.parts

/-- An absolute right side replaces the left one. -/
def join (path other : Path) : Path :=
  if other.isAbsolute then other else ⟨path.slashes, path.parts ++ other.parts⟩

def child (path : Path) (text : String) : Path := path.join (ofText text)

def parent (path : Path) : Path := { path with parts := path.parts.dropLast }

end Path

end FunctionStack
