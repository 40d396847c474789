import FunctionStack.Failure
import FunctionStack.Text.Search

/-!
Where remote artifacts lie: a bucket, and a key in it.
-/

namespace FunctionStack

structure RemoteLocation where
  bucket : String
  key : String
  deriving DecidableEq, Repr

namespace RemoteLocation

def scheme : String := "s3://"

def isRemote (artifact : Option String) : Bool := artifact.any fun uri => Text.beginsWith uri scheme

/-- The text after the place of the scheme, cut at its first slash. -/
def split (uri : String) : RemoteLocation :=
  let rest := uri.toList.drop scheme.length
  match Text.cutAt ['/'] rest with
  | some (bucket, key) => ⟨.ofList bucket, .ofList key⟩
  | none => ⟨.ofList rest, ""⟩

/-- Both parts must be there. -/
def ofUri (uri : String) : Result RemoteLocation :=
  let location := split uri
  if location.bucket = "" || location.key = "" then reject (.artifactLocationInvalid uri) else .ok location

end RemoteLocation

end FunctionStack
