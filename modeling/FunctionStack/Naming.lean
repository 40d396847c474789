import FunctionStack.Text.Search

/-!
Logical ids of the resources of a service, made from the names of its functions and layers.
-/

namespace FunctionStack

def defaultExecutionRole : String := "IamRoleLambdaExecution"

def deploymentBucketId : String := "ServerlessDeploymentBucket"

namespace Naming

def isAsciiAlphanumeric (c : Char) : Bool := c.isDigit || c.isUpper || c.isLower

def capitalizeAscii : List Char → List Char
  | [] => []
  | c :: rest => c.toUpper :: rest

/-- Dashes and underscores are spelled out and all else but ASCII letters and digits is dropped. -/
def alphanumericChars (name : List Char) : List Char :=
  let spelled := Text.replaceChar '_' "Underscore".toList (Text.replaceChar '-' "Dash".toList name)
  capitalizeAscii (spelled.filter isAsciiAlphanumeric)

def normalized (name : String) : String := .ofList (alphanumericChars name.toList)

def function (name : String) : String := normalized name ++ "LambdaFunction"

def logGroup (name : String) : String := normalized name ++ "LogGroup"

def version (name digest : String) : String :=
  function name ++ "Version" ++ .ofList (digest.toList.filter isAsciiAlphanumeric)

def versionOutput (name : String) : String := function name ++ "QualifiedArn"

def provisionedAlias (name : String) : String := normalized name ++ "ProvConcLambdaAlias"

def snapStartAlias (name : String) : String := normalized name ++ "SnapStartLambdaAlias"

def url (name : String) : String := function name ++ "Url"

def urlOutput (name : String) : String := function name ++ "Url"

def urlPermission (name : String) : String := normalized name ++ "LambdaPermissionFnUrl"

def eventConfig (name : String) : String := normalized name ++ "LambdaEventConfig"

def layer (name : String) : String := normalized name ++ "LambdaLayer"

end Naming

end FunctionStack
