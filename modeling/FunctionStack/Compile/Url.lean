import FunctionStack.Compile.Alias
import FunctionStack.Config.Function
import FunctionStack.Text.Listing

/-!
Function URLs. Cross-origin settings are laid over a default policy; a URL that is not guarded by IAM comes
with a permission for everybody to call it.
-/

namespace FunctionStack

/-- Cross-origin settings in full: a list that is missing is not written at all. -/
structure CorsPolicy where
  origins : Option (List String)
  headers : Option (List String)
  methods : Option (List String)
  credentials : Bool
  exposedHeaders : Option (List String)
  maxAge : Option Int

namespace CorsPolicy

def defaultHeaders : List String :=
  ["Content-Type", "X-Amz-Date", "Authorization", "X-Api-Key", "X-Amz-Security-Token", "X-Amzn-Trace-Id"]

/-- A list replaces the default; an empty one or an explicit null removes it. -/
def overlay (default : List String) : Setting (List String) → Option (List String)
  | .absent => some default
  | .cleared => none
  | .given items => if items.isEmpty then none else some (Text.distinct items)

def default : CorsPolicy := ⟨some ["*"], some defaultHeaders, some ["*"], false, none, none⟩

def ofConfig (cors : CorsConfig) : CorsPolicy where
  origins := overlay ["*"] cors.origins
  headers := overlay defaultHeaders cors.headers
  methods := overlay ["*"] cors.methods
  credentials := cors.credentials.getD false
  exposedHeaders := (Settings.nonEmpty cors.exposedHeaders).map Text.distinct
  maxAge := cors.maxAge

def ofSetting? : CorsSetting → Option CorsPolicy
  | .enabled on => if on then some default else none
  | .config cors => some (ofConfig cors)

def listField (key : String) (items : Option (List String)) : Fields :=
  items.elim [] fun texts => [(key, Value.texts texts)]

def properties (policy : CorsPolicy) : Fields :=
  (if policy.credentials then [("AllowCredentials", .bool true)] else []) ++
    listField "AllowHeaders" policy.headers ++ listField "AllowMethods" policy.methods ++
    listField "AllowOrigins" policy.origins ++ listField "ExposeHeaders" policy.exposedHeaders ++
    policy.maxAge.elim [] fun seconds => [("MaxAge", .int seconds)]

end CorsPolicy

namespace Url

def plain : UrlConfig := ⟨none, none, none⟩

/-- The settings of a function's URL, if it has one. -/
def ofSetting? : UrlSetting → Option UrlConfig
  | .enabled on => if on then some plain else none
  | .config url => some url

def authorization (url : UrlConfig) : String :=
  if url.authorizer = some "aws_iam" then "AWS_IAM" else "NONE"

def isPublic (url : UrlConfig) : Bool := authorization url = "NONE"

def properties (function : String) (url : UrlConfig) (via : Option TargetAlias) : Fields :=
  [("AuthType", .str (authorization url)), ("TargetFunctionArn", TargetAlias.target function via)] ++
    ((url.cors >>= CorsPolicy.ofSetting?).elim [] fun cors => [("Cors", .obj cors.properties)]) ++
    if url.invokeMode = some "RESPONSE_STREAM" then [("InvokeMode", .str "RESPONSE_STREAM")] else []

def resource (function : String) (url : UrlConfig) (via : Option TargetAlias) : Resource :=
  TargetAlias.attach (.make "AWS::Lambda::Url" (properties function url via) (some function)) via

/-- Lets everybody call the URL. -/
def permission (function : String) (via : Option TargetAlias) : Resource :=
  TargetAlias.attach (.make "AWS::Lambda::Permission" [
    ("FunctionName", TargetAlias.target function via),
    ("Action", .str "lambda:InvokeFunctionUrl"),
    ("Principal", .str "*"),
    ("FunctionUrlAuthType", .str "NONE")] (some function)) via

end Url

end FunctionStack
