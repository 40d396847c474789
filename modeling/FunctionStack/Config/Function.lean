import FunctionStack.Config.Settings

/-!
The settings of one function.
-/

namespace FunctionStack

open Settings

structure PackageConfig where
  artifact : Option String
  individually : Bool
  artifactDirectoryName : Option String
  path : Option String

structure VpcConfig where
  subnetIds : Option (List Value)
  securityGroupIds : Option (List Value)
  ipv6 : Option Bool

/-- A network of its own, or a switch that keeps or leaves the provider's. -/
inductive VpcSetting where
  | attached (config : VpcConfig)
  | inherited (on : Bool)

structure FileSystemConfig where
  arn : Pointer
  localMountPath : String

structure ImageConfig where
  uri : Option String
  name : Option String
  command : Option (List String)
  entryPoint : Option (List String)
  workingDirectory : Option String

inductive ImageSetting where
  | uri (text : String)
  | config (image : ImageConfig)

structure RuntimeManagement where
  mode : String
  arn : Option String

structure CorsConfig where
  origins : Setting (List String)
  headers : Setting (List String)
  methods : Setting (List String)
  credentials : Option Bool
  exposedHeaders : Option (List String)
  maxAge : Option Int

inductive CorsSetting where
  | config (cors : CorsConfig)
  | enabled (on : Bool)

structure UrlConfig where
  authorizer : Option String
  cors : Option CorsSetting
  invokeMode : Option String

inductive UrlSetting where
  | config (url : UrlConfig)
  | enabled (on : Bool)

/-- Targets stay as declared until the function is compiled. -/
structure DestinationsConfig where
  onSuccess : Value
  onFailure : Value

structure FunctionConfig where
  handler : Option String
  image : Option ImageSetting
  name : Option String
  description : Option String
  runtime : Option String
  runtimeManagement : Option RuntimeManagement
  memorySize : Option Int
  timeout : Option Int
  architecture : Option String
  ephemeralStorageSize : Option Int
  environment : Fields
  tags : Fields
  vpc : Setting VpcSetting
  fileSystem : Option FileSystemConfig
  onError : Option Pointer
  kmsKeyArn : Option Pointer
  tracing : Option Tracing
  layers : Option (List Value)
  reservedConcurrency : Option Int
  provisionedConcurrency : Option Int
  versionFunction : Option Bool
  snapStart : Bool
  url : Option UrlSetting
  destinations : Option DestinationsConfig
  maximumEventAge : Option Int
  maximumRetryAttempts : Option Int
  role : Option Pointer
  condition : Option String
  dependsOn : List String
  disableLogs : Bool
  package : PackageConfig

namespace PackageConfig

def ofFields (fields : Fields) : PackageConfig where
  artifact := text? fields "artifact"
  individually := (boolean? fields "individually").getD false
  artifactDirectoryName := text? fields "artifactDirectoryName"
  path := text? fields "path"

end PackageConfig

namespace VpcConfig

def ofFields (fields : Fields) : VpcConfig where
  subnetIds := items? fields "subnetIds"
  securityGroupIds := items? fields "securityGroupIds"
  ipv6 := boolean? fields "ipv6AllowedForDualStack"

end VpcConfig

namespace VpcSetting

def ofValue? : Value → Option VpcSetting
  | .obj fields => some (.attached (VpcConfig.ofFields fields))
  | .bool on => some (.inherited on)
  | _ => none

end VpcSetting

namespace FileSystemConfig

def ofFields (fields : Fields) : FileSystemConfig where
  arn := (pointer? fields "arn").getD (.arn "")
  localMountPath := (text? fields "localMountPath").getD ""

end FileSystemConfig

namespace ImageConfig

def ofFields (fields : Fields) : ImageConfig where
  uri := text? fields "uri"
  name := text? fields "name"
  command := texts? fields "command"
  entryPoint := texts? fields "entryPoint"
  workingDirectory := text? fields "workingDirectory"

def ofUri (uri : String) : ImageConfig := ⟨some uri, none, none, none, none⟩

end ImageConfig

namespace ImageSetting

def ofValue? : Value → Option ImageSetting
  | .str reference => some (.uri reference)
  | .obj fields => some (.config (ImageConfig.ofFields fields))
  | _ => none

/-- An empty URI counts as no image. -/
def isGiven : ImageSetting → Bool
  | .uri text => text ≠ ""
  | .config _ => true

def toConfig : ImageSetting → ImageConfig
  | .uri text => .ofUri text
  | .config image => image

end ImageSetting

namespace RuntimeManagement

def ofValue? : Value → Option RuntimeManagement
  | .str mode => some ⟨mode, none⟩
  | .obj fields => some ⟨(text? fields "mode").getD "auto", text? fields "arn"⟩
  | _ => none

end RuntimeManagement

namespace CorsConfig

def textsOf? (value : Value) : Option (List String) := value.items?.map (·.filterMap Value.text?)

def ofFields (fields : Fields) : CorsConfig where
  origins := setting textsOf? fields "allowedOrigins"
  headers := setting textsOf? fields "allowedHeaders"
  methods := setting textsOf? fields "allowedMethods"
  credentials := boolean? fields "allowCredentials"
  exposedHeaders := texts? fields "exposedResponseHeaders"
  maxAge := integer? fields "maxAge"

end CorsConfig

namespace CorsSetting

def ofValue? : Value → Option CorsSetting
  | .obj fields => some (.config (CorsConfig.ofFields fields))
  | .bool on => some (.enabled on)
  | _ => none

end CorsSetting

namespace UrlConfig

def ofFields (fields : Fields) : UrlConfig where
  authorizer := text? fields "authorizer"
  cors := Table.find? fields "cors" >>= CorsSetting.ofValue?
  invokeMode := text? fields "invokeMode"

end UrlConfig

namespace UrlSetting

def ofValue? : Value → Option UrlSetting
  | .obj fields => some (.config (UrlConfig.ofFields fields))
  | .bool on => some (.enabled on)
  | _ => none

end UrlSetting

namespace DestinationsConfig

def ofFields (fields : Fields) : DestinationsConfig where
  onSuccess := (Table.find? fields "onSuccess").getD .null
  onFailure := (Table.find? fields "onFailure").getD .null

end DestinationsConfig

namespace FunctionConfig

def dependenciesOf : Value → List String
  | .str id => [id]
  | .arr items => items.filterMap Value.text?
  | _ => []

def ofFields (fields : Fields) : FunctionConfig where
  handler := text? fields "handler"
  image := Table.find? fields "image" >>= ImageSetting.ofValue?
  name := text? fields "name"
  description := text? fields "description"
  runtime := text? fields "runtime"
  runtimeManagement := Table.find? fields "runtimeManagement" >>= RuntimeManagement.ofValue?
  memorySize := integer? fields "memorySize"
  timeout := integer? fields "timeout"
  architecture := text? fields "architecture"
  ephemeralStorageSize := integer? fields "ephemeralStorageSize"
  environment := (table? fields "environment").getD []
  tags := (table? fields "tags").getD []
  vpc := setting VpcSetting.ofValue? fields "vpc"
  fileSystem := (table? fields "fileSystemConfig").map FileSystemConfig.ofFields
  onError := pointer? fields "onError"
  kmsKeyArn := pointer? fields "kmsKeyArn"
  tracing := Table.find? fields "tracing" >>= Tracing.ofValue?
  layers := items? fields "layers"
  reservedConcurrency := integer? fields "reservedConcurrency"
  provisionedConcurrency := integer? fields "provisionedConcurrency"
  versionFunction := boolean? fields "versionFunction"
  snapStart := (boolean? fields "snapStart").getD false
  url := Table.find? fields "url" >>= UrlSetting.ofValue?
  destinations := (table? fields "destinations").map DestinationsConfig.ofFields
  maximumEventAge := integer? fields "maximumEventAge"
  maximumRetryAttempts := integer? fields "maximumRetryAttempts"
  role := pointer? fields "role"
  condition := text? fields "condition"
  dependsOn := ((Table.find? fields "dependsOn").map dependenciesOf).getD []
  disableLogs := (boolean? fields "disableLogs").getD false
  package := PackageConfig.ofFields ((table? fields "package").getD [])

/-- Whether the function stays out of every network: switched off, or an explicit null. -/
def vpcDisabled (function : FunctionConfig) : Bool :=
  match function.vpc with
  | .cleared => true
  | .given (.inherited on) => !on
  | _ => false

/-- Whether the function itself asks for a network. -/
def asksForVpc (function : FunctionConfig) : Bool :=
  match function.vpc with
  | .given (.attached _) => true
  | .given (.inherited on) => on
  | _ => false

def hasHandler (function : FunctionConfig) : Bool := (Text.given function.handler).isSome

def hasImage (function : FunctionConfig) : Bool := function.image.any ImageSetting.isGiven

def imageConfig? (function : FunctionConfig) : Option ImageConfig :=
  function.image.map ImageSetting.toConfig

end FunctionConfig

end FunctionStack
