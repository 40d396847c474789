import FunctionStack.Config.Provider
import FunctionStack.Config.Shapes
import FunctionStack.Failure
import FunctionStack.Schema.Validation
import FunctionStack.Storage.Path

/-!
A service: its functions and layers, its provider settings, and where its artifacts lie locally and in the
deployment bucket.
-/

namespace FunctionStack

open Settings

structure LayerConfig where
  name : Option String
  description : Option String
  compatibleRuntimes : Option (List String)
  compatibleArchitectures : Option (List String)
  licenseInfo : Option String
  retain : Bool
  package : PackageConfig

structure ServiceConfig where
  service : String
  provider : ProviderConfig
  functions : Table FunctionConfig
  layers : Table LayerConfig
  package : PackageConfig
  resources : Fields
  directory : Path

namespace LayerConfig

def ofFields (fields : Fields) : LayerConfig where
  name := text? fields "name"
  description := text? fields "description"
  compatibleRuntimes := texts? fields "compatibleRuntimes"
  compatibleArchitectures := texts? fields "compatibleArchitectures"
  licenseInfo := text? fields "licenseInfo"
  retain := (boolean? fields "retain").getD false
  package := PackageConfig.ofFields ((table? fields "package").getD [])

end LayerConfig

/-- Reads a value of a shape into a record, if it is valid. -/
def checkAs {α : Type} (shape : Schema) (read : Fields → α) (value : Value) : Checked α :=
  (shape.validate value).map fun checked => read (checked.fields?.getD [])

def FunctionConfig.check (value : Value) : Checked FunctionConfig :=
  checkAs Shapes.function FunctionConfig.ofFields value

def ProviderConfig.check (value : Value) : Checked ProviderConfig :=
  checkAs Shapes.provider ProviderConfig.ofFields value

def CorsConfig.check (value : Value) : Checked CorsConfig :=
  checkAs Shapes.cors CorsConfig.ofFields value

def ImageConfig.check (value : Value) : Checked ImageConfig :=
  checkAs Shapes.image ImageConfig.ofFields value

namespace ServiceConfig

def ofFields (fields : Fields) : ServiceConfig where
  service := (text? fields "service").getD ""
  provider := ProviderConfig.ofFields ((table? fields "provider").getD [])
  functions := tableOf FunctionConfig.ofFields fields "functions"
  layers := tableOf LayerConfig.ofFields fields "layers"
  package := PackageConfig.ofFields ((table? fields "package").getD [])
  resources := (table? fields "resources").getD []
  directory := Path.ofText ((text? fields "serviceDir").getD ".")

def check (value : Value) : Checked ServiceConfig := checkAs Shapes.service ofFields value

def stageOr (service : ServiceConfig) (stage : Option String) : String :=
  (Text.given stage).getD service.provider.stage

/-- The name a function is deployed under: its own, or one made from the service and the stage. -/
def deployedName (service : ServiceConfig) (name : String) (function : Option FunctionConfig)
    (stage : Option String) : String :=
  let settings := function <|> service.functions.find? name
  match settings.bind fun f => Text.given f.name with
  | some own => own
  | none => s!"{service.service}-{service.stageOr stage}-{name}"

def artifactDirectory (service : ServiceConfig) (stage : Option String) : String :=
  match Text.given service.package.artifactDirectoryName with
  | some directory => directory
  | none => s!"serverless/{service.service}/{service.stageOr stage}"

def storageKey (service : ServiceConfig) (artifact : String) (stage : Option String) : String :=
  service.artifactDirectory stage ++ "/" ++ Text.afterLast '/' artifact

/-- Remote artifacts keep their URI, local ones lie below the service directory. -/
def anchored (service : ServiceConfig) (artifact : String) : String :=
  if Text.beginsWith artifact "s3://" then artifact else (service.directory.child artifact).toText

def packagingDirectory (service : ServiceConfig) : Path :=
  service.directory.child ((Text.given service.package.path).getD ".serverless")

def functionArtifact (service : ServiceConfig) (name : String) (function : FunctionConfig) : String :=
  match Text.given function.package.artifact <|> Text.given service.package.artifact with
  | some artifact => service.anchored artifact
  | none =>
    let archive := if service.package.individually || function.package.individually then name
      else service.service
    (service.packagingDirectory.child (archive ++ ".zip")).toText

def layerArtifact (service : ServiceConfig) (name : String) : Result String :=
  match service.layers.find? name with
  | none => fault .missingKey
  | some layer => match Text.given layer.package.artifact with
    | some artifact => .ok (service.anchored artifact)
    | none => .ok (service.packagingDirectory.child (name ++ ".zip")).toText

end ServiceConfig

end FunctionStack
