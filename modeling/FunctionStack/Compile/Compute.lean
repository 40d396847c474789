import FunctionStack.Artifact.Image
import FunctionStack.Template.Core

/-!
The compute resource of a function: which settings become which properties, in their order in the template,
and which permissions the settings ask of the shared execution policy.
-/

namespace FunctionStack

/-- Where the code of a function comes from, with the properties that say so. -/
structure Code where
  properties : Fields
  artifact : Option String
  imageDigest : Option String

namespace Compute

def defaultMemorySize : Int := 1024

def defaultTimeout : Int := 6

def defaultRuntime : String := "python3.12"

def enforcedDescription : String := "temporary-description-to-enforce-hash-update"

def isVersioned (function : FunctionConfig) (provider : ProviderConfig) : Bool :=
  function.versionFunction.getD provider.versionFunctions ||
    (Settings.nonZero function.provisionedConcurrency).isSome || function.snapStart

/-- Exactly one of handler and image must be set. -/
def checkCode (name : String) (function : FunctionConfig) : Result Unit :=
  if function.hasHandler && function.hasImage then reject (.bothHandlerAndImage name)
  else if !function.hasHandler && !function.hasImage then reject (.neitherHandlerNorImage name)
  else .ok ()

def updateMode? : String → Option String
  | "auto" => some "Auto"
  | "onFunctionUpdate" => some "FunctionUpdate"
  | "manual" => some "Manual"
  | _ => none

/-- Automatic updates need no property; manual ones name the runtime version. -/
def runtimeManagement (name : String) : Option RuntimeManagement → Result Fields
  | none => .ok []
  | some setting => match updateMode? setting.mode with
    | none => reject (.runtimeModeUnknown setting.mode name)
    | some "Auto" => .ok []
    | some "Manual" => match Text.given setting.arn with
      | none => reject (.runtimeArnMissing name)
      | some arn => .ok [("RuntimeManagementConfig", .obj [
          ("UpdateRuntimeOn", .str "Manual"), ("RuntimeVersionArn", .str arn)])]
    | some mode => .ok [("RuntimeManagementConfig", .obj [("UpdateRuntimeOn", .str mode)])]

def archiveCode (service : ServiceConfig) (provider : ProviderConfig) (name : String)
    (function : FunctionConfig) : Result Code := do
  let artifact := service.functionArtifact name function
  let management ← runtimeManagement name function.runtimeManagement
  let runtime := (Text.given function.runtime <|> Text.given provider.runtime).getD defaultRuntime
  return ⟨[
    ("Code", .obj [
      ("S3Bucket", provider.bucket),
      ("S3Key", .str (service.storageKey artifact (some provider.stage)))]),
    ("Handler", .str (function.handler.getD "")),
    ("Runtime", .str runtime)] ++ management, some artifact, none⟩

def imageOverrides (image : ImageConfig) : Fields :=
  Core.optionalTexts "Command" image.command ++ Core.optionalTexts "EntryPoint" image.entryPoint ++
    Core.optionalText "WorkingDirectory" image.workingDirectory

def tableField (key : String) (fields : Fields) : Fields :=
  if fields.isEmpty then [] else [(key, .obj fields)]

def imageCode (image : ImageConfig) (resolved : ResolvedImage) : Code :=
  ⟨[("Code", .obj [("ImageUri", .str resolved.uri)]), ("PackageType", .str "Image")] ++
    tableField "ImageConfig" (imageOverrides image), none, some resolved.digest⟩

def tags (function : FunctionConfig) (provider : ProviderConfig) : Fields :=
  match Table.merge provider.tags function.tags with
  | [] => []
  | all => [("Tags", .arr (all.map fun (key, value) => .obj [("Key", .str key), ("Value", value)]))]

def environment (function : FunctionConfig) (provider : ProviderConfig) : Fields :=
  match Table.merge provider.environment function.environment with
  | [] => []
  | all => [("Environment", .obj [("Variables", .obj all)])]

def onError? (function : FunctionConfig) : Option Pointer := function.onError.filter Pointer.isGiven

def kmsKey? (function : FunctionConfig) (provider : ProviderConfig) : Option Pointer :=
  Pointer.firstGiven function.kmsKeyArn provider.kmsKeyArn

def tracingMode? (function : FunctionConfig) (provider : ProviderConfig) : Option String :=
  (function.tracing <|> provider.tracing) >>= Tracing.mode?

def deadLetter (function : FunctionConfig) : Fields :=
  (onError? function).elim [] fun target => [("DeadLetterConfig", .obj [("TargetArn", target.toValue)])]

def kms (function : FunctionConfig) (provider : ProviderConfig) : Fields :=
  (kmsKey? function provider).elim [] fun key => [("KmsKeyArn", key.toValue)]

def tracing (function : FunctionConfig) (provider : ProviderConfig) : Fields :=
  (tracingMode? function provider).elim [] fun mode => [("TracingConfig", .obj [("Mode", .str mode)])]

/-- A function's own network settings, field by field over the provider's. -/
def vpcField {α : Type} (function : FunctionConfig) (provider : ProviderConfig)
    (field : VpcConfig → Option α) : Option α :=
  let own := match function.vpc with
    | .given (.attached config) => field config
    | _ => none
  own <|> (provider.vpc >>= field)

/-- The network a function is attached to; one without subnets or security groups counts for nothing. -/
def vpc? (function : FunctionConfig) (provider : ProviderConfig) : Option Value :=
  if function.vpcDisabled then none
  else do
    let subnets ← Settings.nonEmpty (vpcField function provider VpcConfig.subnetIds)
    let groups ← Settings.nonEmpty (vpcField function provider VpcConfig.securityGroupIds)
    some (.obj ([("SecurityGroupIds", .arr groups), ("SubnetIds", .arr subnets)] ++
      (vpcField function provider VpcConfig.ipv6).elim [] fun on => [("Ipv6AllowedForDualStack", .bool on)]))

def checkFileSystem (name : String) (function : FunctionConfig) (provider : ProviderConfig) : Result Unit :=
  if function.fileSystem.isSome && (vpc? function provider).isNone then
    reject (.fileSystemWithoutVpc name)
  else .ok ()

def fileSystems (function : FunctionConfig) : Fields :=
  function.fileSystem.elim [] fun mount => [("FileSystemConfigs", .arr [.obj [
    ("Arn", mount.arn.toValue), ("LocalMountPath", .str mount.localMountPath)]])]

def layers (function : FunctionConfig) (provider : ProviderConfig) : Fields :=
  match Settings.nonEmpty (function.layers <|> provider.layers) with
  | some items => [("Layers", .arr items)]
  | none => []

def integerField (key : String) (number : Option Int) : Fields :=
  number.elim [] fun n => [(key, .int n)]

/-- What a published version adds: the marker of an enforced update, and SnapStart. -/
def versionSettings (enforce : Bool) (function : FunctionConfig) (provider : ProviderConfig)
    (properties : Fields) : Fields :=
  if isVersioned function provider then
    let described := if enforce then Table.insert properties "Description" (.str enforcedDescription)
      else properties
    if function.snapStart then described ++ [("SnapStart", .obj [("ApplyOn", .str "PublishedVersions")])]
    else described
  else properties

def sizes (function : FunctionConfig) (provider : ProviderConfig) : Fields :=
  let memory := Settings.nonZero function.memorySize <|> Settings.nonZero provider.memorySize
  let timeout := Settings.nonZero function.timeout <|> Settings.nonZero provider.timeout
  [("MemorySize", .int (memory.getD defaultMemorySize)), ("Timeout", .int (timeout.getD defaultTimeout))]

def architectures (function : FunctionConfig) (provider : ProviderConfig) : Fields :=
  (Text.given function.architecture <|> Text.given provider.architecture).elim [] fun name =>
    [("Architectures", Value.texts [name])]

def ephemeralStorage (function : FunctionConfig) : Fields :=
  (Settings.nonZero function.ephemeralStorageSize).elim [] fun size =>
    [("EphemeralStorage", .obj [("Size", .int size)])]

def vpc (function : FunctionConfig) (provider : ProviderConfig) : Fields :=
  (vpc? function provider).elim [] fun config => [("VpcConfig", config)]

def properties (service : ServiceConfig) (provider : ProviderConfig) (enforce : Bool) (name : String)
    (function : FunctionConfig) (code : Code) (role : Role) : Fields :=
  let deployed := service.deployedName name (some function) (some provider.stage)
  versionSettings enforce function provider (code.properties ++ [("FunctionName", .str deployed)] ++
    sizes function provider ++ architectures function provider ++
    Core.optionalText "Description" function.description ++ tags function provider ++
    ephemeralStorage function ++ deadLetter function ++ kms function provider ++
    tracing function provider ++ environment function provider ++ [("Role", role.value)] ++
    vpc function provider ++ fileSystems function ++
    integerField "ReservedConcurrentExecutions" function.reservedConcurrency ++ layers function provider)

/-- A function comes after what it declares, its role and, first of all, its log group. -/
def withDependencies (name : String) (function : FunctionConfig) (role : Role) (resource : Resource) :
    Resource :=
  let declared := (resource.dependOn (function.dependsOn.map Value.str)).dependOn [role.dependency]
  if function.disableLogs then declared else declared.dependFirstOn [.str (Naming.logGroup name)]

def resource (service : ServiceConfig) (provider : ProviderConfig) (enforce : Bool) (name : String)
    (function : FunctionConfig) (code : Code) (role : Role) : Resource :=
  let properties := properties service provider enforce name function code role
  withDependencies name function role
    { Resource.make "AWS::Lambda::Function" properties (some name) with
      condition := Value.ofText? function.condition }

def allow (actions : List String) (resource : Value) : Value :=
  Statements.allow (Value.texts actions) (.arr [resource]) none

/-- The statements that dead letters, the key and tracing ask for; only literal ARNs can be granted. -/
def settingStatements (function : FunctionConfig) (provider : ProviderConfig) : List Value :=
  ((onError? function >>= Pointer.literal?).elim [] fun arn => [allow ["sns:Publish"] (.str arn)]) ++
  ((kmsKey? function provider >>= Pointer.literal?).elim [] fun arn => [allow ["kms:Decrypt"] (.str arn)]) ++
  (tracingMode? function provider).elim [] fun _ =>
    [allow ["xray:PutTraceSegments", "xray:PutTelemetryRecords"] (.str "*")]

def fileSystemStatements (function : FunctionConfig) : List Value :=
  function.fileSystem.elim [] fun mount =>
    [allow ["elasticfilesystem:ClientMount", "elasticfilesystem:ClientWrite"] mount.arn.toValue]

def checkVersioning (name : String) (function : FunctionConfig) : Result Unit :=
  if (Settings.nonZero function.provisionedConcurrency).isSome && function.snapStart then
    reject (.provisionedWithSnapStart name)
  else .ok ()

end Compute

end FunctionStack
