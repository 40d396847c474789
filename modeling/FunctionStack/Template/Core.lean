import FunctionStack.Config.Service
import FunctionStack.Template.Graph
import FunctionStack.Template.Policy
import FunctionStack.Template.Role

/-!
The resources every stack starts from: the deployment bucket, the default execution role, a log group for
each function, the layers of the service and the resources it declares itself.
-/

namespace FunctionStack

def vpcAccessPolicy : String :=
  "arn:$\x7bAWS::Partition\x7d:iam::aws:policy/service-role/AWSLambdaVPCAccessExecutionRole"

/-- The bucket of the code artifacts: a name, or a reference to the stack's own bucket. -/
def ProviderConfig.bucket (provider : ProviderConfig) : Value :=
  match Text.given provider.deploymentBucket with
  | some name => .str name
  | none => Intrinsic.ref deploymentBucketId

namespace Core

def bucketResource : Resource :=
  .make "AWS::S3::Bucket" [
    ("BucketEncryption", .obj [
      ("ServerSideEncryptionConfiguration", .arr [
        .obj [("ServerSideEncryptionByDefault", .obj [("SSEAlgorithm", .str "AES256")])]])])] none

/-- Whether some function runs under the default role; the first one found settles it. -/
def usesDefaultRole (provider : ProviderConfig) : List (String × FunctionConfig) → Result Bool
  | [] => .ok false
  | (_, function) :: rest => do
    let role ← Role.ofFunction function provider
    if role.isDefault then return true else usesDefaultRole provider rest

def stackName (service : ServiceConfig) : String := s!"{service.service}-{service.provider.stage}"

def logGroupArn (service : ServiceConfig) : String :=
  "arn:$\x7bAWS::Partition\x7d:logs:$\x7bAWS::Region\x7d:$\x7bAWS::AccountId\x7d:log-group:/aws/lambda/" ++
    stackName service

def logStatements (service : ServiceConfig) : List Value := [
  Statements.allow (Value.texts ["logs:CreateLogStream", "logs:CreateLogGroup", "logs:TagResource"])
    (.arr [Intrinsic.sub (logGroupArn service ++ "*:*")]) none,
  Statements.allow (Value.texts ["logs:PutLogEvents"])
    (.arr [Intrinsic.sub (logGroupArn service ++ "*:*:*")]) none]

def usesVpc (service : ServiceConfig) : Bool :=
  service.provider.vpc.isSome || service.functions.any fun (_, function) => function.asksForVpc

def assumeRolePolicy : Value := .obj [
  ("Version", .str "2012-10-17"),
  ("Statement", .arr [.obj [
    ("Effect", .str "Allow"),
    ("Principal", .obj [("Service", Value.texts ["lambda.amazonaws.com"])]),
    ("Action", Value.texts ["sts:AssumeRole"])]])]

def executionRole (service : ServiceConfig) : Resource :=
  let name := stackName service
  .make "AWS::IAM::Role" ([
    ("AssumeRolePolicyDocument", assumeRolePolicy),
    ("Policies", .arr [.obj [
      ("PolicyName", Intrinsic.join "-" [.str name, .str "lambda"]),
      ("PolicyDocument", .obj [
        ("Version", .str "2012-10-17"),
        ("Statement", .arr (logStatements service))])]]),
    ("Path", .str "/"),
    ("RoleName", Intrinsic.join "-" [.str name, Intrinsic.ref "AWS::Region", .str "lambdaRole"])] ++
    if usesVpc service then [("ManagedPolicyArns", .arr [Intrinsic.sub vpcAccessPolicy])] else []) none

def logGroup (service : ServiceConfig) (name : String) : Resource :=
  let deployed := service.deployedName name none none
  .make "AWS::Logs::LogGroup" ([("LogGroupName", .str ("/aws/lambda/" ++ deployed))] ++
    match Settings.nonZero service.provider.logRetentionInDays with
    | some days => [("RetentionInDays", .int days)]
    | none => []) (some name)

def optionalText (key : String) (text : Option String) : Fields :=
  match Text.given text with
  | some t => [(key, .str t)]
  | none => []

def optionalTexts (key : String) (texts : Option (List String)) : Fields :=
  match Settings.nonEmpty texts with
  | some items => [(key, Value.texts items)]
  | none => []

def layer (service : ServiceConfig) (name : String) (config : LayerConfig) (artifact : String) : Resource :=
  let properties := [
    ("Content", .obj [
      ("S3Bucket", service.provider.bucket),
      ("S3Key", .str (service.storageKey artifact none))]),
    ("LayerName", .str ((Text.given config.name).getD name))] ++
    optionalText "Description" config.description ++
    optionalTexts "CompatibleRuntimes" config.compatibleRuntimes ++
    optionalTexts "CompatibleArchitectures" config.compatibleArchitectures ++
    optionalText "LicenseInfo" config.licenseInfo
  { Resource.make "AWS::Lambda::LayerVersion" properties (some name) with
    deletionPolicy := if config.retain then Resource.retainPolicy else .null }

def addBucket (service : ServiceConfig) (graph : Graph) : Result Graph := do
  if (Text.given service.provider.deploymentBucket).isSome then return graph
  else
    let graph ← graph.add deploymentBucketId bucketResource
    graph.addOutput "ServerlessDeploymentBucketName" (Intrinsic.ref deploymentBucketId)
      "Deployment bucket name"

def addRole (service : ServiceConfig) (graph : Graph) : Result Graph := do
  if ← usesDefaultRole service.provider service.functions then
    graph.add defaultExecutionRole (executionRole service)
  else return graph

def addLogGroups (service : ServiceConfig) (graph : Graph) : List (String × FunctionConfig) → Result Graph
  | [] => .ok graph
  | (name, function) :: rest => do
    let graph ← if function.disableLogs then .ok graph
      else graph.add (Naming.logGroup name) (logGroup service name)
    addLogGroups service graph rest

def addLayers (service : ServiceConfig) (graph : Graph) : List (String × LayerConfig) → Result Graph
  | [] => .ok graph
  | (name, config) :: rest => do
    let artifact ← service.layerArtifact name
    let graph ← graph.add (Naming.layer name) (layer service name config artifact)
    addLayers service graph rest

def addDeclared (graph : Graph) : Fields → Result Graph
  | [] => .ok graph
  | (id, value) :: rest => do
    let resource ← Resource.ofValue value
    let graph ← graph.add id resource
    addDeclared graph rest

def addDeclaredOutputs (graph : Graph) (declared : Fields) : Graph :=
  match graph.outputs with
  | .obj outputs => { graph with outputs := .obj (Table.merge outputs declared) }
  | _ => graph

def graph (service : ServiceConfig) : Result Graph := do
  let graph ← addBucket service Graph.empty
  let graph ← addRole service graph
  let graph ← addLogGroups service graph service.functions
  let graph ← addLayers service graph service.layers
  let declared ← Fields.entries service.resources "Resources"
  let graph ← addDeclared graph declared
  let outputs ← Fields.entries service.resources "Outputs"
  return addDeclaredOutputs graph outputs

end Core

end FunctionStack
