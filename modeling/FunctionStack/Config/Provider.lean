import FunctionStack.Config.Function

/-!
Provider settings: what a function falls back to, and what holds for the whole stack.
-/

namespace FunctionStack

open Settings

structure ProviderConfig where
  name : String
  stage : String
  region : String
  runtime : Option String
  memorySize : Option Int
  timeout : Option Int
  architecture : Option String
  vpc : Option VpcConfig
  tags : Fields
  environment : Fields
  tracing : Option Tracing
  kmsKeyArn : Option Pointer
  layers : Option (List Value)
  versionFunctions : Bool
  hashingVersion : Option String
  role : Option Pointer
  deploymentBucket : Option String
  logRetentionInDays : Option Int
  /-- URIs of named container images; one that is built from a path has none. -/
  images : Table (Option String)

namespace ProviderConfig

def ofFields (fields : Fields) : ProviderConfig where
  name := (text? fields "name").getD "aws"
  stage := (text? fields "stage").getD "dev"
  region := (text? fields "region").getD "us-east-1"
  runtime := text? fields "runtime"
  memorySize := integer? fields "memorySize"
  timeout := integer? fields "timeout"
  architecture := text? fields "architecture"
  vpc := (table? fields "vpc").map VpcConfig.ofFields
  tags := (table? fields "tags").getD []
  environment := (table? fields "environment").getD []
  tracing := (table? fields "tracing").bind fun t => Table.find? t "lambda" >>= Tracing.ofValue?
  kmsKeyArn := pointer? fields "kmsKeyArn"
  layers := items? fields "layers"
  versionFunctions := (boolean? fields "versionFunctions").getD true
  hashingVersion := text? fields "lambdaHashingVersion"
  role := pointer? fields "role"
  deploymentBucket := text? fields "deploymentBucket"
  logRetentionInDays := integer? fields "logRetentionInDays"
  images := tableOf (text? · "uri") ((table? fields "ecr").getD []) "images"

end ProviderConfig

end FunctionStack
