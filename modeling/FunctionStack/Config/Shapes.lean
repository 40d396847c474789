import FunctionStack.Schema.Basic

/-!
The shapes of everything a service file may hold.
-/

namespace FunctionStack.Shapes

open Schema

/-- A word of a field's key: all but the first begin with a capital. -/
def keyOf (name : List Char) : List Char :=
  match name with
  | [] => []
  | '_' :: c :: rest => c.toUpper :: keyOf rest
  | c :: rest => c :: keyOf rest

def field (name : String) (schema : Schema) : FieldName × Schema :=
  (⟨.ofList (keyOf name.toList), name, false, true⟩, schema)

def required (name : String) (schema : Schema) : FieldName × Schema :=
  (⟨.ofList (keyOf name.toList), name, true, true⟩, schema)

def optionalText : Schema := .optional .text

def optionalInteger : Schema := .optional .integer

def optionalBoolean : Schema := .optional .boolean

def optionalTexts : Schema := .optional (.list .text)

/-- An ARN as text, or a table that computes it. -/
def pointer : Schema := .either .text (.table .any)

def optionalPointer : Schema := .optional pointer

def optionalLayers : Schema := .optional (.list pointer)

def vpc : Schema := .model "VpcConfig" [
  field "subnet_ids" (.optional (.list .any)),
  field "security_group_ids" (.optional (.list .any)),
  field "ipv6_allowed_for_dual_stack" optionalBoolean]

def fileSystem : Schema := .model "FileSystemConfig" [
  required "arn" pointer,
  required "local_mount_path" .text]

def image : Schema := .model "ImageConfig" [
  field "uri" optionalText,
  field "name" optionalText,
  field "command" optionalTexts,
  field "entry_point" optionalTexts,
  field "working_directory" optionalText]

def runtimeManagement : Schema := .model "RuntimeManagementConfig" [
  field "mode" .text,
  field "arn" optionalText]

def cors : Schema := .model "CorsConfig" [
  field "allowed_origins" optionalTexts,
  field "allowed_headers" optionalTexts,
  field "allowed_methods" optionalTexts,
  field "allow_credentials" optionalBoolean,
  field "exposed_response_headers" optionalTexts,
  field "max_age" optionalInteger]

def url : Schema := .model "UrlConfig" [
  field "authorizer" optionalText,
  field "cors" (.optional (.either cors .boolean)),
  field "invoke_mode" optionalText]

def destinationTarget : Schema := .model "DestinationTarget" [
  field "type" optionalText,
  required "arn" pointer]

def destinations : Schema := .model "DestinationsConfig" [
  field "on_success" .any,
  field "on_failure" .any]

def package : Schema := .model "PackageConfig" [
  field "artifact" optionalText,
  field "individually" optionalBoolean,
  field "artifact_directory_name" optionalText,
  field "path" optionalText]

def function : Schema := .model "FunctionConfig" [
  field "handler" optionalText,
  field "image" (.optional (.either .text image)),
  field "name" optionalText,
  field "description" optionalText,
  field "runtime" optionalText,
  field "runtime_management" (.optional (.either .text runtimeManagement)),
  field "memory_size" optionalInteger,
  field "timeout" optionalInteger,
  field "architecture" optionalText,
  field "ephemeral_storage_size" optionalInteger,
  field "environment" (.optional (.table .any)),
  field "tags" (.optional (.table .any)),
  field "vpc" (.optional (.either vpc .boolean)),
  field "file_system_config" (.optional fileSystem),
  field "on_error" optionalPointer,
  field "kms_key_arn" optionalPointer,
  field "tracing" (.optional (.either .boolean .text)),
  field "layers" optionalLayers,
  field "reserved_concurrency" optionalInteger,
  field "provisioned_concurrency" optionalInteger,
  field "version_function" optionalBoolean,
  field "snap_start" optionalBoolean,
  field "url" (.optional (.either url .boolean)),
  field "destinations" (.optional destinations),
  field "maximum_event_age" optionalInteger,
  field "maximum_retry_attempts" optionalInteger,
  field "role" optionalPointer,
  field "condition" optionalText,
  field "depends_on" (.optional (.either (.list .text) .text)),
  field "disable_logs" optionalBoolean,
  field "package" package]

def tracing : Schema := .model "TracingConfig" [
  (⟨"lambda", "lambda_", false, true⟩, .optional (.either .boolean .text))]

def namedImage : Schema := .model "EcrImageConfig" [
  field "uri" optionalText,
  field "path" optionalText]

def registry : Schema := .model "EcrConfig" [
  field "images" (.table namedImage)]

def provider : Schema := .model "ProviderConfig" [
  field "name" .text,
  field "stage" .text,
  field "region" .text,
  field "runtime" optionalText,
  field "memory_size" optionalInteger,
  field "timeout" optionalInteger,
  field "architecture" optionalText,
  field "vpc" (.optional vpc),
  field "tags" (.table .any),
  field "environment" (.table .any),
  field "tracing" (.optional tracing),
  field "kms_key_arn" optionalPointer,
  field "layers" optionalLayers,
  field "version_functions" .boolean,
  field "lambda_hashing_version" optionalText,
  field "role" optionalPointer,
  field "deployment_bucket" optionalText,
  field "log_retention_in_days" optionalInteger,
  field "ecr" registry]

def layer : Schema := .model "LayerConfig" [
  field "name" optionalText,
  field "description" optionalText,
  field "compatible_runtimes" optionalTexts,
  field "compatible_architectures" optionalTexts,
  field "license_info" optionalText,
  field "retain" optionalBoolean,
  field "package" package]

def service : Schema := .model "ServiceConfig" [
  required "service" .text,
  field "provider" provider,
  field "functions" (.table function),
  field "layers" (.table layer),
  field "package" package,
  field "resources" (.table .any),
  (⟨"serviceDir", "service_dir", false, false⟩, .path)]

end FunctionStack.Shapes
