import FunctionStack.Schema.Issue
import FunctionStack.Text.Quoted
import FunctionStack.Value.Literal

/-!
Everything that can go wrong, by cause: errors that a service author can act on, each with a stable code,
and faults where a value has not the shape that its use needs.
-/

namespace FunctionStack

/-- The families of compilation errors. -/
inductive ErrorKind where
  | compilation
  | configuration
  | bothHandlerAndImage
  | missingHandlerOrImage
  | missingDependency
  | conflictingSettings
  | unsupportedDestination
  | artifactRead
  | artifactDownload
  | imageResolution
  | duplicateResource
  | danglingDependency
  deriving DecidableEq, Repr

namespace ErrorKind

def code : ErrorKind → String
  | compilation => "COMPILATION_ERROR"
  | configuration => "CONFIGURATION_ERROR"
  | bothHandlerAndImage => "FUNCTION_BOTH_HANDLER_AND_IMAGE_DEFINED_ERROR"
  | missingHandlerOrImage => "FUNCTION_NEITHER_HANDLER_NOR_IMAGE_DEFINED_ERROR"
  | missingDependency => "LAMBDA_FILE_SYSTEM_CONFIG_MISSING_VPC"
  | conflictingSettings => "FUNCTION_BOTH_PROVISIONED_CONCURRENCY_AND_SNAPSTART_ENABLED_ERROR"
  | unsupportedDestination => "UNSUPPORTED_DESTINATION_TARGET"
  | artifactRead => "ARTIFACT_READ_ERROR"
  | artifactDownload => "ARTIFACT_DOWNLOAD_ERROR"
  | imageResolution => "IMAGE_RESOLUTION_ERROR"
  | duplicateResource => "DUPLICATE_RESOURCE_ERROR"
  | danglingDependency => "DANGLING_DEPENDENCY_ERROR"

/-- The families a family belongs to, nearest first. -/
def families : ErrorKind → List ErrorKind
  | compilation => []
  | bothHandlerAndImage => [configuration, compilation]
  | missingHandlerOrImage => [configuration, compilation]
  | _ => [compilation]

end ErrorKind

/-- A value has not the shape that its use needs. -/
inductive Fault where
  | missingKey
  | indexOutOfRange
  | wrongType
  | noSuchMember
  | badValue
  deriving DecidableEq, Repr

namespace Fault

def text : Fault → String
  | missingKey => "a key is missing"
  | indexOutOfRange => "an index is out of range"
  | wrongType => "a value has the wrong type"
  | noSuchMember => "a value lacks what is asked of it"
  | badValue => "a value cannot be used"

end Fault

/-- Why a file could not be read or written. -/
inductive StorageError where
  | notFound (path : String)
  | isDirectory (path : String)
  | notADirectory (path : String)
  | alreadyExists (path : String)
  | nameTooLong (path : String)
  deriving DecidableEq, Repr

namespace StorageError

def text : StorageError → String
  | notFound path => "[Errno 2] No such file or directory: " ++ Text.quoted path
  | isDirectory path => "[Errno 21] Is a directory: " ++ Text.quoted path
  | notADirectory path => "[Errno 20] Not a directory: " ++ Text.quoted path
  | alreadyExists path => "[Errno 17] File exists: " ++ Text.quoted path
  | nameTooLong path => "[Errno 36] File name too long: " ++ Text.quoted path

end StorageError

/-- Why a service cannot be compiled. -/
inductive Cause where
  | bothHandlerAndImage (function : String)
  | neitherHandlerNorImage (function : String)
  | runtimeModeUnknown (mode function : String)
  | runtimeArnMissing (function : String)
  | provisionedWithSnapStart (function : String)
  | fileSystemWithoutVpc (function : String)
  | destinationInvalid (target : Value) (owner : String) (issues : List Issue)
  | destinationTypeUnknown (type : Option String) (owner : String)
  | destinationUnclassified (target : Value) (owner : String)
  | destinationFunctionUnknown (target owner : String)
  | artifactUnreadable (reason : StorageError)
  | artifactLocationInvalid (uri : String)
  | downloadFailed (uri reason : String)
  | downloadTimedOut (seconds : Value)
  | storageClientMissing
  | registryClientMissing
  | imageNameUnknown (image function : String)
  | imageNameWithoutUri (image function : String)
  | imageUnspecified (function : String)
  | imageUriUnresolvable (uri function : String)
  | imageLookupFailed (uri function reason : String)
  | duplicateResource (id : String) (type : Value) (source : Option String)
  | danglingDependency (id : String) (dependency : Value) (source : Option String)
  | serviceFileInvalid (path : String) (issues : List Issue)
  | serviceFileUnparsable (path : String)
  | functionFaulty (function : String) (fault : Fault)

/-- Texts for what a message only quotes: a fault, a list of validation issues, a parse failure. -/
structure Wording where
  fault : Fault → String
  issues : List Issue → String
  unparsable : String

namespace Wording

def locationText (location : List LocationStep) : String :=
  ".".intercalate (location.map fun step => match step with
    | .key name => name
    | .index position => toString position)

def plain : Wording where
  fault := Fault.text
  issues issues := "; ".intercalate (issues.map fun issue => locationText issue.location ++ ": " ++ issue.kind.code)
  unparsable := "not a readable document"

end Wording

namespace Cause

def kind : Cause → ErrorKind
  | bothHandlerAndImage _ => .bothHandlerAndImage
  | neitherHandlerNorImage _ => .missingHandlerOrImage
  | runtimeModeUnknown _ _ => .configuration
  | runtimeArnMissing _ => .configuration
  | provisionedWithSnapStart _ => .conflictingSettings
  | fileSystemWithoutVpc _ => .missingDependency
  | destinationInvalid _ _ _ => .unsupportedDestination
  | destinationTypeUnknown _ _ => .unsupportedDestination
  | destinationUnclassified _ _ => .unsupportedDestination
  | destinationFunctionUnknown _ _ => .unsupportedDestination
  | artifactUnreadable _ => .artifactRead
  | artifactLocationInvalid _ => .artifactDownload
  | downloadFailed _ _ => .artifactDownload
  | downloadTimedOut _ => .artifactDownload
  | storageClientMissing => .compilation
  | registryClientMissing => .compilation
  | imageNameUnknown _ _ => .imageResolution
  | imageNameWithoutUri _ _ => .imageResolution
  | imageUnspecified _ => .imageResolution
  | imageUriUnresolvable _ _ => .imageResolution
  | imageLookupFailed _ _ _ => .imageResolution
  | duplicateResource _ _ _ => .duplicateResource
  | danglingDependency _ _ _ => .danglingDependency
  | serviceFileInvalid _ _ => .configuration
  | serviceFileUnparsable _ => .configuration
  | functionFaulty _ _ => .compilation

/-- The function that a cause itself names. -/
def function? : Cause → Option String
  | bothHandlerAndImage function => some function
  | neitherHandlerNorImage function => some function
  | runtimeModeUnknown _ function => some function
  | runtimeArnMissing function => some function
  | provisionedWithSnapStart function => some function
  | fileSystemWithoutVpc function => some function
  | destinationInvalid _ owner _ => some owner
  | destinationTypeUnknown _ owner => some owner
  | destinationUnclassified _ owner => some owner
  | destinationFunctionUnknown _ owner => some owner
  | imageNameUnknown _ function => some function
  | imageNameWithoutUri _ function => some function
  | imageUnspecified function => some function
  | imageUriUnresolvable _ function => some function
  | imageLookupFailed _ function _ => some function
  | duplicateResource _ _ source => source
  | danglingDependency _ _ source => source
  | functionFaulty function _ => some function
  | _ => none

def issues : Cause → List Issue
  | destinationInvalid _ _ issues => issues
  | serviceFileInvalid _ issues => issues
  | _ => []

def message (wording : Wording) : Cause → String
  | bothHandlerAndImage function =>
    s!"Either \"handler\" or \"image\" property (not both) needs to be set on function \"{function}\"."
  | neitherHandlerNorImage function =>
    s!"Either \"handler\" or \"image\" property needs to be set on function \"{function}\""
  | runtimeModeUnknown mode function =>
    s!"Unsupported runtime management mode \"{mode}\" on function \"{function}\""
  | runtimeArnMissing function =>
    s!"Runtime management mode \"manual\" requires an arn on function \"{function}\""
  | provisionedWithSnapStart function =>
    "Functions with provisioned concurrency cannot have SnapStart enabled. " ++
      s!"Disable one of them on function \"{function}\"."
  | fileSystemWithoutVpc function =>
    s!"Ensure that function \"{function}\" has a VPC configured before mounting a file system"
  | destinationInvalid target owner issues =>
    s!"Invalid destination target {target.literal} on function \"{owner}\": " ++ wording.issues issues
  | destinationTypeUnknown type owner =>
    s!"Unsupported destination target type \"{(Value.ofText? type).display}\" on function \"{owner}\""
  | destinationUnclassified target owner =>
    s!"Unsupported destination target {target.display} on function \"{owner}\""
  | destinationFunctionUnknown target owner =>
    s!"Destination of function \"{owner}\" references unknown function \"{target}\""
  | artifactUnreadable reason => s!"Could not add file content to hash: {reason.text}"
  | artifactLocationInvalid uri => s!"Invalid S3 artifact location: {uri}"
  | downloadFailed uri reason => s!"Could not download {uri}: {reason}"
  | downloadTimedOut seconds => s!"Timed out after {seconds.display}s downloading artifacts"
  | storageClientMissing =>
    "boto3 required to download S3 artifacts. Install with: pip install serac[aws]"
  | registryClientMissing =>
    "boto3 required to resolve image tags. Install with: pip install serac[aws]"
  | imageNameUnknown image function =>
    s!"Referenced \"{image}\" not defined in \"provider.ecr.images\" (function \"{function}\")"
  | imageNameWithoutUri image function =>
    s!"Image \"{image}\" has no uri; images built from a path must be pushed before compiling " ++
      s!"(function \"{function}\")"
  | imageUnspecified function => s!"Image of function \"{function}\" needs a \"uri\" or a \"name\""
  | imageUriUnresolvable uri function =>
    s!"Image URI \"{uri}\" of function \"{function}\" is neither pinned with a digest " ++
      "nor an ECR repository tag"
  | imageLookupFailed uri function reason =>
    s!"Could not resolve image \"{uri}\" of function \"{function}\": {reason}"
  | duplicateResource id type _ =>
    s!"Logical id \"{id}\" is already used by another {type.display} resource"
  | danglingDependency id dependency _ =>
    s!"Resource \"{id}\" depends on \"{dependency.display}\", which is not defined in the template"
  | serviceFileInvalid path issues => s!"Invalid service file {path}:\n" ++ wording.issues issues
  | serviceFileUnparsable path => s!"Could not parse {path}: " ++ wording.unparsable
  | functionFaulty function fault =>
    s!"Failed to compile function '{function}': " ++ wording.fault fault

end Cause

/-- A cause, and the function being compiled if the cause itself names none. -/
structure CompileError where
  cause : Cause
  compiling : Option String

namespace CompileError

def function? (error : CompileError) : Option String := error.cause.function? <|> error.compiling

def code (error : CompileError) : String := error.cause.kind.code

def message (wording : Wording) (error : CompileError) : String :=
  match error.cause.function?, error.compiling with
  | none, some function => error.cause.message wording ++ s!" (function \"{function}\")"
  | _, _ => error.cause.message wording

/-- Names the function being compiled, unless the error names one already. -/
def during (function : String) (error : CompileError) : CompileError :=
  if error.function?.isSome then error else { error with compiling := some function }

end CompileError

inductive Failure where
  | rejected (error : CompileError)
  | invalid (issues : List Issue)
  | faulty (fault : Fault)
  | storage (error : StorageError)
  /-- A text file whose bytes are no text. -/
  | undecodable
  | unparsable
  | invalidJson

namespace Failure

def because (cause : Cause) : Failure := .rejected ⟨cause, none⟩

end Failure

abbrev Result (α : Type) := Except Failure α

def reject {α : Type} (cause : Cause) : Result α := .error (.because cause)

def fault {α : Type} (f : Fault) : Result α := .error (.faulty f)

end FunctionStack
