import FunctionStack.Compile.Alias
import FunctionStack.Config.Function
import FunctionStack.Config.Shapes
import FunctionStack.Digest.Sha1
import FunctionStack.Digest.Text
import FunctionStack.Schema.Validation
import FunctionStack.Text.Search
import FunctionStack.Value.Json

/-!
Destinations of asynchronous calls. A target is a table with a type and an ARN, an ARN whose text shows what
it names, or else the name of a function of the service.
-/

namespace FunctionStack

inductive DestinationKind where
  | function
  | queue
  | topic
  | eventBus
  deriving DecidableEq, Repr

namespace DestinationKind

def action : DestinationKind → String
  | function => "lambda:InvokeFunction"
  | queue => "sqs:SendMessage"
  | topic => "sns:Publish"
  | eventBus => "events:PutEvents"

def label : DestinationKind → String
  | function => "FUNCTION"
  | queue => "QUEUE"
  | topic => "TOPIC"
  | eventBus => "EVENT_BUS"

def ofType? : String → Option DestinationKind
  | "function" => some function
  | "sqs" => some queue
  | "sns" => some topic
  | "eventBus" => some eventBus
  | _ => none

/-- The pieces of an ARN that tell its kind, the more telling first. -/
def patterns : List (String × DestinationKind) :=
  [(":function:", function), (":sqs:", queue), (":sns:", topic), (":event-bus/", eventBus)]

def ofArn? (arn : String) : Option DestinationKind :=
  (patterns.find? fun (piece, _) => Text.contains arn piece).map (·.2)

end DestinationKind

/-- The pointer is an ARN or a table that computes one; a function of the service is known by its name. -/
structure Destination where
  kind : DestinationKind
  pointer : Value
  function : Option String

namespace Destination

def ofTyped (owner : String) (type : Option String) (arn : Value) : Result Destination :=
  match type >>= DestinationKind.ofType? with
  | some kind => .ok ⟨kind, arn, none⟩
  | none => reject (.destinationTypeUnknown type owner)

def ofFields (owner : String) (fields : Fields) : Result Destination :=
  ofTyped owner (Settings.text? fields "type") ((Table.find? fields "arn").getD .null)

def ofText (owner : String) (resolve : String → Result Value) (text : String) : Result Destination :=
  if Text.beginsWith text "arn:" then
    match DestinationKind.ofArn? text with
    | some kind => .ok ⟨kind, .str text, none⟩
    | none => reject (.destinationUnclassified (.str text) owner)
  else do
    let pointer ← resolve text
    return ⟨.function, pointer, some text⟩

def classify (target : Value) (owner : String) (resolve : String → Result Value) : Result Destination :=
  match target with
  | .obj fields => match Shapes.destinationTarget.validate (.obj fields) with
    | .ok checked => ofFields owner (checked.fields?.getD [])
    | .error issues => reject (.destinationInvalid (.obj fields) owner issues)
  | .str text => ofText owner resolve text
  | other => reject (.destinationUnclassified other owner)

/-- Resolves the name of a function of the service, without a reference to its resource: the shared policy
that will hold the pointer comes before every function. -/
def resolver (functions : Table FunctionConfig) (deployedName : String → FunctionConfig → String)
    (owner name : String) : Result Value :=
  match functions.find? name with
  | some function => .ok (Intrinsic.functionArn (deployedName name function))
  | none => reject (.destinationFunctionUnknown name owner)

/-- A text that tells destinations apart, whatever the order of keys in their pointers. -/
def key (destination : Destination) : String :=
  (Value.obj [("kind", .str destination.kind.label), ("pointer", destination.pointer)]).sortKeys.toJson
    .spaced

def sid (function : String) (destination : Destination) : String :=
  let hash := Digest.hex (Digest.sha1 (Digest.textBytes destination.key))
  Naming.normalized function ++ "Destination" ++ .ofList (hash.toList.take 10)

/-- What the event config points at: the resource of a function of the service, else the pointer. -/
def reference (destination : Destination) : Value :=
  match Text.given destination.function with
  | some name => Intrinsic.getAtt (Naming.function name) "Arn"
  | none => destination.pointer

end Destination

namespace EventConfig

/-- Whether a function says anything about its asynchronous calls. -/
def isNeeded (function : FunctionConfig) : Bool :=
  function.destinations.isSome || (Settings.nonZero function.maximumEventAge).isSome ||
    function.maximumRetryAttempts.isSome

/-- The declared targets with the outcome each one is for. -/
def targets (function : FunctionConfig) : List (String × Value) :=
  match function.destinations with
  | none => []
  | some declared =>
    [("OnSuccess", declared.onSuccess), ("OnFailure", declared.onFailure)].filter fun (_, t) => t.given

def resource (name : String) (function : FunctionConfig) (entries : Fields) (via : Option TargetAlias) :
    Resource :=
  TargetAlias.attach (.make "AWS::Lambda::EventInvokeConfig" ([
    ("FunctionName", Intrinsic.ref (Naming.function name)),
    ("DestinationConfig", .obj entries),
    ("Qualifier", .str (TargetAlias.qualifier via))] ++
    ((Settings.nonZero function.maximumEventAge).elim [] fun seconds =>
      [("MaximumEventAgeInSeconds", .int seconds)]) ++
    function.maximumRetryAttempts.elim [] fun count =>
      [("MaximumRetryAttempts", .int count)]) (some name)) via

end EventConfig

end FunctionStack
