import FunctionStack.Proofs.Compile.Function

/-!
Whom failures blame. Whatever goes wrong while a function is worked on is an error that names this function or none, or a
fault; files that cannot be read have become errors by then.
-/

namespace FunctionStack

def Failure.Blames (function : String) : Failure → Prop
  | .rejected error => error.function? = none ∨ error.function? = some function
  | .faulty _ => True
  | _ => False

/-- A result that blames a function, if it is a failure. -/
def Blames {α : Type} (function : String) : Result α → Prop
  | .ok _ => True
  | .error failure => failure.Blames function

namespace Blames

variable {α β : Type} {function : String}

@[simp] theorem ok (a : α) : Blames function (.ok a : Result α) := trivial

@[simp] theorem pure (a : α) : Blames function (Pure.pure a : Result α) := trivial

@[simp] theorem fault (f : Fault) : Blames function (FunctionStack.fault f : Result α) := trivial

@[simp] theorem reject (cause : Cause) :
    Blames function (FunctionStack.reject cause : Result α) ↔ cause.function? = none ∨ cause.function? = some function := by
  change (cause.function? <|> none) = none ∨ (cause.function? <|> none) = some function ↔ _
  cases cause.function? <;> exact Iff.rfl

theorem bind {result : Result α} {next : α → Result β} (first : Blames function result)
    (second : ∀ a, Blames function (next a)) : Blames function (result >>= next) := by
  cases result with
  | error failure => exact first
  | ok a => exact second a

end Blames

attribute [local simp] Cause.function?

theorem Compute.checkCode_blames (name : String) (function : FunctionConfig) : Blames name (Compute.checkCode name function) := by
  unfold checkCode
  split
  · simp
  · split <;> simp

theorem Compute.checkFileSystem_blames (name : String) (function : FunctionConfig) (provider : ProviderConfig) :
    Blames name (Compute.checkFileSystem name function provider) := by
  unfold checkFileSystem
  split <;> simp

theorem Compute.checkVersioning_blames (name : String) (function : FunctionConfig) :
    Blames name (Compute.checkVersioning name function) := by
  unfold checkVersioning
  split <;> simp

theorem Compute.runtimeManagement_blames (name : String) (setting : Option RuntimeManagement) :
    Blames name (Compute.runtimeManagement name setting) := by
  unfold runtimeManagement
  repeat' split
  all_goals simp

theorem Compute.archiveCode_blames (service : ServiceConfig) (provider : ProviderConfig) (name : String)
    (function : FunctionConfig) : Blames name (Compute.archiveCode service provider name function) :=
  Blames.bind (runtimeManagement_blames name _) fun _ => trivial

theorem Role.ofFunction_blames (name : String) (function : FunctionConfig) (provider : ProviderConfig) :
    Blames name (Role.ofFunction function provider) := by
  have first (target : Value) : Blames name (firstOf target) := by
    unfold firstOf
    repeat' split
    all_goals simp
  unfold ofFunction ofValue
  split
  · trivial
  · trivial
  · split
    · exact Blames.bind (first _) fun _ => trivial
    · trivial
  · split <;> simp
  · trivial

namespace Image

theorem uri_blames (name : String) (image : ImageConfig) (provider : ProviderConfig) :
    Blames name (uri name image provider) := by
  unfold uri
  repeat' split
  all_goals simp

theorem readDescription_blames (name uri : String) (image : ImageTag) (reply : Except String Value) :
    Blames name (readDescription name uri image reply) := by
  unfold readDescription pin
  repeat' split
  all_goals simp

theorem connect_blames (name : String) (registry : Registry) (region : String) (session : RegistrySession) :
    Blames name (connect registry region session) := by
  unfold connect
  repeat' split
  all_goals simp

theorem resolve_blames (registry : Registry) (provider : ProviderConfig) (name : String) (image : ImageConfig)
    (session : RegistrySession) : Blames name (resolve registry provider name image session).1 := by
  have located := uri_blames name image provider
  unfold resolve
  split
  case h_1 failure failed =>
    rw [failed] at located
    exact located
  case h_2 uri _ =>
    unfold resolveUri
    split
    · trivial
    · unfold lookUp
      split
      · simp
      case h_2 tag _ =>
        have connected := connect_blames name registry tag.region session
        split
        case h_1 failure failed =>
          rw [failed] at connected
          exact connected
        case h_2 => exact readDescription_blames name uri tag _

end Image

theorem Files.readBlob_blames (name : String) (files : Files) (path : String) : Blames name (files.readBlob path) := by
  unfold readBlob
  split
  · trivial
  · simp
  case h_3 failure other failed =>
    unfold read at failed
    split at failed
    · cases failed
      trivial
    · split at failed
      · cases failed
      case h_2 reason _ =>
        cases failed
        exact absurd rfl (other reason)

namespace Version

theorem layerProperties_blames (name : String) (properties : Value) : Blames name (layerProperties properties) := by
  unfold layerProperties
  repeat' split
  all_goals simp

theorem snapshotsOf_blames (name : String) (layerArtifact : String → Result String)
    (located : ∀ layer, Blames name (layerArtifact layer)) (graph : Graph) (entries : List Value) :
    Blames name (snapshotsOf layerArtifact graph entries) := by
  have snapshot (id : String) (resource : Resource) : Blames name (layerSnapshot layerArtifact id resource) := by
    refine Blames.bind (layerProperties_blames name _) fun _ => ?_
    split
    · trivial
    · exact Blames.bind (located _) fun _ => trivial
  induction entries with
  | nil => trivial
  | cons entry rest ih =>
      have looked : Blames name (layerResource? graph entry) := by
        unfold layerResource?
        repeat' split
        all_goals simp
      refine Blames.bind looked fun found => ?_
      split
      · exact ih
      · exact Blames.bind (snapshot _ _) fun _ => Blames.bind ih fun _ => trivial

theorem fileParts_blames (name : String) (files : Files) (generation : Generation) (paths : List String) :
    Blames name (fileParts files generation paths) := by
  induction paths with
  | nil => trivial
  | cons path rest ih => exact Blames.bind (files.readBlob_blames name path) fun _ => Blames.bind ih fun _ => trivial

theorem codePart_blames (name : String) (files : Files) (generation : Generation) (artifact imageDigest : Option String) :
    Blames name (codePart files generation artifact imageDigest) := by
  unfold codePart
  split
  · trivial
  · trivial
  · exact Blames.bind (files.readBlob_blames name _) fun _ => trivial

end Version

namespace Blueprint

theorem versionDigest_blames (blueprint : Blueprint) (name : String) (code : Code) (graph : Graph) :
    Blames name (blueprint.versionDigest name code graph) := by
  have located (layer : String) : Blames name (blueprint.service.layerArtifact layer) := by
    unfold ServiceConfig.layerArtifact
    repeat' split
    all_goals simp
  have entries (properties : Fields) : Blames name (Version.layerEntries properties) := by
    unfold Version.layerEntries
    split <;> simp
  unfold versionDigest
  split
  · trivial
  · refine Blames.bind (Blames.bind (entries _) fun _ => Version.snapshotsOf_blames name _ located graph _) fun _ => ?_
    refine Blames.bind (Version.codePart_blames name _ _ _ _) fun _ => ?_
    exact Blames.bind (Version.fileParts_blames name _ _ _) fun _ => trivial

theorem destination_blames (blueprint : Blueprint) (name : String) (target : Value) :
    Blames name (blueprint.destination name target) := by
  have resolves (text : String) : Blames name (Destination.resolver blueprint.functions
      (fun target function => blueprint.service.deployedName target (some function) (some blueprint.provider.stage))
      name text) := by
    unfold Destination.resolver
    split <;> simp
  unfold Blueprint.destination Destination.classify
  split
  · split
    · unfold Destination.ofFields Destination.ofTyped
      split <;> simp
    · simp
  · unfold Destination.ofText
    split
    · split <;> simp
    · exact Blames.bind (resolves _) fun _ => trivial
  · simp

end Blueprint

/-- A resource that differs from the one in its place blames the function that it is for. -/
theorem Graph.add_blames (name : String) (graph : Graph) (id : String) (resource : Resource)
    (own : resource.source = some name) : Blames name (graph.add id resource) := by
  unfold add
  split
  · trivial
  · split <;> simp [own]

theorem Graph.addOutput_blames (name : String) (graph : Graph) (id description : String) (value : Value) :
    Blames name (graph.addOutput id value description) := by
  unfold addOutput
  split <;> simp

theorem ExecutionPolicy.add_blames (name : String) (policy : ExecutionPolicy) (graph : Graph) (statement : Value) :
    Blames name (policy.add graph statement) := by
  have looked (container : Value) : Blames name (container.contains statement) := by
    unfold Value.contains
    repeat' split
    all_goals simp
  have grown (container : Value) : Blames name (container.addStatement statement) := by
    refine Blames.bind (looked container) fun _ => ?_
    repeat' split
    all_goals simp
  refine Blames.bind (grown _) fun _ => ?_
  cases policy <;> trivial

end FunctionStack
