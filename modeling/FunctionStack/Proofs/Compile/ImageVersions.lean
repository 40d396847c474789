import FunctionStack.Proofs.Artifact.Pinning
import FunctionStack.Proofs.Compile.Counterpart
import FunctionStack.Proofs.Compile.Sending

/-!
The images of a template. A function with an image runs the image that its version is published of: the function names it by
its pinned URI, and the version by the digest in there.
-/

namespace FunctionStack

open Value

/-- A function and its version are of one image, which is pinned. -/
structure Graph.HoldsImage (graph : Graph) (function version : String) (image : ResolvedImage) : Prop where
  pinned : image.IsPinned
  told : image.digest ≠ ""
  code : ∃ compute, graph.find? function = some compute ∧ compute.type = .str "AWS::Lambda::Function" ∧
    compute.properties.field? "Code" = some (.obj [("ImageUri", .str image.uri)])
  published : ∃ held, graph.find? version = some held ∧ held.type = .str "AWS::Lambda::Version" ∧
    held.properties.field? "FunctionName" = some (Intrinsic.ref function) ∧
    held.properties.field? "CodeSha256" = some (.str image.digest)

theorem Graph.HoldsImage.carried {graph : Graph} (previous : Option Graph) {function version : String}
    {image : ResolvedImage} (holds : graph.HoldsImage function version image) :
    (previous.elim graph graph.carryRetained).HoldsImage function version image := by
  obtain ⟨compute, found, parts⟩ := holds.code
  obtain ⟨held, present, others⟩ := holds.published
  exact {
    pinned := holds.pinned
    told := holds.told
    code := ⟨compute, carried_keeps graph previous function compute found, parts⟩
    published := ⟨held, carried_keeps graph previous version held present, others⟩ }

namespace Version

/-- Code without an artifact is published by the digest of its image, which is not empty then. -/
theorem codePart_image (files : Files) (generation : Generation) (imageDigest codeHash : String) (code : Bytes)
    (read : codePart files generation none (some imageDigest) = .ok (codeHash, code)) :
    codeHash = imageDigest ∧ imageDigest ≠ "" := by
  unfold codePart at read
  split at read
  case h_1 digest _ known =>
    obtain ⟨same, given⟩ := Option.filter_eq_some_iff.mp known
    cases same
    cases read
    exact ⟨rfl, by simpa using given⟩
  case h_2 => cases read
  case h_3 impossible => cases impossible

end Version

namespace Blueprint

variable {blueprint : Blueprint} {plan : Plan}

/-- The digest of a version with an image has the digest of the image for its code. -/
theorem Makes.imageDigest {session : RegistrySession} {graph : Graph} (makes : blueprint.Makes session graph plan)
    (image : ImageConfig) (resolved : ResolvedImage) (code : plan.code = Compute.imageCode image resolved)
    (versioned : Compute.isVersioned plan.function blueprint.provider = true) :
    ∃ digest, plan.digest = some digest ∧ digest.codeHash = resolved.digest ∧ resolved.digest ≠ "" := by
  obtain ⟨-, digest, published, made⟩ := makes.published versioned
  unfold versionDigest at made
  split at made
  case h_1 => cases made
  case h_2 =>
    obtain ⟨bytes, read⟩ := Version.digest_codePart _ _ _ _ _ _ _ _ made
    rw [code] at read
    exact ⟨digest, published, Version.codePart_image _ _ _ _ bytes read⟩

/-- A function with an image names the image by its URI. -/
theorem compute_image (image : ImageConfig) (resolved : ResolvedImage) (code : plan.code = Compute.imageCode image resolved) :
    (plan.compute blueprint).properties.field? "Code" = some (.obj [("ImageUri", .str resolved.uri)]) := by
  rw [plan.compute_properties]
  refine Compute.versionSettings_keeps _ _ _ _ _ _ (by decide) ?_
  rw [Plan.plainProperties, Compute.plainProperties, code]
  simp only [Compute.imageCode, List.append_assoc, List.cons_append, Table.find?_cons, if_true]

/-- What a function with a version runs is what its version is published of. -/
theorem Took.holdsImage {core start : Graph} {session : RegistrySession} {w : Workspace}
    {policy : Option ExecutionPolicy} {plans : List Plan} (took : blueprint.Took core session w start policy plans)
    (seeded : Core.graph blueprint.service = .ok core) (proper : blueprint.IsProper)
    (regular : (Value.obj blueprint.service.resources).isProper = true) (planned : plan ∈ plans)
    (imaged : plan.function.hasImage = true)
    (versioned : Compute.isVersioned plan.function blueprint.provider = true) :
    ∃ version image, plan.record.version = some version ∧ w.graph.HoldsImage plan.record.id version image := by
  obtain ⟨_, _, makes⟩ := took.made plan planned
  obtain ⟨image, resolved, _, -, resolution, code⟩ := blueprint.codeFrom_image _ _ _ _ imaged makes.code
  obtain ⟨digest, published, hash, told⟩ := makes.imageDigest image resolved code versioned
  obtain ⟨source, cutting⟩ := Image.resolve_cut _ _ _ _ _ _ resolved resolution
  obtain ⟨compute, found, fits, type, known⟩ := took.holds_proper seeded proper regular planned .compute
  obtain ⟨held, present, agrees, own, whole⟩ := took.holds_proper seeded proper regular planned (.version digest published)
  refine ⟨Version.id plan.name digest, resolved, ?_, ?_⟩
  · rw [Plan.record, published]
    rfl
  · exact {
      pinned := Image.isPinned_of_cut resolved source cutting
      told := told
      code := ⟨compute, found, type, fits.rigid known "Code" _ (.single _ _ (.str _)) (compute_image image resolved code)⟩
      published := by
        refine ⟨held, present, own, agrees.rigid whole _ _ (Intrinsic.ref_rigid _) rfl, ?_⟩
        exact agrees.rigid whole "CodeSha256" _ (.str _) (hash ▸ rfl) }

/-- Images are pinned when they are resolved. Whatever the settings and the registry, the URI that comes out of it tells the
digest behind the first marker, and it comes to the same image again where no registry is asked. In a service that compiles,
each function that has an image and a version runs an image that is pinned in this way, and its version has the digest. -/
theorem images_pinned :
    (∀ (registry : Registry) (provider : ProviderConfig) (function : String) (image : ImageConfig)
        (session next : RegistrySession) (resolved : ResolvedImage),
      Image.resolve registry provider function image session = (.ok resolved, next) →
        resolved.IsPinned ∧ ∀ (other : Registry) (settings : ProviderConfig) (owner : String) (later : RegistrySession),
          Image.resolve other settings owner (ImageConfig.ofUri resolved.uri) later = (.ok resolved, later)) ∧
      ∀ (service : ServiceConfig) (files : Files) (registry : Registry) (enforce : Bool),
        (ofService service files registry enforce).IsProper → (Value.obj service.resources).isProper = true →
        ∀ (previous : Option Graph) (graph : Graph) (compiled : List CompiledFunction),
          ((ofService service files registry enforce).compileService previous).1 = .ok (graph, compiled) →
          List.Forall₂ (fun entry record => record.name = entry.1 ∧ record.id = Naming.function entry.1 ∧
            (entry.2.hasImage = true → Compute.isVersioned entry.2 service.provider = true →
              ∃ version image, record.version = some version ∧ graph.HoldsImage record.id version image))
            service.functions compiled := by
  constructor
  · intro registry provider function image session next resolved done
    obtain ⟨source, cutting⟩ := Image.resolve_cut registry provider function image session next resolved done
    refine ⟨Image.isPinned_of_cut resolved source cutting, ?_⟩
    intro other settings owner later
    exact Image.resolve_ofUri resolved.uri source resolved.digest cutting other settings owner later
  · intro service files registry enforce proper regular previous graph compiled compiles
    obtain ⟨core, w, start, policy, plans, seeded, took, rfl, rfl⟩ := compileService_took compiles
    have entries : plans.map Plan.entry = service.functions := took.entries
    rw [← entries, List.forall₂_map_left_iff, List.forall₂_map_right_iff, List.forall₂_same]
    intro plan planned
    refine ⟨rfl, rfl, ?_⟩
    intro imaged versioned
    obtain ⟨version, image, recorded, holds⟩ := took.holdsImage seeded proper regular planned imaged versioned
    exact ⟨version, image, recorded, holds.carried previous⟩

/-- A function whose image is named by a tag. -/
def tagged : ServiceConfig := .ofFields [
  ("service", .str "s"),
  ("functions", .obj [
    ("api", .obj [("image", .str "123456789012.dkr.ecr.eu-west-1.amazonaws.com/team/api:latest")])])]

/-- A registry in which all images are the same. -/
def uniform : Registry :=
  ⟨true, fun _ => .ok (.obj [("imageDetails", .arr [.obj [("imageDigest", .str "sha256:1f2e")]])])⟩

/-- The tag is pinned to the digest that the registry tells, and the function is published of a pinned image. -/
theorem tagged_pinned : ∃ resolved next graph compiled record version image,
    Image.resolve uniform tagged.provider "api"
        (ImageConfig.ofUri "123456789012.dkr.ecr.eu-west-1.amazonaws.com/team/api:latest") ⟨[], []⟩ = (.ok resolved, next) ∧
      resolved.digest = "1f2e" ∧ resolved.IsPinned ∧
      Image.resolve ⟨false, fun _ => .error ""⟩ tagged.provider "api" (ImageConfig.ofUri resolved.uri) ⟨[], []⟩ =
        (.ok resolved, ⟨[], []⟩) ∧
      ((ofService tagged (.empty []) uniform false).compileService none).1 = .ok (graph, compiled) ∧ record ∈ compiled ∧
      record.version = some version ∧ graph.HoldsImage "ApiLambdaFunction" version image := by
  have told : (Image.resolve uniform tagged.provider "api"
      (ImageConfig.ofUri "123456789012.dkr.ecr.eu-west-1.amazonaws.com/team/api:latest") ⟨[], []⟩).1.toOption.map
        ResolvedImage.digest = some "1f2e" := by decide +kernel
  generalize resolves : Image.resolve uniform tagged.provider "api"
    (ImageConfig.ofUri "123456789012.dkr.ecr.eu-west-1.amazonaws.com/team/api:latest") ⟨[], []⟩ = outcome at told
  obtain ⟨failure | resolved, next⟩ := outcome
  · cases told
  have digest : resolved.digest = "1f2e" := Option.some.inj told
  obtain ⟨pinned, again⟩ := images_pinned.1 _ _ _ _ _ _ _ resolves
  obtain ⟨graph, compiled, compiles, -⟩ := compileService_any (ofService tagged (.empty []) uniform false) none
    (fun _ _ => true) (by decide +kernel)
  have each := images_pinned.2 tagged (.empty []) uniform false (by decide +kernel) (by decide +kernel) none graph compiled
    compiles
  have declared : ∃ function, ("api", function) ∈ tagged.functions ∧ function.hasImage = true ∧
      Compute.isVersioned function tagged.provider = true := ⟨_, List.mem_cons_self .., rfl, rfl⟩
  obtain ⟨function, listed, imaged, versioned⟩ := declared
  obtain ⟨record, recorded, -, id, holds⟩ := forall₂_mem_left each _ listed
  obtain ⟨version, image, published, held⟩ := holds imaged versioned
  have named : Naming.function "api" = "ApiLambdaFunction" := by decide +kernel
  exact ⟨resolved, next, graph, compiled, record, version, image, rfl, digest, pinned, again _ _ _ _, compiles, recorded,
    published, named ▸ id ▸ held⟩

end Blueprint

end FunctionStack
