import FunctionStack.Proofs.Compile.Logging
import FunctionStack.Proofs.Compile.Relocation

/-!
Which code is stored in one place. All code of a service goes into one directory of one bucket, and there it has the file name
of its artifact: two artifacts are stored in one place exactly if their file names are the same.
-/

namespace FunctionStack

open Value

/-- The artifacts of a service, each with the id of the resource that carries it and the property that says where it is
stored. Images are not stored. -/
inductive ServiceConfig.Carries (service : ServiceConfig) : String → String → String → Prop
  | function (name : String) (function : FunctionConfig) (declared : (name, function) ∈ service.functions)
      (handler : function.hasHandler = true) :
      Carries service (Naming.function name) "Code" (service.functionArtifact name function)
  | layer (name : String) (config : LayerConfig) (artifact : String) (declared : (name, config) ∈ service.layers)
      (packaged : service.layerArtifact name = .ok artifact) : Carries service (Naming.layer name) "Content" artifact

/-- The bucket and the key that a property of a resource names. -/
def Resource.place? (resource : Resource) (property : String) : Option (Value × Value) := do
  let location ← resource.properties.field? property
  let bucket ← location.field? "S3Bucket"
  let key ← location.field? "S3Key"
  some (bucket, key)

theorem ProviderConfig.bucket_rigid (provider : ProviderConfig) : Rigid provider.bucket := by
  unfold bucket
  split
  · exact .str _
  · exact .single _ _ (.str _)

/-- The place that a resource names is named by whatever fits it. -/
theorem Resource.Fits.place {held resource : Resource} (fits : held.Fits resource)
    (proper : held.properties.isProper = true) (property : String) (bucket : Value) (key : String) (rigid : Rigid bucket)
    (named : resource.properties.field? property = some (.obj [("S3Bucket", bucket), ("S3Key", .str key)])) :
    held.place? property = some (bucket, .str key) := by
  obtain ⟨location, found, alike⟩ := fits.part proper property _ named
  have regular := field?_isProper proper property found
  obtain ⟨own, first, equal⟩ := field?_same regular alike "S3Bucket" rfl
  obtain ⟨text, second, same⟩ := field?_same regular alike "S3Key" rfl
  rw [rigid.eq_of_same own equal] at first
  rw [str_same same] at second
  simp only [place?, found, first, second, Option.bind_eq_bind, Option.bind_some]

namespace ServiceConfig

variable (service : ServiceConfig)

theorem storageKey_own (artifact : String) :
    service.storageKey artifact (some service.provider.stage) = service.storageKey artifact none := by
  rw [storageKey, storageKey, artifactDirectory, artifactDirectory, stageOr_own]
  rfl

/-- Of an artifact its key has the file name only. -/
theorem storageKey_iff (first second : String) :
    service.storageKey first none = service.storageKey second none ↔
      Text.afterLast '/' first = Text.afterLast '/' second := by
  constructor
  · intro same
    have lists := congrArg String.toList same
    simp only [storageKey, String.toList_append] at lists
    exact String.toList_injective (List.append_cancel_left lists)
  · intro same
    rw [storageKey, storageKey, same]

end ServiceConfig

namespace Core

variable {service : ServiceConfig}

theorem layerSeeds_lists (layers : List (String × LayerConfig)) (seeds : Table Resource)
    (made : layerSeeds service layers = .ok seeds) (name : String) (config : LayerConfig) (artifact : String)
    (declared : (name, config) ∈ layers) (packaged : service.layerArtifact name = .ok artifact) :
    (Naming.layer name, layer service name config artifact) ∈ seeds := by
  induction layers generalizing seeds with
  | nil => cases declared
  | cons entry rest ih =>
      simp only [layerSeeds, Result.bind_ok, Result.pure_ok] at made
      obtain ⟨own, found, others, more, rfl⟩ := made
      rcases List.mem_cons.mp declared with rfl | later
      · cases found.symm.trans packaged
        exact List.mem_cons_self ..
      · exact List.mem_cons_of_mem _ (ih others more later)

/-- Each layer of a service is in its core graph, or a resource that equals it. -/
theorem graph_layer (core : Graph) (seeded : Core.graph service = .ok core)
    (regular : (Value.obj service.resources).isProper = true) (name : String) (config : LayerConfig) (artifact : String)
    (declared : (name, config) ∈ service.layers) (packaged : service.layerArtifact name = .ok artifact) :
    ∃ held, core.find? (Naming.layer name) = some held ∧ held.Fits (layer service name config artifact) ∧
      held.properties.isProper = true := by
  obtain ⟨seeds, all⟩ := graph_fits service core seeded
  have listed := layerSeeds_lists service.layers seeds.layers seeds.packaged name config artifact declared packaged
  have member : (Naming.layer name, layer service name config artifact) ∈ seeds.all := by
    simp only [Seeds.all, List.mem_append]
    exact Or.inl (Or.inr listed)
  obtain ⟨held, found, fits⟩ := all _ _ member
  exact ⟨held, found, fits, (graph_holds_proper service core seeded regular _ held found).properties⟩

end Core

namespace Blueprint

/-- A function with a handler has its code where the service stores its artifact. -/
theorem Makes.code_place {blueprint : Blueprint} {session : RegistrySession} {graph : Graph} {plan : Plan}
    (makes : blueprint.Makes session graph plan) (handler : plan.function.hasHandler = true) :
    (plan.compute blueprint).properties.field? "Code" = some (.obj [("S3Bucket", blueprint.provider.bucket),
      ("S3Key", .str (blueprint.service.storageKey (blueprint.service.functionArtifact plan.name plan.function)
        (some blueprint.provider.stage)))]) := by
  have plain : plan.function.hasImage = false := by
    have checked := makes.checked
    unfold Compute.checkCode at checked
    rw [handler, Bool.true_and] at checked
    cases image : plan.function.hasImage with
    | false => rfl
    | true =>
        rw [image] at checked
        cases checked
  have archived := codeFrom_archive blueprint plan.name plan.function session plan.code plain makes.code
  simp only [Compute.archiveCode, Result.bind_ok, Result.pure_ok] at archived
  obtain ⟨management, -, same⟩ := archived
  rw [plan.compute_properties]
  refine Compute.versionSettings_keeps _ _ _ _ _ _ (by decide) ?_
  rw [Plan.plainProperties, Compute.plainProperties, ← same]
  simp only [List.append_assoc, List.cons_append, Table.find?_cons, if_true]

section

variable {service : ServiceConfig} {files : Files} {registry : Registry} {enforce : Bool} {core start : Graph}
  {session : RegistrySession} {w : Workspace} {policy : Option ExecutionPolicy} {plans : List Plan}

/-- Whatever carries code of a service says that it is in the service's bucket, under the key of its artifact. -/
theorem Took.places_code (took : (ofService service files registry enforce).Took core session w start policy plans)
    (seeded : Core.graph service = .ok core) (proper : (ofService service files registry enforce).IsProper)
    (regular : (Value.obj service.resources).isProper = true) (id property artifact : String)
    (carries : service.Carries id property artifact) :
    ∃ held, w.graph.find? id = some held ∧
      held.place? property = some (service.provider.bucket, .str (service.storageKey artifact none)) := by
  cases carries with
  | function name function declared handler =>
      obtain ⟨plan, planned, rfl, rfl⟩ := took.planned name function declared
      obtain ⟨held, found, fits, -, known⟩ := took.holds_proper seeded proper regular planned .compute
      obtain ⟨_, _, makes⟩ := took.made plan planned
      have location := makes.code_place handler
      refine ⟨held, found, fits.place known "Code" _ _ service.provider.bucket_rigid ?_⟩
      rw [← service.storageKey_own]
      exact location
  | layer name config _ declared packaged =>
      obtain ⟨held, found, fits, known⟩ := Core.graph_layer core seeded regular name config artifact declared packaged
      have kept := took.elsewhere (Naming.layer name) (Naming.layer_ne_role name)
      rw [found, Option.some_or] at kept
      exact ⟨held, kept, fits.place known "Content" _ _ service.provider.bucket_rigid rfl⟩

end

/-- Each function with a handler and each layer is in the template and says that its code is in the service's bucket, under the
key of its artifact. Two of them name one place exactly if their artifacts have the same file name, whatever directories these
lie in. -/
theorem compileService_stores (service : ServiceConfig) (files : Files) (registry : Registry) (enforce : Bool)
    (proper : (ofService service files registry enforce).IsProper)
    (regular : (Value.obj service.resources).isProper = true) (previous : Option Graph) (graph : Graph)
    (compiled : List CompiledFunction)
    (compiles : ((ofService service files registry enforce).compileService previous).1 = .ok (graph, compiled)) :
    (∀ id property artifact, service.Carries id property artifact → ∃ held, graph.find? id = some held ∧
        held.place? property = some (service.provider.bucket, .str (service.storageKey artifact none))) ∧
      ∀ id property artifact, service.Carries id property artifact →
        ∀ other name path, service.Carries other name path →
          ∀ held twin, graph.find? id = some held → graph.find? other = some twin →
            (held.place? property = twin.place? name ↔ Text.afterLast '/' artifact = Text.afterLast '/' path) := by
  obtain ⟨core, w, start, policy, plans, seeded, took, rfl, -⟩ := compileService_took compiles
  have stored : ∀ id property artifact, service.Carries id property artifact → ∃ held,
      (previous.elim w.graph w.graph.carryRetained).find? id = some held ∧
        held.place? property = some (service.provider.bucket, .str (service.storageKey artifact none)) := by
    intro id property artifact carries
    obtain ⟨held, found, place⟩ := took.places_code seeded proper regular id property artifact carries
    exact ⟨held, Graph.carried_keeps w.graph previous id held found, place⟩
  refine ⟨stored, ?_⟩
  intro id property artifact carries other name path carriesToo held twin found present
  obtain ⟨own, one, place⟩ := stored id property artifact carries
  obtain ⟨theirs, two, location⟩ := stored other name path carriesToo
  cases found.symm.trans one
  cases present.symm.trans two
  rw [place, location]
  simp only [Option.some.injEq, Prod.mk.injEq, true_and, Value.str.injEq]
  exact service.storageKey_iff artifact path

/-- Two functions whose packages lie in different directories and have one file name, next to a layer. -/
def crowded : ServiceConfig := .ofFields [
  ("service", .str "s"),
  ("provider", .obj [("versionFunctions", .bool false)]),
  ("layers", .obj [("base", .obj [("package", .obj [("artifact", .str "base.zip")])])]),
  ("functions", .obj [
    ("api", .obj [("handler", .str "api.handle"), ("package", .obj [("artifact", .str "api/code.zip")])]),
    ("job", .obj [("handler", .str "job.run"), ("package", .obj [("artifact", .str "job/code.zip")])])])]

/-- The artifacts of the two functions are different, and each function has the file name of both for its key. -/
theorem crowded_carries :
    (∃ artifact, crowded.Carries "ApiLambdaFunction" "Code" artifact ∧ artifact = "api/code.zip") ∧
      ∃ artifact, crowded.Carries "JobLambdaFunction" "Code" artifact ∧ artifact = "job/code.zip" := by
  obtain ⟨api, one, handled, first⟩ : ∃ function, ("api", function) ∈ crowded.functions ∧ function.hasHandler = true ∧
      crowded.functionArtifact "api" function = "api/code.zip" :=
    ⟨_, List.mem_cons_self .., by decide +kernel, by decide +kernel⟩
  obtain ⟨job, two, run, second⟩ : ∃ function, ("job", function) ∈ crowded.functions ∧ function.hasHandler = true ∧
      crowded.functionArtifact "job" function = "job/code.zip" :=
    ⟨_, List.mem_cons_of_mem _ (List.mem_cons_self ..), by decide +kernel, by decide +kernel⟩
  have named : Naming.function "api" = "ApiLambdaFunction" ∧ Naming.function "job" = "JobLambdaFunction" := by decide +kernel
  exact ⟨⟨_, named.1 ▸ .function "api" api one handled, first⟩, _, named.2 ▸ .function "job" job two run, second⟩

/-- Both functions are told to take their code from one place. -/
theorem crowded_collides : ∃ graph compiled api job,
    ((packaged crowded).compileService none).1 = .ok (graph, compiled) ∧
      crowded.Carries "ApiLambdaFunction" "Code" "api/code.zip" ∧
      crowded.Carries "JobLambdaFunction" "Code" "job/code.zip" ∧ "api/code.zip" ≠ "job/code.zip" ∧
      graph.find? "ApiLambdaFunction" = some api ∧ graph.find? "JobLambdaFunction" = some job ∧
      api.place? "Code" = some (Intrinsic.ref deploymentBucketId, .str "serverless/s/dev/code.zip") ∧
      job.place? "Code" = api.place? "Code" := by
  obtain ⟨graph, compiled, compiles, -⟩ := compileService_any (packaged crowded) none (fun _ _ => true) (by decide +kernel)
  obtain ⟨core, w, start, policy, plans, seeded, took, rfl, -⟩ := compileService_took compiles
  obtain ⟨⟨_, one, rfl⟩, _, two, rfl⟩ := crowded_carries
  obtain ⟨api, found, place⟩ := took.places_code seeded (by decide +kernel) (by decide +kernel) _ _ _ one
  obtain ⟨job, present, location⟩ := took.places_code seeded (by decide +kernel) (by decide +kernel) _ _ _ two
  have keys : crowded.storageKey "api/code.zip" none = "serverless/s/dev/code.zip" ∧
      crowded.storageKey "job/code.zip" none = "serverless/s/dev/code.zip" := by decide +kernel
  rw [keys.1] at place
  rw [keys.2] at location
  exact ⟨w.graph, compiled, api, job, compiles, one, two, by decide, found, present, place, location.trans place.symm⟩

/-- The functions share a place, and the layer, whose artifact has another file name, has one of its own. -/
theorem crowded_stores : ∃ graph compiled api job base,
    ((packaged crowded).compileService none).1 = .ok (graph, compiled) ∧
      graph.find? "ApiLambdaFunction" = some api ∧ graph.find? "JobLambdaFunction" = some job ∧
      graph.find? "BaseLambdaLayer" = some base ∧ api.place? "Code" = job.place? "Code" ∧
      api.place? "Code" ≠ base.place? "Content" := by
  obtain ⟨graph, compiled, compiles, -⟩ := compileService_any (packaged crowded) none (fun _ _ => true) (by decide +kernel)
  obtain ⟨stored, shared⟩ := compileService_stores crowded (packaged crowded).files (packaged crowded).registry false
    (by decide +kernel) (by decide +kernel) none graph compiled compiles
  obtain ⟨⟨_, one, rfl⟩, _, two, rfl⟩ := crowded_carries
  have layer : crowded.Carries (Naming.layer "base") "Content" "base.zip" :=
    .layer "base" _ _ (List.mem_singleton.mpr rfl) (by rfl)
  obtain ⟨api, found, -⟩ := stored _ _ _ one
  obtain ⟨job, present, -⟩ := stored _ _ _ two
  obtain ⟨base, there, -⟩ := stored _ _ _ layer
  refine ⟨graph, compiled, api, job, base, compiles, found, present, there, ?_, ?_⟩
  · exact (shared _ _ _ one _ _ _ two api job found present).mpr (by decide +kernel)
  · intro same
    have names := (shared _ _ _ one _ _ _ layer api base found there).mp same
    exact absurd names (by decide +kernel)

end Blueprint

end FunctionStack
