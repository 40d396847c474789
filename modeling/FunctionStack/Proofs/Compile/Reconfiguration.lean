import FunctionStack.Proofs.Compile.Permissions
import FunctionStack.Proofs.Compile.Twins
import FunctionStack.Proofs.Template.Reordering

/-!
Settings that are no part of a version: tags, concurrency, the URL, asynchronous calls, what a function comes after, its
condition and its logs. Services that differ in nothing else have the same versions.
-/

namespace FunctionStack

/-- A function without the settings that no version holds. -/
def FunctionConfig.versionPart (function : FunctionConfig) : FunctionConfig :=
  { function with
    tags := []
    reservedConcurrency := none
    provisionedConcurrency := none
    url := none
    destinations := none
    maximumEventAge := none
    maximumRetryAttempts := none
    condition := none
    dependsOn := []
    disableLogs := false }

def ProviderConfig.versionPart (provider : ProviderConfig) : ProviderConfig :=
  { provider with tags := [], logRetentionInDays := none }

/-- A service without the settings that no version holds. -/
def ServiceConfig.versionPart (service : ServiceConfig) : ServiceConfig :=
  { service with
    provider := service.provider.versionPart
    functions := service.functions.mapValues FunctionConfig.versionPart }

namespace Compute

theorem canonical_tags (function : FunctionConfig) (provider : ProviderConfig) (isImage : Bool) :
    Version.canonicalProperties (tags function provider) isImage = [] := by
  unfold tags
  split
  · cases isImage <;> rfl
  · rw [Version.canonicalProperties_drop _ _ _ _ (by decide)]
    cases isImage <;> rfl

theorem canonical_reserved (number : Option Int) (isImage : Bool) :
    Version.canonicalProperties (integerField "ReservedConcurrentExecutions" number) isImage = [] := by
  cases number <;> cases isImage <;> rfl

/-- Of the settings that no version holds, only tags and reserved concurrency are properties of a function at all. -/
theorem canonical_versionPart (service : ServiceConfig) (provider : ProviderConfig) (name : String)
    (function : FunctionConfig) (code : Code) (role : Role) (isImage : Bool) :
    Version.canonicalProperties (plainProperties service provider name function code role) isImage =
      Version.canonicalProperties
        (plainProperties service.versionPart provider.versionPart name function.versionPart code role) isImage := by
  simp only [plainProperties, Version.canonicalProperties_append, canonical_tags, canonical_reserved, List.append_nil]
  rfl

end Compute

namespace Blueprint

section Reconfigured

variable {service other : ServiceConfig} {files : Files} {registry : Registry} {enforce : Bool}
  (same : other.versionPart = service.versionPart)

include same

theorem hashesLike_versionPart :
    (ofService service files registry enforce).HashesLike (ofService other files registry enforce) where
  files := rfl
  generation := (congrArg (fun part => (ofService part files registry enforce).generation) same :)
  enforce := rfl
  artifacts := (congrArg ServiceConfig.layerArtifact same :)

/-- Next to the default role and the log groups the core graph is made without what no version holds. -/
theorem core_versionPart (core again : Graph) (seeded : Core.graph service = .ok core) (too : Core.graph other = .ok again)
    (id : String) (apart : id ≠ defaultExecutionRole) (own : id ∉ Naming.logGroups service.functions)
    (theirs : id ∉ Naming.logGroups other.functions) : again.find? id = core.find? id := by
  refine Core.graph_elsewhere service other core again seeded too (congrArg Core.bucketSeeds same :) ?_
    (congrArg ServiceConfig.resources same :) id apart own theirs
  rw [Core.layerSeeds_congr service other (congrArg ServiceConfig.layerArtifact same :) (congrArg Core.layer same :),
    show other.layers = service.layers from (congrArg ServiceConfig.layers same :)]

/-- Plans for one function resemble each other, whatever its settings that no version holds. -/
theorem Makes.resembles {plan twin : Plan} {session : RegistrySession} {graph after : Graph}
    (one : (ofService service files registry enforce).Makes session graph plan)
    (two : (ofService other files registry enforce).Makes session after twin) (name : twin.name = plan.name)
    (function : twin.function.versionPart = plan.function.versionPart) (isImage : Bool) :
    plan.Resembles (ofService service files registry enforce) (ofService other files registry enforce) isImage twin := by
  have provider : other.provider.versionPart = service.provider.versionPart := congrArg ServiceConfig.provider same
  have roles : Role.ofFunction twin.function other.provider = Role.ofFunction plan.function service.provider :=
    (congrArg₂ Role.ofFunction function provider :)
  have codes : (ofService other files registry enforce).codeFrom plan.name twin.function session =
      (ofService service files registry enforce).codeFrom plan.name plan.function session :=
    (congrArg₂ (fun part settings => (ofService part files registry enforce).codeFrom plan.name settings session) same
      function :)
  have role : twin.role = plan.role := Except.ok.inj (two.role.symm.trans (roles.trans one.role))
  have code : twin.code = plan.code := by
    have made := two.code
    rw [name, codes, one.code] at made
    exact (Except.ok.inj made).symm
  refine ⟨name, (congrArg FunctionConfig.snapStart function :), ?_, congrArg Code.artifact code,
    congrArg Code.imageDigest code, (congrArg₂ layerIds function provider :)⟩
  rw [Plan.plainProperties, Plan.plainProperties, name, role, code]
  calc
    _ = _ := Compute.canonical_versionPart _ _ _ _ _ _ _
    _ = _ := (congrArg₂ (fun part settings => Version.canonicalProperties
      (Compute.plainProperties part part.provider plan.name settings plan.code plan.role) isImage) same function :)
    _ = _ := (Compute.canonical_versionPart _ _ _ _ _ _ _).symm

end Reconfigured

/-- No layer of a function is the default role, a log group or anything else that is made for a function. -/
structure LayersForeign (blueprint : Blueprint) : Prop where
  spared : blueprint.SparesLayers blueprint.functions
  logs : ∀ name function, (name, function) ∈ blueprint.functions → ∀ id ∈ layerIds function blueprint.provider,
    id ∉ Naming.logGroups blueprint.functions

instance (blueprint : Blueprint) : Decidable blueprint.LayersForeign :=
  decidable_of_iff (blueprint.SparesLayers blueprint.functions ∧
      ∀ entry ∈ blueprint.functions, ∀ id ∈ layerIds entry.2 blueprint.provider,
        id ∉ Naming.logGroups blueprint.functions)
    ⟨fun ⟨spared, logs⟩ => ⟨spared, fun _ _ member => logs _ member⟩, fun foreign => ⟨foreign.spared, fun _ => foreign.logs _ _⟩⟩

/-- Services that differ only in settings that no version holds publish the same version of each function that has one in
both, whatever was deployed before. -/
theorem compileService_reconfigured (service other : ServiceConfig) (same : other.versionPart = service.versionPart)
    (files : Files) (registry : Registry) (enforce : Bool)
    (proper : (ofService service files registry enforce).IsProper)
    (regular : (ofService other files registry enforce).IsProper)
    (foreign : (ofService service files registry enforce).LayersForeign)
    (foreignToo : (ofService other files registry enforce).LayersForeign)
    (previous earlier : Option Graph) (graph delivered : Graph) (records compiled : List CompiledFunction)
    (first : ((ofService service files registry enforce).compileService previous).1 = .ok (graph, records))
    (second : ((ofService other files registry enforce).compileService earlier).1 = .ok (delivered, compiled))
    (name : String) (function settings : FunctionConfig) (declared : service.functions.find? name = some function)
    (declaredToo : other.functions.find? name = some settings)
    (versioned : Compute.isVersioned function service.provider = true)
    (versionedToo : Compute.isVersioned settings other.provider = true) :
    ∃ id, publishedVersion records name = some id ∧ publishedVersion compiled name = some id := by
  obtain ⟨core, w, _, _, plans, seeded, built, one, -, rfl⟩ := compileService_ran proper first
  obtain ⟨again, left, _, _, twins, too, made, two, -, rfl⟩ := compileService_ran regular second
  have spared := foreign.spared core seeded w built
  have sparedToo := foreignToo.spared again too left made
  have sound := one.sound proper spared
  have soundToo := two.sound regular sparedToo
  -- The plans are for the same functions in the same order, as far as versions are concerned.
  have parts : twins.map (fun twin => (twin.name, twin.function.versionPart)) =
      plans.map fun plan => (plan.name, plan.function.versionPart) := by
    have functions := congrArg ServiceConfig.functions same
    simp only [ServiceConfig.versionPart, Table.mapValues] at functions
    rw [show other.functions = twins.map Plan.entry from two.entries.symm,
      show service.functions = plans.map Plan.entry from one.entries.symm, List.map_map, List.map_map] at functions
    exact functions
  have resembling (isImage : Bool) : List.Forall₂ (Plan.Resembles (ofService service files registry enforce)
      (ofService other files registry enforce) isImage) plans twins :=
    forall₂_of_map parts fun plan planned twin twinned agree => (sound.makes plan planned).resembles same
      (soundToo.makes twin twinned) (Prod.mk.inj agree).1 (Prod.mk.inj agree).2 isImage
  have part : settings.versionPart = function.versionPart := by
    have found := congrArg (fun part => Table.find? (ServiceConfig.functions part) name) same
    simp only [ServiceConfig.versionPart, Table.find?_mapValues, declared, declaredToo, Option.map_some] at found
    exact Option.some.inj found
  obtain ⟨plan, found, rfl⟩ := Plan.find?_entry plans name function (one.entries ▸ declared)
  have elsewhere := core_versionPart same core again seeded too
  refine one.publishedVersion_agree two (hashesLike_versionPart same) (resembling plan.code.imageDigest.isSome) proper regular
    spared sparedToo (fun name => ?_) name plan.function settings declared declaredToo (fun other same => ?_) versioned
    versionedToo fun id listed => ?_
  · exact elsewhere _ (Naming.function_ne_role name) (Naming.function_not_logGroup name _) (Naming.function_not_logGroup name _)
  · rw [Option.some.inj (found.symm.trans same)]
  · have member := Table.find?_some_mem _ _ _ declared
    have theirs : id ∈ layerIds settings other.provider :=
      (congrArg₂ layerIds part (congrArg ServiceConfig.provider same) :).symm ▸ listed
    rw [elsewhere id (spared _ _ member id listed).1 (foreign.logs _ _ member id listed)
      (foreignToo.logs _ _ (Table.find?_some_mem _ _ _ declaredToo) id theirs)]

/-- The gate with other settings everywhere outside its versions. -/
def gateReconfigured : ServiceConfig :=
  { gate with
    provider := { gate.provider with tags := [("team", .str "core")], logRetentionInDays := some 7 }
    functions := gate.functions.mapValues fun function => { function with
      tags := [("tier", .str "front")]
      reservedConcurrency := some 3
      provisionedConcurrency := none
      url := none
      destinations := none
      maximumEventAge := some 60
      maximumRetryAttempts := some 1
      condition := some "Live"
      dependsOn := ["BaseLambdaLayer"]
      disableLogs := true } }

theorem gateReconfigured_versionPart : gateReconfigured.versionPart = gate.versionPart := by
  simp only [ServiceConfig.versionPart, gateReconfigured, Table.mapValues, List.map_map]
  rfl

/-- The gate keeps the version of its first function, although it loses its URL. -/
theorem gate_reconfigured : ∃ graph records delivered compiled id,
    ((packaged gate).compileService none).1 = .ok (graph, records) ∧
      ((packaged gateReconfigured).compileService none).1 = .ok (delivered, compiled) ∧
      publishedVersion records "api" = some id ∧ publishedVersion compiled "api" = some id ∧
      (records.any fun record => record.url.isSome) ∧ !compiled.any fun record => record.url.isSome := by
  have known (service : ServiceConfig) := (Option.any_eq_true (Compute.isVersioned · service.provider)
    (Table.find? service.functions "api")).mp
  obtain ⟨function, declared, versioned⟩ := known gate (by decide +kernel)
  obtain ⟨settings, declaredToo, versionedToo⟩ := known gateReconfigured (by decide +kernel)
  obtain ⟨graph, records, first, has⟩ := compileService_any (packaged gate) none
    (fun _ records => records.any fun record => record.url.isSome) (by decide +kernel)
  obtain ⟨delivered, compiled, second, lost⟩ := compileService_any (packaged gateReconfigured) none
    (fun _ records => !records.any fun record => record.url.isSome) (by decide +kernel)
  obtain ⟨id, kept, again⟩ := compileService_reconfigured gate gateReconfigured gateReconfigured_versionPart
    (packaged gate).files (packaged gate).registry false (by decide +kernel) (by decide +kernel) (by decide +kernel)
    (by decide +kernel) none none graph delivered records compiled first second "api" function settings declared declaredToo
    versioned versionedToo
  exact ⟨graph, records, delivered, compiled, id, first, second, kept, again, has, lost⟩

end Blueprint

end FunctionStack
