import FunctionStack.Proofs.Compile.Permissions
import FunctionStack.Proofs.Compile.Twins
import FunctionStack.Proofs.Template.Reordering

/-!
Where code is stored. A function's own code may be moved without a new version, and so may its layers within one bucket; the
bucket of a layer is part of the version.
-/

namespace FunctionStack

/-- A service with its code in another bucket, or in another directory of it. -/
def ServiceConfig.relocated (service : ServiceConfig) (bucket directory : Option String) : ServiceConfig :=
  { service with
    provider := { service.provider with deploymentBucket := bucket }
    package := { service.package with artifactDirectoryName := directory } }

variable {service : ServiceConfig} {bucket directory : Option String}

namespace Core

/-- What a version holds of a layer: its properties, and of its place the bucket. -/
theorem layerProperties_layer (name : String) (config : LayerConfig) (artifact : String) :
    Version.layerProperties (layer service name config artifact).properties =
      .ok ([("Content", .obj [("S3Bucket", service.provider.bucket)]),
        ("LayerName", .str ((Text.given config.name).getD name))] ++ optionalText "Description" config.description ++
        optionalTexts "CompatibleRuntimes" config.compatibleRuntimes ++
        optionalTexts "CompatibleArchitectures" config.compatibleArchitectures ++
        optionalText "LicenseInfo" config.licenseInfo) := rfl

/-- Layers that stay in their bucket keep the snapshots that versions hold of them. -/
theorem layerSeeds_snapshots (same : (service.relocated bucket directory).provider.bucket = service.provider.bucket)
    (layers : List (String × LayerConfig)) (own theirs : Table Resource) (packaged : layerSeeds service layers = .ok own)
    (again : layerSeeds (service.relocated bucket directory) layers = .ok theirs) (id : String) :
    (theirs.find? id).map (Version.layerSnapshot service.layerArtifact id) =
      (own.find? id).map (Version.layerSnapshot service.layerArtifact id) := by
  induction layers generalizing own theirs with
  | nil =>
      cases packaged
      cases again
      rfl
  | cons entry rest ih =>
      simp only [layerSeeds, Result.bind_ok, Result.pure_ok] at packaged again
      obtain ⟨artifact, found, others, made, rfl⟩ := packaged
      obtain ⟨path, known, more, turned, rfl⟩ := again
      cases found.symm.trans known
      rw [Table.find?_cons, Table.find?_cons]
      split
      · simp only [Option.map_some, Version.layerSnapshot, layerProperties_layer, same]
        rfl
      · exact ih others more made turned

theorem usesDefaultRole_relocated (functions : List (String × FunctionConfig)) :
    usesDefaultRole (service.relocated bucket directory).provider functions = usesDefaultRole service.provider functions := by
  induction functions with
  | nil => rfl
  | cons entry rest ih =>
      rw [usesDefaultRole, usesDefaultRole, ih]
      rfl

/-- The core graph of a relocated service has another bucket and other places in its layers. -/
theorem graph_relocated (core moved : Graph) (seeded : Core.graph service = .ok core)
    (again : Core.graph (service.relocated bucket directory) = .ok moved) :
    ∃ shared own theirs declared, layerSeeds service service.layers = .ok own ∧
      layerSeeds (service.relocated bucket directory) service.layers = .ok theirs ∧
      (∀ id, core.find? id = Table.find? (bucketSeeds service ++ shared ++ own ++ declared) id) ∧
      ∀ id, moved.find? id =
        Table.find? (bucketSeeds (service.relocated bucket directory) ++ shared ++ theirs ++ declared) id := by
  obtain ⟨seeds, lookup⟩ := graph_lookup service core seeded
  obtain ⟨turned, known⟩ := graph_lookup _ moved again
  have uses : turned.uses = seeds.uses :=
    Except.ok.inj (turned.settled.symm.trans ((usesDefaultRole_relocated service.functions).trans seeds.settled))
  refine ⟨roleSeeds service seeds.uses ++ logSeeds service service.functions, seeds.layers, turned.layers, seeds.declared,
    seeds.packaged, turned.packaged, fun id => ?_, fun id => ?_⟩
  · rw [lookup, Seeds.all, ← List.append_assoc]
  · rw [known, Seeds.all, uses, seeds.declared_eq turned rfl, ← List.append_assoc]
    rfl

/-- Neither a function nor a resource that is declared is moved with the code. -/
theorem graph_unmoved (core moved : Graph) (seeded : Core.graph service = .ok core)
    (again : Core.graph (service.relocated bucket directory) = .ok moved) (id : String) (elsewhere : id ≠ deploymentBucketId)
    (own : id ∉ service.layers.keys.map Naming.layer) : moved.find? id = core.find? id := by
  obtain ⟨shared, seeds, turned, declared, packaged, repackaged, lookup, known⟩ := graph_relocated core moved seeded again
  have bucket (service : ServiceConfig) : Table.find? (bucketSeeds service) id = none := by
    rw [Table.find?_none_iff]
    unfold bucketSeeds
    split
    · exact List.not_mem_nil
    · exact fun member => elsewhere (List.mem_singleton.mp member)
  have layers (service : ServiceConfig) (seeds : Table Resource) (keys : seeds.keys = service.layers.keys.map Naming.layer)
      (free : id ∉ service.layers.keys.map Naming.layer) : Table.find? seeds id = none := by
    rwa [Table.find?_none_iff, keys]
  simp only [lookup, known, Table.find?_append, bucket, layers service seeds (layerSeeds_keys _ _ _ packaged) own,
    layers service turned (layerSeeds_keys _ _ _ repackaged) own]

/-- In one bucket, what code is moved away from counts for no version. -/
theorem graph_snapshots (same : (service.relocated bucket directory).provider.bucket = service.provider.bucket)
    (core moved : Graph) (seeded : Core.graph service = .ok core)
    (again : Core.graph (service.relocated bucket directory) = .ok moved) (id : String) :
    (moved.find? id).map (Version.layerSnapshot service.layerArtifact id) =
      (core.find? id).map (Version.layerSnapshot service.layerArtifact id) := by
  obtain ⟨shared, seeds, turned, declared, packaged, repackaged, lookup, known⟩ := graph_relocated core moved seeded again
  have buckets : bucketSeeds (service.relocated bucket directory) = bucketSeeds service := by
    unfold bucketSeeds
    unfold ProviderConfig.bucket at same
    generalize Text.given (service.relocated bucket directory).provider.deploymentBucket = one at same ⊢
    generalize Text.given service.provider.deploymentBucket = two at same ⊢
    cases one <;> cases two <;> first | rfl | cases same
  have layers := layerSeeds_snapshots same service.layers seeds turned packaged repackaged id
  simp only [lookup, known, Table.find?_append, buckets, Option.map_or, layers]

end Core

/-- Of an archive only its place is moved. -/
theorem Compute.archiveCode_relocated (name : String) (function : FunctionConfig) (code moved : Code)
    (one : archiveCode service service.provider name function = .ok code)
    (two : archiveCode (service.relocated bucket directory) (service.relocated bucket directory).provider name function =
      .ok moved) :
    Version.canonicalProperties moved.properties false = Version.canonicalProperties code.properties false ∧
      moved.artifact = code.artifact ∧ moved.imageDigest = code.imageDigest := by
  simp only [archiveCode, Result.bind_ok, Result.pure_ok] at one two
  obtain ⟨management, managed, rfl⟩ := one
  obtain ⟨again, same, rfl⟩ := two
  cases managed.symm.trans same
  refine ⟨?_, rfl, rfl⟩
  simp only [List.cons_append, Version.canonicalProperties_code]
  rfl

namespace Blueprint

variable {files : Files} {registry : Registry} {enforce : Bool}

theorem codeFrom_relocated (name : String) (function : FunctionConfig) (session : RegistrySession) (code moved : Code)
    (one : ((ofService service files registry enforce).codeFrom name function session).1 = .ok code)
    (two : ((ofService (service.relocated bucket directory) files registry enforce).codeFrom name function session).1 =
      .ok moved) :
    Version.canonicalProperties moved.properties false = Version.canonicalProperties code.properties false ∧
      moved.artifact = code.artifact ∧ moved.imageDigest = code.imageDigest := by
  cases imaged : function.hasImage with
  | true =>
      obtain ⟨image, resolved, _, configured, resolution, rfl⟩ := codeFrom_image _ name function session code imaged one
      obtain ⟨_, _, _, again, same, rfl⟩ := codeFrom_image _ name function session moved imaged two
      cases configured.symm.trans again
      cases resolution.symm.trans same
      exact ⟨rfl, rfl, rfl⟩
  | false =>
      have own := codeFrom_archive _ name function session code imaged one
      have theirs := codeFrom_archive _ name function session moved imaged two
      exact Compute.archiveCode_relocated name function code moved own theirs

/-- Plans for one function resemble each other, wherever code is stored, as far as functions with handlers are concerned. -/
theorem Makes.relocated {plan twin : Plan} {session : RegistrySession} {graph after : Graph}
    (one : (ofService service files registry enforce).Makes session graph plan)
    (two : (ofService (service.relocated bucket directory) files registry enforce).Makes session after twin)
    (same : twin.entry = plan.entry) :
    plan.Resembles (ofService service files registry enforce)
      (ofService (service.relocated bucket directory) files registry enforce) false twin := by
  obtain ⟨name, function⟩ := Prod.mk.inj same
  have resolved := two.role
  have made := two.code
  rw [function] at resolved made
  rw [name] at made
  have role : twin.role = plan.role := Except.ok.inj (resolved.symm.trans one.role)
  obtain ⟨properties, artifact, imageDigest⟩ := codeFrom_relocated _ _ _ _ _ one.code made
  refine ⟨name, by rw [function], ?_, artifact, imageDigest, by rw [function]; rfl⟩
  simp only [Plan.plainProperties, Compute.plainProperties, name, function, role, Version.canonicalProperties_append,
    properties]
  rfl

/-- A function with a handler has no image digest. -/
theorem codeFrom_handler (blueprint : Blueprint) (name : String) (function : FunctionConfig) (session : RegistrySession)
    (code : Code) (handler : function.hasImage = false) (made : (blueprint.codeFrom name function session).1 = .ok code) :
    code.imageDigest = none := by
  have archived := codeFrom_archive blueprint name function session code handler made
  simp only [Compute.archiveCode, Result.bind_ok, Result.pure_ok] at archived
  obtain ⟨_, _, rfl⟩ := archived
  rfl

/-- A function with a handler keeps its version when code is stored elsewhere, as long as the bucket stays the same or the
function uses neither that nor a layer of its service. -/
theorem compileService_relocated (service : ServiceConfig) (bucket directory : Option String) (files : Files)
    (registry : Registry) (enforce : Bool) (proper : (ofService service files registry enforce).IsProper)
    (spared : (ofService service files registry enforce).SparesLayers service.functions)
    (sparedToo : (ofService (service.relocated bucket directory) files registry enforce).SparesLayers service.functions)
    (previous earlier : Option Graph) (graph delivered : Graph) (records compiled : List CompiledFunction)
    (first : ((ofService service files registry enforce).compileService previous).1 = .ok (graph, records))
    (second : ((ofService (service.relocated bucket directory) files registry enforce).compileService earlier).1 =
      .ok (delivered, compiled))
    (name : String) (function : FunctionConfig) (declared : service.functions.find? name = some function)
    (handler : function.hasImage = false) (versioned : Compute.isVersioned function service.provider = true)
    (moves : (service.relocated bucket directory).provider.bucket = service.provider.bucket ∨
      ∀ id ∈ layerIds function service.provider,
        id ≠ deploymentBucketId ∧ id ∉ service.layers.keys.map Naming.layer) :
    ∃ id, publishedVersion records name = some id ∧ publishedVersion compiled name = some id := by
  have regular : (ofService (service.relocated bucket directory) files registry enforce).IsProper :=
    ⟨proper.provider, proper.functions⟩
  obtain ⟨core, w, _, _, plans, seeded, built, one, -, rfl⟩ := compileService_ran proper first
  obtain ⟨moved, left, _, _, twins, again, made, two, -, rfl⟩ := compileService_ran regular second
  have apart := spared core seeded w built
  have apartToo := sparedToo moved again left made
  have sound := one.sound proper apart
  have soundToo := two.sound regular apartToo
  have resembling : List.Forall₂ (Plan.Resembles (ofService service files registry enforce)
      (ofService (service.relocated bucket directory) files registry enforce) false) plans twins :=
    forall₂_of_map (two.entries.trans one.entries.symm) fun plan planned twin twinned same =>
      (sound.makes plan planned).relocated (soundToo.makes twin twinned) same
  refine one.publishedVersion_agree two ⟨rfl, rfl, rfl, rfl⟩ resembling proper regular apart apartToo (fun name => ?_) name
    function function declared declared (fun plan found => ?_) versioned versioned fun id listed => ?_
  · have bucket : Naming.function name ≠ deploymentBucketId :=
      Naming.endings_apart (Naming.normalized name) "" "LambdaFunction" deploymentBucketId 5 (by decide) (by decide)
    refine Core.graph_unmoved core moved seeded again _ bucket fun member => ?_
    obtain ⟨layer, _, same⟩ := List.mem_map.mp member
    exact Naming.endings_apart _ _ "LambdaLayer" "LambdaFunction" 5 (by decide) (by decide) same
  · obtain ⟨other, chosen, settings⟩ := Plan.find?_entry plans name function (one.entries ▸ declared)
    rw [found] at chosen
    cases chosen
    have planned := List.mem_of_find?_eq_some found
    rw [codeFrom_handler _ _ _ _ _ (settings ▸ handler) (sound.makes plan planned).code]
    rfl
  · rcases moves with same | elsewhere
    · exact (Core.graph_snapshots same core moved seeded again id).symm
    · rw [Core.graph_unmoved core moved seeded again id (elsewhere id listed).1 (elsewhere id listed).2]

/-- A service with a bucket of its own, a layer, and a function that uses it. -/
def stored : ServiceConfig := .ofFields [
  ("service", .str "s"),
  ("provider", .obj [("deploymentBucket", .str "a"), ("role", .str "arn:")]),
  ("package", .obj [("artifact", .str "code.zip")]),
  ("layers", .obj [("l", .obj [("package", .obj [("artifact", .str "base.zip")])])]),
  ("functions", .obj [
    ("f", .obj [("handler", .str "h"), ("name", .str "f"), ("layers", .arr [.obj [("Ref", .str "LLambdaLayer")]])])])]

theorem stored_spares : (packaged stored).SparesLayers stored.functions := by decide +kernel

theorem stored_versions : ∃ function, stored.functions.find? "f" = some function ∧ function.hasImage = false ∧
    Compute.isVersioned function stored.provider = true := by
  have found : (Table.find? stored.functions "f").any (fun function =>
      !function.hasImage && Compute.isVersioned function stored.provider) = true := by decide +kernel
  obtain ⟨function, declared, versions⟩ := (Option.any_eq_true _ _).mp found
  simp only [Bool.and_eq_true, Bool.not_eq_true'] at versions
  exact ⟨function, declared, versions⟩

/-- In another directory of its bucket the layer has another key, and the function has the version it had. -/
theorem stored_in_another_directory : ∃ graph records delivered compiled id layer moved,
    ((packaged stored).compileService none).1 = .ok (graph, records) ∧
      ((packaged (stored.relocated (some "a") (some "elsewhere"))).compileService none).1 = .ok (delivered, compiled) ∧
      publishedVersion records "f" = some id ∧ publishedVersion compiled "f" = some id ∧
      graph.find? "LLambdaLayer" = some layer ∧ delivered.find? "LLambdaLayer" = some moved ∧
      moved.properties.same layer.properties = false := by
  obtain ⟨function, declared, handler, versioned⟩ := stored_versions
  obtain ⟨graph, records, first, moves⟩ := compileService_any (packaged stored) none (fun graph _ =>
    ((packaged (stored.relocated (some "a") (some "elsewhere"))).compileService none).1.toOption.any fun delivered =>
      (graph.find? "LLambdaLayer").any fun layer => (delivered.1.find? "LLambdaLayer").any fun moved =>
        !moved.properties.same layer.properties) (by decide +kernel)
  obtain ⟨delivered, compiled, second, moved⟩ := compileService_any _ none (fun delivered _ =>
    (graph.find? "LLambdaLayer").any fun layer => (delivered.find? "LLambdaLayer").any fun moved =>
      !moved.properties.same layer.properties) moves
  obtain ⟨layer, has, moved⟩ := (Option.any_eq_true _ _).mp moved
  obtain ⟨again, hasToo, differs⟩ := (Option.any_eq_true _ _).mp moved
  obtain ⟨id, kept, same⟩ := compileService_relocated stored (some "a") (some "elsewhere") (packaged stored).files
    (packaged stored).registry false (by decide +kernel) stored_spares (by decide +kernel) none none graph delivered records
    compiled first second "f" function declared handler versioned (.inl rfl)
  exact ⟨graph, records, delivered, compiled, id, layer, again, first, second, kept, same, has, hasToo,
    by simpa using differs⟩

-- Each of the two hashes is a long evaluation, and has a lemma of its own so that its memory is given back.
theorem stored_version : ((packaged stored).compileService none).1.toOption.any (fun delivered =>
    publishedVersion delivered.2 "f" = some "FLambdaFunctionVersionXTCCy0soOhUjiGZB2FPwgsZnMoqx3P47ZFLyQ8MWHQA") = true := by
  decide +kernel

theorem stored_other_version :
    ((packaged (stored.relocated (some "b") none)).compileService none).1.toOption.any (fun delivered =>
      publishedVersion delivered.2 "f" = some "FLambdaFunctionVersionsejCHjTP3t1nJPkDtgh12XHnrhM8cBKLF6x2s0g0") = true := by
  decide +kernel

/-- In another bucket it has another version, although neither its code nor its layer's is changed. -/
theorem stored_in_another_bucket : ∃ graph records delivered compiled function,
    (packaged stored).SparesLayers stored.functions ∧
      (packaged (stored.relocated (some "b") none)).SparesLayers stored.functions ∧
      stored.functions.find? "f" = some function ∧ function.hasImage = false ∧
      Compute.isVersioned function stored.provider = true ∧
      ((packaged stored).compileService none).1 = .ok (graph, records) ∧
      ((packaged (stored.relocated (some "b") none)).compileService none).1 = .ok (delivered, compiled) ∧
      publishedVersion records "f" ≠ publishedVersion compiled "f" := by
  obtain ⟨function, declared, handler, versioned⟩ := stored_versions
  obtain ⟨graph, records, first, own⟩ := compileService_any (packaged stored) none (fun _ records =>
    publishedVersion records "f" = some "FLambdaFunctionVersionXTCCy0soOhUjiGZB2FPwgsZnMoqx3P47ZFLyQ8MWHQA") stored_version
  obtain ⟨delivered, compiled, second, other⟩ := compileService_any (packaged (stored.relocated (some "b") none)) none
    (fun _ compiled => publishedVersion compiled "f" =
      some "FLambdaFunctionVersionsejCHjTP3t1nJPkDtgh12XHnrhM8cBKLF6x2s0g0") stored_other_version
  refine ⟨graph, records, delivered, compiled, function, stored_spares, by decide +kernel, declared, handler, versioned,
    first, second, ?_⟩
  rw [of_decide_eq_true own, of_decide_eq_true other]
  decide

end Blueprint

end FunctionStack
