import FunctionStack.Proofs.Compile.Twins

/-!
Resources that a service declares itself. A core graph has them next to resources of a few other types, and what a compiled
graph has beyond those is declared or has been placed for a function.
-/

namespace FunctionStack

open Value (Tidy tidy_single tidy_text tidy_texts)

/-- The block of resources holds this one under this id. -/
def ServiceConfig.Declares (service : ServiceConfig) (id : String) (resource : Resource) : Prop :=
  ∃ block value, Fields.entries service.resources "Resources" = .ok block ∧ Table.find? block id = some value ∧
    Resource.ofValue value = .ok resource

/-- The block of resources leaves the default role alone. -/
def ServiceConfig.LeavesRole (service : ServiceConfig) : Prop :=
  ∀ block, Fields.entries service.resources "Resources" = .ok block → defaultExecutionRole ∉ Table.keys block

instance (service : ServiceConfig) : Decidable service.LeavesRole :=
  decidable_of_iff ((Fields.entries service.resources "Resources").toOption.all
    fun block => decide (defaultExecutionRole ∉ Table.keys block)) <| by
  unfold ServiceConfig.LeavesRole
  cases Fields.entries service.resources "Resources" <;> simp [Except.toOption]

namespace Value

theorem orElse_isProper (value other : Value) (proper : value.isProper = true) (regular : other.isProper = true) :
    (value.orElse other).isProper = true := by
  unfold orElse
  split <;> assumption

theorem find?_isProper (fields : Fields) (key : String) (proper : (Value.obj fields).isProper = true) :
    ((Table.find? fields key).getD .null).isProper = true := by
  cases found : Table.find? fields key with
  | none => rfl
  | some value => exact field?_isProper proper key found

end Value

theorem Resource.dependencies_isProper (value : Value) (ids : List Value) (read : dependencies value = .ok ids)
    (proper : value.isProper = true) : ∀ id ∈ ids, id.isProper = true := by
  cases value with
  | arr items =>
      cases read
      rwa [Value.isProper, Value.areProper_iff] at proper
  | str text =>
      cases read
      intro id member
      rw [List.mem_singleton.mp member]
      rfl
  | obj fields =>
      cases read
      intro id member
      obtain ⟨field, _, rfl⟩ := List.mem_map.mp member
      rfl
  | _ => cases read

theorem Resource.ofValue_isProper (value : Value) (resource : Resource) (read : ofValue value = .ok resource)
    (proper : value.isProper = true) : resource.IsProper := by
  cases value with
  | obj data =>
      simp only [ofValue] at read
      split at read
      · cases read
      case h_2 type found =>
        obtain ⟨ids, listed, same⟩ := (Result.bind_ok _ _ _).mp read
        cases same
        have part (key : String) := Value.find?_isProper data key proper
        exact {
          type := Value.field?_isProper proper _ found
          properties := Value.orElse_isProper _ _ (part _) rfl
          dependsOn := dependencies_isProper _ ids listed (Value.orElse_isProper _ _ (part _) rfl)
          condition := part _
          deletionPolicy := part _ }
  | _ => cases read

theorem Fields.entries_isProper {fields entries : Fields} (key : String) (proper : (Value.obj fields).isProper = true)
    (listed : Fields.entries fields key = .ok entries) : (Value.obj entries).isProper = true := by
  have whole := Value.orElse_isProper _ (.obj []) (Value.find?_isProper fields key proper) rfl
  unfold Fields.entries at listed
  split at listed
  case h_1 own held =>
    cases listed
    rwa [held] at whole
  case h_2 => cases listed

theorem ServiceConfig.Declares.isProper {service : ServiceConfig} {id : String} {resource : Resource}
    (declares : service.Declares id resource) (proper : (Value.obj service.resources).isProper = true) :
    resource.IsProper := by
  obtain ⟨block, value, listed, found, read⟩ := declares
  have whole := Fields.entries_isProper "Resources" proper listed
  exact Resource.ofValue_isProper value resource read (Value.field?_isProper whole id found)

/-- Whatever is added is there in the end, or something that equals it. -/
theorem Graph.addAll_fits (graph after : Graph) (resources : Table Resource) (added : graph.addAll resources = .ok after)
    (id : String) (resource : Resource) (member : (id, resource) ∈ resources) :
    ∃ held, after.find? id = some held ∧ held.Fits resource := by
  induction resources generalizing graph with
  | nil => cases member
  | cons entry rest ih =>
      obtain ⟨known, first⟩ := entry
      obtain ⟨next, placed, others⟩ := (addAll_cons graph after known first rest).mp added
      rcases List.mem_cons.mp member with same | later
      · cases same
        obtain ⟨held, found, fits⟩ := (add_grows graph next id resource placed).fits id resource (List.mem_singleton.mpr rfl)
        refine ⟨held, ?_, fits⟩
        rw [addAll_lookup next after rest others, Table.find?_append, show next.resources.find? id = some held from found,
          Option.some_or]
      · exact ih next others later

theorem Graph.readResources_mem (block : Fields) (resources : Table Resource) (read : readResources block = .ok resources)
    (id : String) (value : Value) (member : (id, value) ∈ block) :
    ∃ resource, Resource.ofValue value = .ok resource ∧ (id, resource) ∈ resources := by
  induction block generalizing resources with
  | nil => cases member
  | cons entry rest ih =>
      simp only [readResources, Result.bind_ok, Result.pure_ok] at read
      obtain ⟨first, made, others, more, rfl⟩ := read
      rcases List.mem_cons.mp member with rfl | later
      · exact ⟨first, made, List.mem_cons_self ..⟩
      · obtain ⟨resource, reads, listed⟩ := ih others more later
        exact ⟨resource, reads, List.mem_cons_of_mem _ listed⟩

theorem Graph.readResources_find? (block : Fields) (resources : Table Resource)
    (read : readResources block = .ok resources) (id : String) (resource : Resource)
    (found : resources.find? id = some resource) :
    ∃ value, Table.find? block id = some value ∧ Resource.ofValue value = .ok resource := by
  induction block generalizing resources with
  | nil =>
      cases read
      cases found
  | cons entry rest ih =>
      obtain ⟨known, value⟩ := entry
      simp only [readResources, Result.bind_ok, Result.pure_ok] at read
      obtain ⟨first, made, others, more, rfl⟩ := read
      rw [Table.find?_cons] at found ⊢
      split at found
      case isTrue here =>
        cases found
        exact ⟨value, if_pos here, made⟩
      case isFalse elsewhere =>
        rw [if_neg elsewhere]
        exact ih others more found

namespace Core

/-- The types of what a core graph has by itself. -/
def ownTypes : List String :=
  ["AWS::S3::Bucket", "AWS::IAM::Role", "AWS::Logs::LogGroup", "AWS::Lambda::LayerVersion"]

/-- What a core graph has by itself. -/
inductive Own (service : ServiceConfig) : String → Resource → Prop
  | bucket : Own service deploymentBucketId bucketResource
  | role : Own service defaultExecutionRole (executionRole service)
  | log (name : String) : Own service (Naming.logGroup name) (logGroup service name)
  | layer (name : String) (config : LayerConfig) (artifact : String) :
      Own service (Naming.layer name) (layer service name config artifact)

theorem Own.type {service : ServiceConfig} {id : String} {resource : Resource} (own : Own service id resource) :
    ∃ type ∈ ownTypes, resource.type = .str type := by
  cases own with
  | bucket => exact ⟨"AWS::S3::Bucket", by decide, rfl⟩
  | role => exact ⟨"AWS::IAM::Role", by decide, rfl⟩
  | log => exact ⟨"AWS::Logs::LogGroup", by decide, rfl⟩
  | layer => exact ⟨"AWS::Lambda::LayerVersion", by decide, rfl⟩

theorem layerSeeds_own (service : ServiceConfig) (layers : List (String × LayerConfig)) (seeds : Table Resource)
    (packaged : layerSeeds service layers = .ok seeds) : ∀ entry ∈ seeds, Own service entry.1 entry.2 := by
  induction layers generalizing seeds with
  | nil =>
      cases packaged
      exact fun _ member => by cases member
  | cons entry rest ih =>
      simp only [layerSeeds, Result.bind_ok, Result.pure_ok] at packaged
      obtain ⟨_, _, others, made, rfl⟩ := packaged
      exact List.forall_mem_cons.mpr ⟨.layer _ _ _, ih others made⟩

theorem Seeds.own {service : ServiceConfig} (seeds : Seeds service) :
    ∀ entry ∈ bucketSeeds service ++ roleSeeds service seeds.uses ++ logSeeds service service.functions ++ seeds.layers,
      Own service entry.1 entry.2 := by
  intro entry member
  rcases List.mem_append.mp member with member | layer
  · rcases List.mem_append.mp member with member | log
    · rcases List.mem_append.mp member with bucket | role
      · unfold bucketSeeds at bucket
        split at bucket
        · cases bucket
        · rw [List.mem_singleton.mp bucket]
          exact .bucket
      · unfold roleSeeds at role
        split at role
        · rw [List.mem_singleton.mp role]
          exact .role
        · cases role
    · obtain ⟨_, _, rfl⟩ := List.mem_map.mp log
      exact .log _
  · exact layerSeeds_own service service.layers seeds.layers seeds.packaged entry layer

/-- Whatever is in a core graph is its own or has been declared. -/
theorem graph_origin (service : ServiceConfig) (core : Graph) (seeded : Core.graph service = .ok core) (id : String)
    (resource : Resource) (found : core.find? id = some resource) :
    Own service id resource ∨ service.Declares id resource := by
  obtain ⟨seeds, lookup⟩ := graph_lookup service core seeded
  obtain ⟨block, listed, read⟩ := seeds.read
  rw [lookup, Seeds.all, Table.find?_append] at found
  rcases Option.or_eq_some_iff.mp found with own | ⟨_, declared⟩
  · exact Or.inl (seeds.own _ (Table.find?_some_mem _ _ _ own))
  · obtain ⟨value, written, made⟩ := Graph.readResources_find? block seeds.declared read id resource declared
    exact Or.inr ⟨block, value, listed, written, made⟩

/-- Whatever a core graph is made of is in it, or something that equals it. -/
theorem graph_fits (service : ServiceConfig) (core : Graph) (seeded : Core.graph service = .ok core) :
    ∃ seeds : Seeds service, ∀ id resource, (id, resource) ∈ seeds.all →
      ∃ held, core.find? id = some held ∧ held.Fits resource := by
  obtain ⟨seeds, full, added, rfl⟩ := (graph_iff service core).mp seeded
  refine ⟨seeds, fun id resource member => ?_⟩
  rw [Graph.find?, addDeclaredOutputs_resources]
  exact Graph.addAll_fits _ full seeds.all added id resource member

theorem logGroup_named (service : ServiceConfig) (name : String) :
    (logGroup service name).properties.field? "LogGroupName" =
      some (.str ("/aws/lambda/" ++ service.deployedName name none none)) := rfl

theorem executionRole_isProper (service : ServiceConfig) : (executionRole service).IsProper := by
  refine Resource.make_isProper _ _ none ?_
  split <;> rfl

theorem logGroup_isProper (service : ServiceConfig) (name : String) : (logGroup service name).IsProper := by
  refine Resource.make_isProper _ _ (some name) ?_
  split <;> rfl

theorem layer_isProper (service : ServiceConfig) (name : String) (config : LayerConfig) (artifact : String) :
    (layer service name config artifact).IsProper := by
  have location : (Value.obj [("S3Bucket", service.provider.bucket),
      ("S3Key", .str (service.storageKey artifact none))]).isProper = true := by
    have bucket : service.provider.bucket.isProper = true := by
      unfold ProviderConfig.bucket
      split <;> rfl
    exact ((tidy_single "S3Key" rfl).cons "S3Bucket" bucket).isProper (by decide)
  have named : Tidy ["Content", "LayerName"] [
      ("Content", .obj [("S3Bucket", service.provider.bucket), ("S3Key", .str (service.storageKey artifact none))]),
      ("LayerName", .str ((Text.given config.name).getD name))] := (tidy_single "LayerName" rfl).cons "Content" location
  have properties := ((((named.append (tidy_text "Description" config.description)).append
    (tidy_texts "CompatibleRuntimes" config.compatibleRuntimes)).append
    (tidy_texts "CompatibleArchitectures" config.compatibleArchitectures)).append
    (tidy_text "LicenseInfo" config.licenseInfo)).isProper (by decide)
  exact { Resource.make_isProper _ _ (some name) properties with
    deletionPolicy := by
      change (if config.retain then Resource.retainPolicy else .null).isProper = true
      split <;> rfl }

theorem Own.isProper {service : ServiceConfig} {id : String} {resource : Resource} (own : Own service id resource) :
    resource.IsProper := by
  cases own with
  | bucket => exact Resource.make_isProper _ _ none rfl
  | role => exact executionRole_isProper service
  | log name => exact logGroup_isProper service name
  | layer name config artifact => exact layer_isProper service name config artifact

/-- Whatever a core graph holds is proper, be it its own or declared. -/
theorem graph_holds_proper (service : ServiceConfig) (core : Graph) (seeded : Core.graph service = .ok core)
    (regular : (Value.obj service.resources).isProper = true) (id : String) (resource : Resource)
    (found : core.find? id = some resource) : resource.IsProper := by
  rcases graph_origin service core seeded id resource found with own | declares
  · exact own.isProper
  · exact declares.isProper regular

/-- Each function that logs has a log group, whose name is the one that the function is deployed under. -/
theorem graph_logs (service : ServiceConfig) (core : Graph) (seeded : Core.graph service = .ok core)
    (regular : (Value.obj service.resources).isProper = true) (name : String) (function : FunctionConfig)
    (declared : (name, function) ∈ service.functions) (logs : function.disableLogs = false) :
    ∃ group, core.find? (Naming.logGroup name) = some group ∧ group.type = .str "AWS::Logs::LogGroup" ∧
      group.properties.field? "LogGroupName" = some (.str ("/aws/lambda/" ++ service.deployedName name none none)) := by
  obtain ⟨seeds, all⟩ := graph_fits service core seeded
  have listed : (Naming.logGroup name, logGroup service name) ∈ seeds.all := by
    have member : (Naming.logGroup name, logGroup service name) ∈ logSeeds service service.functions :=
      List.mem_map.mpr ⟨(name, function), List.mem_filter.mpr ⟨declared, by simp [logs]⟩, rfl⟩
    simp only [Seeds.all, List.mem_append]
    exact Or.inl (Or.inl (Or.inr member))
  obtain ⟨group, found, fits⟩ := all _ _ listed
  have type := (fits.type_iff "AWS::Logs::LogGroup").mpr rfl
  have proper := graph_holds_proper service core seeded regular _ group found
  exact ⟨group, found, type, fits.rigid proper.properties _ _ (.str _) (logGroup_named service name)⟩

/-- A default role that is not declared is the execution role. -/
theorem graph_executionRole (service : ServiceConfig) (core : Graph) (seeded : Core.graph service = .ok core)
    (leaves : service.LeavesRole) (role : Resource) (found : core.find? defaultExecutionRole = some role) :
    role = executionRole service := by
  rcases graph_origin service core seeded _ role found with own | ⟨block, value, listed, written, _⟩
  · generalize taken : defaultExecutionRole = id at own
    cases own with
    | bucket => exact absurd taken (by decide)
    | role => rfl
    | log name => exact absurd taken.symm (Naming.logGroup_ne_role name)
    | layer name => exact absurd taken.symm (Naming.layer_ne_role name)
  · have named := (Table.has_iff_keys block _).mp ((Table.has_iff_mem block _).mpr ⟨value, Table.find?_some_mem _ _ _ written⟩)
    exact absurd named (leaves block listed)

/-- The policy of a core graph is bound without a change. -/
theorem graph_bound (service : ServiceConfig) (core : Graph) (seeded : Core.graph service = .ok core)
    (leaves : service.LeavesRole) : ∃ policy, ExecutionPolicy.ofGraph core = .ok (core, policy) := by
  cases found : core.find? defaultExecutionRole with
  | none => exact ⟨none, by rw [ExecutionPolicy.ofGraph, found]⟩
  | some role =>
      have same := graph_executionRole service core seeded leaves role found
      have complete : ExecutionPolicy.IsComplete role.properties := same ▸ completeRole_executionRole service
      exact ⟨_, ExecutionPolicy.ofGraph_complete core (graph_distinct service core seeded).1.ids role found complete⟩

/-- What is not of its own types has been declared. -/
theorem graph_declares (service : ServiceConfig) (core : Graph) (seeded : Core.graph service = .ok core) (id : String)
    (resource : Resource) (found : core.find? id = some resource) (foreign : ∀ own ∈ ownTypes, resource.type ≠ .str own) :
    service.Declares id resource := by
  refine (graph_origin service core seeded id resource found).resolve_left fun own => ?_
  obtain ⟨type, among, same⟩ := own.type
  exact foreign type among same

end Core

namespace Plan.Kind

theorem type_foreign (kind : Kind) : ∀ own ∈ Core.ownTypes, Value.str kind.type ≠ .str own := by
  intro own member same
  cases same
  revert member
  cases kind <;> decide

end Plan.Kind

namespace Blueprint

variable {blueprint : Blueprint} {core start : Graph} {session : RegistrySession} {w : Workspace}
  {policy : Option ExecutionPolicy} {plans : List Plan} (took : blueprint.Took core session w start policy plans)

include took

theorem Took.planned (name : String) (function : FunctionConfig) (declared : (name, function) ∈ blueprint.functions) :
    ∃ plan ∈ plans, plan.name = name ∧ plan.function = function := by
  obtain ⟨plan, planned, same⟩ := List.mem_map.mp (took.entries.symm ▸ declared)
  exact ⟨plan, planned, Prod.mk.inj same⟩

/-- The default role keeps its type, whatever it is asked for. -/
theorem Took.role_type (role : Resource) (found : w.graph.find? defaultExecutionRole = some role) :
    ∃ own, core.find? defaultExecutionRole = some own ∧ own.type = role.type := by
  have begun (held : Resource) (present : start.find? defaultExecutionRole = some held) :
      ∃ own, core.find? defaultExecutionRole = some own ∧ own.type = held.type := by
    rcases ExecutionPolicy.ofGraph_ok core start policy took.begins with ⟨_, rfl, _⟩ | ⟨own, properties, there, _, rfl, _⟩
    · exact ⟨held, present, rfl⟩
    · rw [ExecutionPolicy.setProperties_find?, there, Option.map_some, if_pos rfl, Option.some.injEq] at present
      exact ⟨own, there, by rw [← present]⟩
  cases took.performed.answered with
  | idle _ _ kept => exact begun role (kept.symm.trans found)
  | apart _ _ _ kept => exact begun role (kept.symm.trans found)
  | inRole statements held _ _ present _ _ changed =>
      obtain ⟨own, there, type⟩ := begun held present
      refine ⟨own, there, type.trans ?_⟩
      rw [← Option.some.inj (changed.symm.trans found)]

/-- What is in a compiled graph beyond the types of the core graph is declared or has been placed for a function. -/
theorem Took.origin (seeded : Core.graph blueprint.service = .ok core) (id : String) (held : Resource)
    (found : w.graph.find? id = some held) (foreign : ∀ own ∈ Core.ownTypes, held.type ≠ .str own) :
    (∃ own, blueprint.service.Declares id own ∧ (id ≠ defaultExecutionRole → own = held)) ∨
      ∃ plan ∈ plans, ∃ kind, plan.Places blueprint kind id held := by
  by_cases apart : id = defaultExecutionRole
  · subst apart
    obtain ⟨own, there, type⟩ := took.role_type held found
    exact Or.inl ⟨own, Core.graph_declares _ core seeded _ own there (type ▸ foreign), fun different => absurd rfl different⟩
  · rw [took.elsewhere id apart] at found
    rcases Option.or_eq_some_iff.mp found with seed | ⟨_, placed⟩
    · exact Or.inl ⟨held, Core.graph_declares _ core seeded id held seed foreign, fun _ => rfl⟩
    · exact Or.inr ((course_placed blueprint plans id held).mp (Table.find?_some_mem _ _ _ placed))

/-- What stands in the place of a resource of a function is of its type and proper, even where it was declared before. -/
theorem Took.holds_proper (seeded : Core.graph blueprint.service = .ok core) (proper : blueprint.IsProper)
    (regular : (Value.obj blueprint.service.resources).isProper = true) {plan : Plan} (planned : plan ∈ plans)
    {kind : Plan.Kind} {id : String} {resource : Resource} (places : plan.Places blueprint kind id resource) :
    ∃ held, w.graph.find? id = some held ∧ held.Fits resource ∧ held.type = .str kind.type ∧
      held.properties.isProper = true := by
  obtain ⟨held, found, fits⟩ :=
    took.grows.fits id resource ((course_placed blueprint plans id resource).mpr ⟨plan, planned, kind, places⟩)
  have type := (fits.type_iff _).mpr places.type
  refine ⟨held, found, fits, type, ?_⟩
  rcases took.origin seeded id held found (type ▸ kind.type_foreign) with ⟨own, declares, same⟩ | ⟨source, listed, _, placed⟩
  · exact same places.ne_role ▸ (declares.isProper regular).properties
  · obtain ⟨_, _, makes⟩ := took.made source listed
    exact (placed.isProper makes (proper.functions _ _ (took.declared source listed)) proper.provider).properties

end Blueprint

end FunctionStack
