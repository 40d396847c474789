import FunctionStack.Proofs.Compile.References

/-!
What each kind of resource mentions: a function its role and its log group, what belongs to a function the function and
the alias it is called through, and an event config the functions it sends to.
-/

namespace FunctionStack

open Value

variable {allowed : String → Prop}

namespace Resource

theorem dependOn_mem (resource : Resource) (ids : List Value) (value : Value)
    (member : value ∈ (resource.dependOn ids).dependsOn) : value ∈ resource.dependsOn ∨ value ∈ ids :=
  (List.mem_append.mp member).imp_right fun fresh => (List.mem_filter.mp fresh).1

theorem dependFirstOn_mem (resource : Resource) (ids : List Value) (value : Value)
    (member : value ∈ (resource.dependFirstOn ids).dependsOn) : value ∈ resource.dependsOn ∨ value ∈ ids :=
  (List.mem_append.mp member).symm.imp_right fun fresh => (List.mem_filter.mp fresh).1

theorem make_mentions (type : String) (fields : Fields) (source : Option String) :
    (make type fields source).Mentions allowed ↔ FieldsRefer allowed fields := by
  rw [mentions_iff, make, refers_obj]
  exact ⟨fun both => both.2, fun refer => ⟨fun id member => (by cases member), refer⟩⟩

theorem mentions_nil (resource : Resource) (none : resource.Mentions fun _ => False) : resource.mentions = [] :=
  List.eq_nil_iff_forall_not_mem.mpr none

theorem nothing_mentioned (resource : Resource) (none : resource.mentions = []) : resource.Mentions allowed := by
  intro id member
  rw [none] at member
  cases member

end Resource

namespace TargetAlias

theorem target_refers (function : String) (via : Option TargetAlias) (known : allowed (Naming.function function)) :
    (target function via).Refers allowed := by
  cases via with
  | none => exact (refers_getAtt _ _).mpr known
  | some via =>
      rw [target, refers_join]
      intro part member
      simp only [List.mem_cons, List.not_mem_nil, or_false] at member
      rcases member with rfl | rfl
      · exact (refers_getAtt _ _).mpr known
      · exact refers_str _

theorem attach_type (resource : Resource) (via : Option TargetAlias) : (attach resource via).type = resource.type := by
  cases via <;> rfl

theorem attach_mentions (resource : Resource) (via : Option TargetAlias) (mentions : resource.Mentions allowed)
    (known : ∀ own, via = some own → allowed own.id) : (attach resource via).Mentions allowed := by
  cases via with
  | none => exact mentions
  | some own =>
      rw [Resource.mentions_iff] at mentions ⊢
      refine ⟨fun id member => ?_, mentions.2⟩
      rcases Resource.dependOn_mem resource _ _ member with before | added
      · exact mentions.1 id before
      · rw [Value.str.inj (List.mem_singleton.mp added)]
        exact known own rfl

theorem resource_mentions (via : TargetAlias) (function version : String) (extra : Fields)
    (called : allowed (Naming.function function)) (published : allowed version)
    (refer : FieldsRefer allowed extra) : (via.resource function version extra).Mentions allowed := by
  rw [Resource.mentions_iff]
  refine ⟨fun id member => ?_, ?_⟩
  · rw [Value.str.inj (List.mem_singleton.mp member)]
    exact called
  · change (Value.obj _).Refers allowed
    rw [refers_obj, fieldsRefer_append, fieldsRefer_cons _ _ _ rfl, fieldsRefer_cons _ _ _ rfl,
      fieldsRefer_single _ _ rfl]
    exact ⟨⟨(refers_ref _).mpr called, (refers_getAtt _ _).mpr published, refers_str _⟩, refer⟩

end TargetAlias

theorem Version.resource_mentions (name : String) (digest : VersionDigest) (description : Option String)
    (called : allowed (Naming.function name)) : (Version.resource name digest description).Mentions allowed := by
  rw [Resource.mentions_iff]
  refine ⟨fun id member => (by cases member), ?_⟩
  change (Value.obj _).Refers allowed
  rw [refers_obj, fieldsRefer_append, fieldsRefer_cons _ _ _ rfl, fieldsRefer_single _ _ rfl]
  refine ⟨⟨(refers_ref _).mpr called, refers_str _⟩, ?_⟩
  split
  · exact (fieldsRefer_single _ _ rfl).mpr (refers_str _)
  · exact fieldsRefer_nil

namespace CorsPolicy

theorem properties_refer (policy : CorsPolicy) : FieldsRefer allowed policy.properties := by
  have list (key : String) (plain : isPlainKey key = true) (items : Option (List String)) :
      FieldsRefer allowed (listField key items) := fieldsRefer_elim _ _ _ plain fun texts _ => refers_texts texts
  unfold properties
  simp only [fieldsRefer_append]
  refine ⟨⟨⟨⟨⟨?_, list _ rfl _⟩, list _ rfl _⟩, list _ rfl _⟩, list _ rfl _⟩,
    fieldsRefer_elim _ _ _ rfl fun seconds _ => refers_int seconds⟩
  split
  · exact (fieldsRefer_single _ _ rfl).mpr (refers_bool _)
  · exact fieldsRefer_nil

end CorsPolicy

namespace Url

theorem resource_mentions (function : String) (url : UrlConfig) (via : Option TargetAlias)
    (called : allowed (Naming.function function)) (known : ∀ own, via = some own → allowed own.id) :
    (resource function url via).Mentions allowed := by
  apply TargetAlias.attach_mentions _ via _ known
  rw [Resource.make_mentions, properties]
  simp only [fieldsRefer_append]
  refine ⟨⟨?_, ?_⟩, ?_⟩
  · rw [fieldsRefer_cons _ _ _ rfl, fieldsRefer_single _ _ rfl]
    exact ⟨refers_str _, TargetAlias.target_refers function via called⟩
  · exact fieldsRefer_elim _ _ _ rfl fun cors _ => (refers_obj _).mpr cors.properties_refer
  · split
    · exact (fieldsRefer_single _ _ rfl).mpr (refers_str _)
    · exact fieldsRefer_nil

theorem permission_mentions (function : String) (via : Option TargetAlias)
    (called : allowed (Naming.function function)) (known : ∀ own, via = some own → allowed own.id) :
    (permission function via).Mentions allowed := by
  apply TargetAlias.attach_mentions _ via _ known
  rw [Resource.make_mentions, fieldsRefer_cons _ _ _ rfl, fieldsRefer_cons _ _ _ rfl, fieldsRefer_cons _ _ _ rfl,
    fieldsRefer_single _ _ rfl]
  exact ⟨TargetAlias.target_refers function via called, refers_str _, refers_str _, refers_str _⟩

end Url

theorem EventConfig.resource_mentions (name : String) (function : FunctionConfig) (entries : Fields)
    (via : Option TargetAlias) (called : allowed (Naming.function name))
    (known : ∀ own, via = some own → allowed own.id) (refer : FieldsRefer allowed entries) :
    (EventConfig.resource name function entries via).Mentions allowed := by
  apply TargetAlias.attach_mentions _ via _ known
  rw [Resource.make_mentions]
  simp only [fieldsRefer_append]
  refine ⟨⟨?_, fieldsRefer_elim _ _ _ rfl fun seconds _ => refers_int seconds⟩,
    fieldsRefer_elim _ _ _ rfl fun count _ => refers_int count⟩
  rw [fieldsRefer_cons _ _ _ rfl, fieldsRefer_cons _ _ _ rfl, fieldsRefer_single _ _ rfl, refers_obj]
  exact ⟨(refers_ref _).mpr called, refer, refers_str _⟩

namespace Compute

theorem resource_type (service : ServiceConfig) (provider : ProviderConfig) (enforce : Bool) (name : String)
    (function : FunctionConfig) (code : Code) (role : Role) :
    (resource service provider enforce name function code role).type = .str "AWS::Lambda::Function" := by
  unfold resource withDependencies
  dsimp only
  split <;> rfl

theorem resource_properties (service : ServiceConfig) (provider : ProviderConfig) (enforce : Bool) (name : String)
    (function : FunctionConfig) (code : Code) (role : Role) :
    (resource service provider enforce name function code role).properties =
      .obj (properties service provider enforce name function code role) := by
  unfold resource withDependencies
  dsimp only
  split <;> rfl

/-- A function comes after what it declares, what its role depends on, and its log group. -/
theorem resource_dependsOn (service : ServiceConfig) (provider : ProviderConfig) (enforce : Bool) (name : String)
    (function : FunctionConfig) (code : Code) (role : Role) (id : String)
    (member : .str id ∈ (resource service provider enforce name function code role).dependsOn) :
    id ∈ function.dependsOn ∨ role.dependency = .str id ∨ function.disableLogs = false ∧ id = Naming.logGroup name := by
  have declared (base : Resource) (none : base.dependsOn = []) (member : .str id ∈
      ((base.dependOn (function.dependsOn.map Value.str)).dependOn [role.dependency]).dependsOn) :
      id ∈ function.dependsOn ∨ role.dependency = .str id := by
    rcases Resource.dependOn_mem _ _ _ member with before | added
    · rcases Resource.dependOn_mem _ _ _ before with before | added
      · rw [none] at before
        cases before
      · obtain ⟨other, listed, same⟩ := List.mem_map.mp added
        rw [Value.str.inj same] at listed
        exact Or.inl listed
    · exact Or.inr (List.mem_singleton.mp added).symm
  unfold resource withDependencies at member
  dsimp only at member
  split at member
  · exact (declared _ rfl member).imp_right Or.inl
  case isFalse logs =>
    rcases Resource.dependFirstOn_mem _ _ _ member with before | added
    · exact (declared _ rfl before).imp_right Or.inl
    · exact Or.inr (Or.inr ⟨by simpa using logs, Value.str.inj (List.mem_singleton.mp added)⟩)

end Compute

namespace Core

theorem bucketResource_mentions : bucketResource.mentions = [] := by decide +kernel

theorem logGroup_mentions (service : ServiceConfig) (name : String) : (logGroup service name).mentions = [] := by
  apply Resource.mentions_nil
  rw [logGroup, Resource.make_mentions, fieldsRefer_append, fieldsRefer_single _ _ rfl]
  refine ⟨refers_str _, ?_⟩
  split
  · exact (fieldsRefer_single _ _ rfl).mpr (refers_int _)
  · exact fieldsRefer_nil

theorem layer_mentions (service : ServiceConfig) (name : String) (config : LayerConfig) (artifact : String)
    (bucket : service.provider.bucket.Refers allowed) : (layer service name config artifact).Mentions allowed := by
  rw [Resource.mentions_iff]
  refine ⟨fun id member => (by cases member), ?_⟩
  change (Value.obj _).Refers allowed
  rw [refers_obj]
  simp only [fieldsRefer_append]
  refine ⟨⟨⟨⟨?_, fieldsRefer_text _ _ rfl⟩, fieldsRefer_texts _ _ rfl⟩, fieldsRefer_texts _ _ rfl⟩,
    fieldsRefer_text _ _ rfl⟩
  rw [fieldsRefer_cons _ _ _ rfl, fieldsRefer_single _ _ rfl, refers_obj, fieldsRefer_cons _ _ _ rfl,
    fieldsRefer_single _ _ rfl]
  exact ⟨⟨bucket, refers_str _⟩, refers_str _⟩

/-- The default role refers to pseudo parameters and to what the ARNs of the log groups refer to. -/
theorem executionRole_mentions (service : ServiceConfig) (arns : ∀ arn ∈ logArns service, arn.Refers allowed)
    (pseudo : ∀ id, isPseudo id = true → allowed id) : (executionRole service).Mentions allowed := by
  have region : allowed "AWS::Region" := pseudo _ (by decide)
  have assume : assumeRolePolicy.Refers allowed := by
    have none : assumeRolePolicy.references = [] := by decide +kernel
    intro id member
    rw [none] at member
    cases member
  have document : (Value.obj [("Version", .str "2012-10-17"), ("Statement", .arr (logStatements service))]).Refers
      allowed := by
    rw [refers_obj, fieldsRefer_cons _ _ _ rfl, fieldsRefer_single _ _ rfl]
    exact ⟨refers_str _, logStatements_refer service arns⟩
  have joined (parts : List Value) (each : ∀ part ∈ parts, part.Refers allowed) :
      (Intrinsic.join "-" parts).Refers allowed := (refers_join _ _).mpr each
  rw [executionRole, Resource.make_mentions, fieldsRefer_append]
  constructor
  · rw [fieldsRefer_cons _ _ _ rfl, fieldsRefer_cons _ _ _ rfl, fieldsRefer_cons _ _ _ rfl,
      fieldsRefer_single _ _ rfl, refers_arr]
    refine ⟨assume, fun policy member => ?_, refers_str _, joined _ fun part member => ?_⟩
    · rw [List.mem_singleton.mp member, refers_obj, fieldsRefer_cons _ _ _ rfl, fieldsRefer_single _ _ rfl]
      refine ⟨joined _ fun part member => ?_, document⟩
      simp only [List.mem_cons, List.not_mem_nil, or_false] at member
      rcases member with rfl | rfl <;> exact refers_str _
    · simp only [List.mem_cons, List.not_mem_nil, or_false] at member
      rcases member with rfl | rfl | rfl
      · exact refers_str _
      · exact (refers_ref _).mpr region
      · exact refers_str _
  · split
    · rw [fieldsRefer_single _ _ rfl, refers_arr]
      intro policy member
      rw [List.mem_singleton.mp member, refers_sub]
      have none : substituted [] vpcAccessPolicy = [] := by decide +kernel
      intro id member
      rw [none] at member
      cases member
    · exact fieldsRefer_nil

end Core

namespace Blueprint

/-- No text from which an ARN is made begins a placeholder. -/
structure PlainNames (blueprint : Blueprint) : Prop where
  service : Text.contains blueprint.service.service "$\x7b" = false
  stage : Text.contains blueprint.provider.stage "$\x7b" = false
  deployed : ∀ name function, (name, function) ∈ blueprint.functions →
    Text.contains (blueprint.service.deployedName name (some function) (some blueprint.provider.stage)) "$\x7b" = false

/-- A destination points at what its target refers to; in an event config it may be a function instead. -/
theorem destination_refers (blueprint : Blueprint) (owner : String) (target : Value) (destination : Destination)
    (callable : ∀ name function, (name, function) ∈ blueprint.functions → (Intrinsic.functionArn
      (blueprint.service.deployedName name (some function) (some blueprint.provider.stage))).Refers allowed)
    (refers : target.Refers allowed) (read : blueprint.destination owner target = .ok destination) :
    destination.pointer.Refers allowed ∧ destination.reference.Refers fun id =>
      allowed id ∨ id ∈ blueprint.functions.keys.map Naming.function := by
  rcases Destination.classify_ok target owner _ destination read with
    ⟨text, _, pointer, unnamed, _⟩ | ⟨text, _, resolved, named, _⟩ | ⟨given, key, rfl, member, unnamed⟩
  · have reference : destination.reference = destination.pointer := by rw [Destination.reference, unnamed]; rfl
    rw [reference, pointer]
    exact ⟨refers_str _, refers_str _⟩
  · unfold Destination.resolver at resolved
    split at resolved
    case h_1 function found =>
      have pointer : destination.pointer.Refers allowed := by
        rw [← Except.ok.inj resolved]
        exact callable text function (Table.find?_some_mem _ _ _ found)
      refine ⟨pointer, ?_⟩
      unfold Destination.reference
      rw [named]
      split
      case h_1 name given =>
        have same : text = name := Option.some.inj (Option.filter_eq_some_iff.mp given).1
        rw [refers_getAtt, ← same]
        have listed : text ∈ blueprint.functions.keys :=
          List.mem_map.mpr ⟨(text, function), Table.find?_some_mem _ _ _ found, rfl⟩
        exact Or.inr (List.mem_map.mpr ⟨text, listed, rfl⟩)
      case h_2 => exact pointer.mono fun id known => Or.inl known
    case h_2 => cases resolved
  · have reference : destination.reference = destination.pointer := by rw [Destination.reference, unnamed]; rfl
    have pointer := ((refers_obj given).mp refers key destination.pointer member).2
    rw [reference]
    exact ⟨pointer, pointer.mono fun id known => Or.inl known⟩

end Blueprint

end FunctionStack
