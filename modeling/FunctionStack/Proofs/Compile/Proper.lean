import FunctionStack.Proofs.Compile.Plan
import FunctionStack.Proofs.Compile.Mentions

/-!
Whatever is made of proper settings is proper: each property of a function stands at a place of its own in a list of
all properties, and so none is there twice.
-/

namespace FunctionStack

namespace Value

/-- Proper values under some of these keys, in their order. -/
def Tidy (keys : List String) (fields : Fields) : Prop :=
  (fields.map Prod.fst).Sublist keys ∧ ∀ key value, (key, value) ∈ fields → value.isProper = true

theorem Tidy.isProper {keys : List String} {fields : Fields} (tidy : Tidy keys fields) (distinct : keys.Nodup) :
    (Value.obj fields).isProper = true :=
  (obj_isProper fields).mpr ⟨distinct.sublist tidy.1, tidy.2⟩

theorem tidy_nil {keys : List String} : Tidy keys [] :=
  ⟨List.nil_sublist _, fun _ _ member => by cases member⟩

theorem Tidy.append {first second : List String} {fields others : Fields} (one : Tidy first fields)
    (two : Tidy second others) : Tidy (first ++ second) (fields ++ others) := by
  refine ⟨by rw [List.map_append]; exact one.1.append two.1, fun key value member => ?_⟩
  exact (List.mem_append.mp member).elim (one.2 key value) (two.2 key value)

theorem Tidy.cons {keys : List String} {fields : Fields} (key : String) {value : Value}
    (proper : value.isProper = true) (tidy : Tidy keys fields) : Tidy (key :: keys) ((key, value) :: fields) := by
  refine ⟨tidy.1.cons_cons key, fun other found member => ?_⟩
  rcases List.mem_cons.mp member with same | member
  · cases same
    exact proper
  · exact tidy.2 other found member

theorem tidy_single (key : String) {value : Value} (proper : value.isProper = true) : Tidy [key] [(key, value)] :=
  .cons key proper tidy_nil

theorem tidy_elim {α : Type} (option : Option α) (key : String) (value : α → Value)
    (proper : ∀ a, option = some a → (value a).isProper = true) :
    Tidy [key] (option.elim [] fun a => [(key, value a)]) := by
  cases option with
  | none => exact tidy_nil
  | some a => exact tidy_single key (proper a rfl)

theorem Tidy.within {keys more : List String} {fields : Fields} (tidy : Tidy keys fields) (sublist : keys.Sublist more) :
    Tidy more fields := ⟨tidy.1.trans sublist, tidy.2⟩

theorem texts_isProper (items : List String) : (Value.texts items).isProper = true := by
  rw [texts, Value.isProper, areProper_iff]
  intro item member
  obtain ⟨text, _, rfl⟩ := List.mem_map.mp member
  rfl

theorem arr_isProper (items : List Value) (proper : ∀ item ∈ items, item.isProper = true) :
    (Value.arr items).isProper = true := by
  rw [Value.isProper, areProper_iff]
  exact proper

theorem merge_isProper (fields others : Fields) (proper : (Value.obj fields).isProper = true)
    (values : ∀ key value, (key, value) ∈ others → value.isProper = true) :
    (Value.obj (Table.merge fields others)).isProper = true := by
  unfold Table.merge
  induction others generalizing fields with
  | nil => exact proper
  | cons field rest ih =>
      obtain ⟨key, value⟩ := field
      rw [List.foldl_cons]
      exact ih _ (insert_isProper fields key value proper (values key value (List.mem_cons_self ..)))
        fun other found member => values other found (List.mem_cons_of_mem _ member)

theorem tidy_text (key : String) (text : Option String) : Tidy [key] (Core.optionalText key text) := by
  unfold Core.optionalText
  split
  · exact tidy_single key rfl
  · exact tidy_nil

theorem tidy_texts (key : String) (texts : Option (List String)) : Tidy [key] (Core.optionalTexts key texts) := by
  unfold Core.optionalTexts
  split
  · exact tidy_single key (texts_isProper _)
  · exact tidy_nil

end Value

open Value

namespace Compute

/-- The properties that say where code comes from. -/
def sourceKeys : List String := ["Code", "Handler", "Runtime", "RuntimeManagementConfig", "PackageType", "ImageConfig"]

/-- The properties of a function, but for its layers and those that come with a version. -/
def settingKeys : List String := sourceKeys ++ ["FunctionName"] ++ ["MemorySize", "Timeout"] ++ ["Architectures"] ++
  ["Description"] ++ ["Tags"] ++ ["EphemeralStorage"] ++ ["DeadLetterConfig"] ++ ["KmsKeyArn"] ++ ["TracingConfig"] ++
  ["Environment"] ++ ["Role"] ++ ["VpcConfig"] ++ ["FileSystemConfigs"] ++ ["ReservedConcurrentExecutions"]

section Settings

variable (function : FunctionConfig) (provider : ProviderConfig)
  (own : ∀ value ∈ function.written, value.isProper = true)
  (shared : ∀ value ∈ provider.written, value.isProper = true)

include own shared

theorem tags_tidy : Tidy ["Tags"] (tags function provider) := by
  have merged : (Value.obj (Table.merge provider.tags function.tags)).isProper = true :=
    merge_isProper _ _ (shared _ (by simp [ProviderConfig.written]))
      ((obj_isProper _).mp (own _ (by simp [FunctionConfig.written]))).2
  have values := ((obj_isProper _).mp merged).2
  unfold tags
  split
  · exact tidy_nil
  · refine tidy_single _ (arr_isProper _ fun item member => ?_)
    obtain ⟨⟨key, value⟩, present, rfl⟩ := List.mem_map.mp member
    exact ((tidy_single "Value" (values key value present)).cons "Key" rfl).isProper (by decide)

theorem environment_tidy : Tidy ["Environment"] (environment function provider) := by
  have merged : (Value.obj (Table.merge provider.environment function.environment)).isProper = true :=
    merge_isProper _ _ (shared _ (by simp [ProviderConfig.written]))
      ((obj_isProper _).mp (own _ (by simp [FunctionConfig.written]))).2
  unfold environment
  split
  · exact tidy_nil
  · exact tidy_single _ ((tidy_single "Variables" merged).isProper (by decide))

theorem vpc_tidy : Tidy ["VpcConfig"] (vpc function provider) := by
  refine tidy_elim _ _ _ fun config found => ?_
  have inside (field : VpcConfig → Option (List Value)) (items : List Value)
      (part : ∀ config : VpcConfig, ∀ item ∈ (field config).getD [], item ∈ config.written)
      (given : vpcField function provider field = some items) : (Value.arr items).isProper = true :=
    arr_isProper items fun item member =>
      (vpcField_written function provider field items part given item member).elim (own item) (shared item)
  obtain ⟨-, subnets, groups, first, -, second, -, rfl⟩ := vpc?_ok function provider config found
  have groups := inside VpcConfig.securityGroupIds _ (fun config item member => List.mem_append_right _ member) second
  have subnets := inside VpcConfig.subnetIds _ (fun config item member => List.mem_append_left _ member) first
  exact (((tidy_single "SubnetIds" subnets).cons "SecurityGroupIds" groups).append
    (tidy_elim _ "Ipv6AllowedForDualStack" _ fun _ _ => rfl)).isProper (by decide)

theorem layers_tidy : Tidy ["Layers"] (layers function provider) := by
  unfold layers
  split
  case h_1 items found =>
    have given := (Option.filter_eq_some_iff.mp found).1
    exact tidy_single _ (arr_isProper items fun item member =>
      (layers_written function provider items given item member).elim (own item) (shared item))
  case h_2 => exact tidy_nil

omit shared in
theorem deadLetter_tidy : Tidy ["DeadLetterConfig"] (deadLetter function) := by
  refine tidy_elim _ _ _ fun target found => (tidy_single "TargetArn" ?_).isProper (by decide)
  exact own _ (onError_written function target found)

omit shared in
theorem mount_proper (mount : FileSystemConfig) (found : function.fileSystem = some mount) :
    mount.arn.toValue.isProper = true := own _ (mount_written function mount found)

omit own shared in
theorem allow_isProper (actions : List String) (resource : Value) (proper : resource.isProper = true) :
    (allow actions resource).isProper = true :=
  (((tidy_single "Resource" (arr_isProper [resource] (by simpa using proper))).cons "Action" (texts_isProper actions)).cons
    "Effect" rfl).isProper (by decide)

omit shared in
theorem statements_isProper (statement : Value)
    (member : statement ∈ settingStatements function provider ++ fileSystemStatements function) :
    statement.isProper = true := by
  cases statements_asked function provider statement member with
  | literal actions _ text => exact allow_isProper actions (.str text) rfl
  | mount mount mounted => exact allow_isProper _ _ (mount_proper function own mount mounted)

omit shared in
theorem fileSystems_tidy : Tidy ["FileSystemConfigs"] (fileSystems function) := by
  refine tidy_elim _ _ _ fun mount found => arr_isProper _ fun item member => ?_
  rw [List.mem_singleton.mp member]
  exact ((tidy_single "LocalMountPath" rfl).cons "Arn" (mount_proper function own mount found)).isProper (by decide)

theorem settings_tidy (service : ServiceConfig) (name : String) (code : Code) (role : Role)
    (source : Tidy sourceKeys code.properties) (runsAs : role.value.isProper = true) :
    Tidy settingKeys (code.properties ++
      [("FunctionName", .str (service.deployedName name (some function) (some provider.stage)))] ++
      sizes function provider ++ architectures function provider ++
      Core.optionalText "Description" function.description ++ tags function provider ++
      ephemeralStorage function ++ deadLetter function ++ kms function provider ++
      tracing function provider ++ environment function provider ++ [("Role", role.value)] ++
      vpc function provider ++ fileSystems function ++
      integerField "ReservedConcurrentExecutions" function.reservedConcurrency) := by
  have measures : Tidy ["MemorySize", "Timeout"] (sizes function provider) := .cons _ rfl (tidy_single _ rfl)
  have architectures : Tidy ["Architectures"] (architectures function provider) :=
    tidy_elim _ _ _ fun _ _ => texts_isProper _
  have storage : Tidy ["EphemeralStorage"] (ephemeralStorage function) :=
    tidy_elim _ _ _ fun size _ => (tidy_single "Size" rfl).isProper (by decide)
  have key : Tidy ["KmsKeyArn"] (kms function provider) :=
    tidy_elim _ _ _ fun key found => (kmsKey_written function provider key found).elim (own _) (shared _)
  have traces : Tidy ["TracingConfig"] (tracing function provider) :=
    tidy_elim _ _ _ fun mode _ => (tidy_single "Mode" rfl).isProper (by decide)
  have reserved : Tidy ["ReservedConcurrentExecutions"]
      (integerField "ReservedConcurrentExecutions" function.reservedConcurrency) := tidy_elim _ _ _ fun _ _ => rfl
  exact (((((((((((((source.append (tidy_single "FunctionName" rfl)).append measures).append architectures).append
    (tidy_text _ _)).append (tags_tidy function provider own shared)).append storage).append
    (deadLetter_tidy function own)).append key).append traces).append
    (environment_tidy function provider own shared)).append (tidy_single "Role" runsAs)).append
    (vpc_tidy function provider own shared)).append (fileSystems_tidy function own)).append reserved

omit own shared in
/-- A version adds a description, or replaces it, and a setting of its own. -/
theorem versionSettings_mem (enforce : Bool) (fields : Fields) (key : String) (value : Value)
    (member : (key, value) ∈ versionSettings enforce function provider fields) :
    (key, value) ∈ fields ∨ key = "Description" ∨ key = "SnapStart" := by
  have described (member : (key, value) ∈ (if enforce then
      Table.insert fields "Description" (.str enforcedDescription) else fields)) :
      (key, value) ∈ fields ∨ key = "Description" := by
    split at member
    · exact (Table.mem_insert _ _ _ _ _ member).symm.imp_right fun same => congrArg Prod.fst same
    · exact Or.inl member
  unfold versionSettings at member
  by_cases versioned : isVersioned function provider = true
  · rw [if_pos versioned] at member
    by_cases snap : function.snapStart = true
    · rw [if_pos snap] at member
      rcases List.mem_append.mp member with before | last
      · exact (described before).imp_right Or.inl
      · exact Or.inr (Or.inr (congrArg Prod.fst (List.mem_singleton.mp last)))
    · rw [if_neg snap] at member
      exact (described member).imp_right Or.inl
  · rw [if_neg versioned] at member
    exact Or.inl member

omit own shared in
theorem versionSettings_proper (enforce : Bool) (fields : Fields) (proper : (Value.obj fields).isProper = true)
    (apart : "SnapStart" ∉ fields.map Prod.fst) :
    (Value.obj (versionSettings enforce function provider fields)).isProper = true := by
  have described : (Value.obj (if enforce then Table.insert fields "Description" (.str enforcedDescription)
      else fields)).isProper = true := by
    split
    · exact insert_isProper _ _ _ proper rfl
    · exact proper
  have fresh : "SnapStart" ∉ (if enforce then Table.insert fields "Description" (.str enforcedDescription)
      else fields).map Prod.fst := by
    split
    · intro member
      obtain ⟨⟨key, value⟩, listed, rfl⟩ := List.mem_map.mp member
      rcases Table.mem_insert fields "Description" _ _ value listed with same | before
      · exact absurd (congrArg Prod.fst same) (by decide : ¬ "SnapStart" = "Description")
      · exact apart (List.mem_map.mpr ⟨_, before, rfl⟩)
    · exact apart
  unfold versionSettings
  split
  · dsimp only
    split
    · rw [obj_isProper] at described ⊢
      refine ⟨?_, fun key value member => ?_⟩
      · rw [List.map_append]
        refine List.nodup_append.mpr ⟨described.1, List.nodup_singleton _, fun a member b last same => ?_⟩
        rw [same, List.mem_singleton.mp last] at member
        exact fresh member
      · rcases List.mem_append.mp member with before | last
        · exact described.2 key value before
        · cases List.mem_singleton.mp last
          rfl
    · exact described
  · exact proper

theorem properties_proper (service : ServiceConfig) (enforce : Bool) (name : String) (code : Code) (role : Role)
    (source : Tidy sourceKeys code.properties) (runsAs : role.value.isProper = true) :
    (Value.obj (properties service provider enforce name function code role)).isProper = true := by
  have settings := (settings_tidy function provider own shared service name code role source runsAs).append
    (layers_tidy function provider own shared)
  refine versionSettings_proper function provider enforce _ (settings.isProper (by decide)) fun member => ?_
  exact absurd (settings.1.subset member) (by decide)

/-- The layers of a function are those it declares itself, or else the provider's. -/
theorem properties_layers (service : ServiceConfig) (enforce : Bool) (name : String) (code : Code) (role : Role)
    (source : Tidy sourceKeys code.properties) (runsAs : role.value.isProper = true) (value : Value)
    (found : Table.find? (properties service provider enforce name function code role) "Layers" = some value) :
    ∃ items, value = .arr items ∧ (function.layers <|> provider.layers) = some items := by
  have settings := settings_tidy function provider own shared service name code role source runsAs
  rcases versionSettings_mem function provider enforce _ _ value (Table.find?_some_mem _ _ _ found) with
    member | described | snap
  · rcases List.mem_append.mp member with before | last
    · exact absurd (settings.1.subset (List.mem_map.mpr ⟨_, before, rfl⟩)) (by decide : "Layers" ∉ settingKeys)
    · unfold layers at last
      split at last
      case h_1 items given =>
        cases List.mem_singleton.mp last
        exact ⟨items, rfl, (Option.filter_eq_some_iff.mp given).1⟩
      case h_2 => cases last
  · exact absurd described (by decide)
  · exact absurd snap (by decide)

end Settings

theorem runtimeManagement_tidy (name : String) (setting : Option RuntimeManagement) (fields : Fields)
    (made : runtimeManagement name setting = .ok fields) : Tidy ["RuntimeManagementConfig"] fields := by
  rcases runtimeManagement_ok name setting fields made with rfl | ⟨arn, rfl⟩ | ⟨mode, rfl⟩
  · exact tidy_nil
  · exact tidy_single _ (((tidy_single "RuntimeVersionArn" rfl).cons "UpdateRuntimeOn" rfl).isProper (by decide))
  · exact tidy_single _ ((tidy_single "UpdateRuntimeOn" rfl).isProper (by decide))

theorem archiveCode_tidy (service : ServiceConfig) (provider : ProviderConfig) (name : String)
    (function : FunctionConfig) (code : Code) (made : archiveCode service provider name function = .ok code) :
    Tidy sourceKeys code.properties := by
  have bucket : provider.bucket.isProper = true := by
    unfold ProviderConfig.bucket
    split <;> rfl
  unfold archiveCode at made
  rw [Result.bind_ok] at made
  obtain ⟨management, managed, made⟩ := made
  cases made
  have place (key : Value) (text : key.isProper = true) :
      (Value.obj [("S3Bucket", provider.bucket), ("S3Key", key)]).isProper = true :=
    ((tidy_single "S3Key" text).cons "S3Bucket" bucket).isProper (by decide)
  have own (key handler runtime : String) : Tidy ["Code", "Handler", "Runtime"] [
      ("Code", .obj [("S3Bucket", provider.bucket), ("S3Key", .str key)]), ("Handler", .str handler),
      ("Runtime", .str runtime)] :=
    ((tidy_single "Runtime" rfl).cons "Handler" rfl).cons "Code" (place _ rfl)
  exact ((own _ _ _).append (runtimeManagement_tidy name _ management managed)).within (by decide)

theorem imageCode_tidy (image : ImageConfig) (resolved : ResolvedImage) :
    Tidy sourceKeys (imageCode image resolved).properties := by
  have overrides : Tidy ["ImageConfig"] (tableField "ImageConfig" (imageOverrides image)) := by
    unfold tableField
    split
    · exact tidy_nil
    · exact tidy_single _ ((((tidy_texts "Command" _).append (tidy_texts "EntryPoint" _)).append
        (tidy_text "WorkingDirectory" _)).isProper (by decide))
  have uri : (Value.obj [("ImageUri", .str resolved.uri)]).isProper = true :=
    (tidy_single "ImageUri" rfl).isProper (by decide)
  have own : Tidy ["Code", "PackageType"] [("Code", .obj [("ImageUri", .str resolved.uri)]), ("PackageType", .str "Image")] :=
    (tidy_single "PackageType" rfl).cons "Code" uri
  exact (own.append overrides).within (by decide)

theorem code_tidy (blueprint : Blueprint) (name : String) (function : FunctionConfig) (session : RegistrySession)
    (code : Code) (found : (blueprint.codeFrom name function session).1 = .ok code) :
    Tidy sourceKeys code.properties := by
  cases imaged : function.hasImage with
  | true =>
      obtain ⟨image, resolved, _, -, -, rfl⟩ := blueprint.codeFrom_image name function session code imaged found
      exact imageCode_tidy image resolved
  | false => exact archiveCode_tidy _ _ _ _ code (blueprint.codeFrom_archive name function session code imaged found)

end Compute

theorem Role.ofFunction_proper (function : FunctionConfig) (provider : ProviderConfig) (role : Role)
    (own : ∀ value ∈ function.written, value.isProper = true) (shared : ∀ value ∈ provider.written, value.isProper = true)
    (resolves : ofFunction function provider = .ok role) :
    role.value.isProper = true ∧ role.dependency.isProper = true := by
  have written : (declared function provider).isProper = true :=
    declared_of_written function provider own shared rfl
  have reads := ofValue_reads _ role resolves
  generalize declared function provider = value at reads written
  cases reads with
  | nothing => exact ⟨rfl, rfl⟩
  | text text =>
      unfold ofText
      split
      · exact ⟨rfl, rfl⟩
      · split <;> exact ⟨rfl, rfl⟩
  | part fields target dependency found first =>
      have inside := ((obj_isProper fields).mp written).2 _ target (Table.find?_some_mem _ _ _ found)
      refine ⟨written, ?_⟩
      rcases firstOf_ok target dependency first with ⟨rest, rfl⟩ | ⟨c, rfl⟩
      · exact (areProper_iff _).mp inside _ (List.mem_cons_self ..)
      · rfl
  | computed value => exact ⟨written, rfl⟩

namespace Resource

/-- All that is part of a template is proper. -/
structure IsProper (resource : Resource) : Prop where
  type : resource.type.isProper = true
  properties : resource.properties.isProper = true
  dependsOn : ∀ dependency ∈ resource.dependsOn, dependency.isProper = true
  condition : resource.condition.isProper = true
  deletionPolicy : resource.deletionPolicy.isProper = true

theorem IsProper.same_refl {resource : Resource} (proper : resource.IsProper) : resource.same resource = true := by
  have items : Value.sameItems resource.dependsOn resource.dependsOn = true := by
    rw [sameItems_forall, List.forall₂_same]
    exact fun item member => Value.same_refl item (proper.dependsOn item member)
  simp only [same, Value.same_refl _ proper.type, Value.same_refl _ proper.properties, items,
    Value.same_refl _ proper.condition, Value.same_refl _ proper.deletionPolicy, Bool.and_self]

theorem make_isProper (type : String) (fields : Fields) (source : Option String)
    (proper : (Value.obj fields).isProper = true) : (make type fields source).IsProper :=
  ⟨rfl, proper, fun _ member => (by cases member), rfl, rfl⟩

theorem IsProper.dependOn {resource : Resource} (proper : resource.IsProper) (ids : List Value)
    (regular : ∀ id ∈ ids, id.isProper = true) : (resource.dependOn ids).IsProper :=
  { proper with dependsOn := fun id member => (dependOn_mem resource ids id member).elim (proper.dependsOn id) (regular id) }

theorem IsProper.dependFirstOn {resource : Resource} (proper : resource.IsProper) (ids : List Value)
    (regular : ∀ id ∈ ids, id.isProper = true) : (resource.dependFirstOn ids).IsProper :=
  { proper with
    dependsOn := fun id member => (dependFirstOn_mem resource ids id member).elim (proper.dependsOn id) (regular id) }

theorem IsProper.attach {resource : Resource} (proper : resource.IsProper) (via : Option TargetAlias) :
    (TargetAlias.attach resource via).IsProper := by
  cases via with
  | none => exact proper
  | some own =>
      refine proper.dependOn _ fun id member => ?_
      rw [List.mem_singleton.mp member]
      rfl

end Resource

end FunctionStack
