import FunctionStack.Proofs.Compile.Permissions
import FunctionStack.Proofs.Template.Order
import FunctionStack.Proofs.Template.Substitution

/-!
What users write into a service, and what each resource made from it mentions.
-/

namespace FunctionStack

/-- The values of a network that users write. -/
def VpcConfig.written (config : VpcConfig) : List Value := config.subnetIds.getD [] ++ config.securityGroupIds.getD []

def pointerValues (pointers : List (Option Pointer)) : List Value := pointers.filterMap (·.map Pointer.toValue)

/-- The values of a function that users write. -/
def FunctionConfig.written (function : FunctionConfig) : List Value :=
  [.obj function.environment, .obj function.tags] ++
    pointerValues [function.onError, function.kmsKeyArn, function.role, function.fileSystem.map (·.arn)] ++
    function.layers.getD [] ++
    (match function.vpc with
      | .given (.attached config) => config.written
      | _ => []) ++
    Blueprint.declaredTargets function

/-- The values of the provider that users write. -/
def ProviderConfig.written (provider : ProviderConfig) : List Value :=
  [.obj provider.environment, .obj provider.tags] ++ pointerValues [provider.kmsKeyArn, provider.role] ++
    provider.layers.getD [] ++ (provider.vpc.elim [] VpcConfig.written)

/-- All that users write refers to resources of their own. A role that is given as a text is the default one, an ARN or
one of these resources. -/
structure ServiceConfig.RefersToOwn (service : ServiceConfig) (own : List String) : Prop where
  provider : ∀ value ∈ service.provider.written, value.Refers (IsOwn own)
  functions : ∀ name function, (name, function) ∈ service.functions →
    ∀ value ∈ function.written, value.Refers (IsOwn own)
  dependencies : ∀ name function, (name, function) ∈ service.functions → ∀ id ∈ function.dependsOn, IsOwn own id
  roles : ∀ name function, (name, function) ∈ service.functions →
    ∀ text, Role.declared function service.provider = .str text →
      text = defaultExecutionRole ∨ Text.beginsWith text "arn:" = true ∨ IsOwn own text

namespace Value

variable {allowed : String → Prop}

theorem fieldsRefer_text (key : String) (text : Option String) (plain : isPlainKey key = true) :
    FieldsRefer allowed (Core.optionalText key text) := by
  unfold Core.optionalText
  split
  · exact (fieldsRefer_single _ _ plain).mpr (refers_str _)
  · exact fieldsRefer_nil

theorem fieldsRefer_texts (key : String) (texts : Option (List String)) (plain : isPlainKey key = true) :
    FieldsRefer allowed (Core.optionalTexts key texts) := by
  unfold Core.optionalTexts
  split
  · exact (fieldsRefer_single _ _ plain).mpr (refers_texts _)
  · exact fieldsRefer_nil

end Value

open Value

theorem pointerValues_mem (pointers : List (Option Pointer)) (pointer : Pointer) (listed : some pointer ∈ pointers) :
    pointer.toValue ∈ pointerValues pointers :=
  List.mem_filterMap.mpr ⟨some pointer, listed, rfl⟩

theorem Settings.eitherGiven {α : Type} (first second : Option α) (a : α) (found : (first <|> second) = some a) :
    first = some a ∨ second = some a := by
  cases first with
  | none => exact Or.inr found
  | some _ => exact Or.inl found

theorem Settings.nonEmpty_iff {items : Option (List Value)} {value : List Value} :
    nonEmpty items = some value ↔ items = some value ∧ value ≠ [] := by
  rw [nonEmpty, Option.filter_eq_some_iff]
  simp

theorem FunctionConfig.pointer_written (function : FunctionConfig) (pointer : Pointer)
    (listed : some pointer ∈ [function.onError, function.kmsKeyArn, function.role, function.fileSystem.map (·.arn)]) :
    pointer.toValue ∈ function.written := by
  have among := pointerValues_mem _ pointer listed
  simp only [written, List.mem_append]
  exact Or.inl (Or.inl (Or.inl (Or.inr among)))

theorem ProviderConfig.pointer_written (provider : ProviderConfig) (pointer : Pointer)
    (listed : some pointer ∈ [provider.kmsKeyArn, provider.role]) : pointer.toValue ∈ provider.written := by
  have among := pointerValues_mem _ pointer listed
  simp only [written, List.mem_append]
  exact Or.inl (Or.inl (Or.inr among))

namespace Compute

/-- Updates of a runtime are left as they are, or done by hand with a version, or in another mode. -/
theorem runtimeManagement_ok (name : String) (setting : Option RuntimeManagement) (fields : Fields)
    (made : runtimeManagement name setting = .ok fields) : fields = [] ∨
      (∃ arn, fields = [("RuntimeManagementConfig",
        .obj [("UpdateRuntimeOn", .str "Manual"), ("RuntimeVersionArn", .str arn)])]) ∨
      ∃ mode, fields = [("RuntimeManagementConfig", .obj [("UpdateRuntimeOn", .str mode)])] := by
  unfold runtimeManagement at made
  split at made
  · exact Or.inl (Except.ok.inj made).symm
  · split at made
    · cases made
    · exact Or.inl (Except.ok.inj made).symm
    · split at made
      · cases made
      · exact Or.inr (Or.inl ⟨_, (Except.ok.inj made).symm⟩)
    · exact Or.inr (Or.inr ⟨_, (Except.ok.inj made).symm⟩)

section Written

variable (function : FunctionConfig) (provider : ProviderConfig)

theorem kmsKey_written (key : Pointer) (found : kmsKey? function provider = some key) :
    key.toValue ∈ function.written ∨ key.toValue ∈ provider.written := by
  unfold kmsKey? Pointer.firstGiven at found
  rcases Settings.eitherGiven _ _ _ found with first | second
  · exact Or.inl (function.pointer_written key (by simp [(Option.filter_eq_some_iff.mp first).1]))
  · exact Or.inr (provider.pointer_written key (by simp [(Option.filter_eq_some_iff.mp second).1]))

theorem onError_written (target : Pointer) (found : onError? function = some target) :
    target.toValue ∈ function.written :=
  function.pointer_written target (by simp [(Option.filter_eq_some_iff.mp found).1])

theorem mount_written (mount : FileSystemConfig) (found : function.fileSystem = some mount) :
    mount.arn.toValue ∈ function.written :=
  function.pointer_written mount.arn (by simp [found])

/-- A network setting is one of the function or of the provider. -/
theorem vpcField_written (field : VpcConfig → Option (List Value)) (items : List Value)
    (part : ∀ config : VpcConfig, ∀ item ∈ (field config).getD [], item ∈ config.written)
    (found : vpcField function provider field = some items) (item : Value) (member : item ∈ items) :
    item ∈ function.written ∨ item ∈ provider.written := by
  unfold vpcField at found
  rcases Settings.eitherGiven _ _ _ found with first | second
  · split at first
    case h_1 config attached =>
      have inside := part config item (by rw [first]; exact member)
      exact Or.inl (by simp [FunctionConfig.written, attached, inside])
    case h_2 => cases first
  · obtain ⟨config, attached, same⟩ := Option.bind_eq_some_iff.mp second
    have inside := part config item (by rw [same]; exact member)
    exact Or.inr (by simp [ProviderConfig.written, attached, inside])

theorem layers_written (items : List Value) (found : (function.layers <|> provider.layers) = some items) (item : Value)
    (member : item ∈ items) : item ∈ function.written ∨ item ∈ provider.written := by
  rcases Settings.eitherGiven _ _ _ found with first | second
  · exact Or.inl (by simp [FunctionConfig.written, first, member])
  · exact Or.inr (by simp [ProviderConfig.written, second, member])

/-- The lists of a network are those of the function or of the provider, and neither is empty. -/
theorem vpc?_ok (config : Value) (found : vpc? function provider = some config) :
    function.vpcDisabled = false ∧ ∃ subnets groups,
      vpcField function provider VpcConfig.subnetIds = some subnets ∧ subnets ≠ [] ∧
      vpcField function provider VpcConfig.securityGroupIds = some groups ∧ groups ≠ [] ∧
      config = .obj ([("SecurityGroupIds", .arr groups), ("SubnetIds", .arr subnets)] ++
        (vpcField function provider VpcConfig.ipv6).elim [] fun on => [("Ipv6AllowedForDualStack", .bool on)]) := by
  unfold vpc? at found
  split at found
  case isTrue => cases found
  case isFalse enabled =>
    simp only [Option.bind_eq_bind, Option.bind_eq_some_iff, Settings.nonEmpty_iff, Option.some.injEq] at found
    obtain ⟨subnets, ⟨first, some⟩, groups, ⟨second, more⟩, rfl⟩ := found
    exact ⟨Bool.eq_false_of_not_eq_true enabled, subnets, groups, first, some, second, more, rfl⟩

end Written

variable {allowed : String → Prop} (function : FunctionConfig) (provider : ProviderConfig)
  (own : ∀ value ∈ function.written, value.Refers allowed)
  (shared : ∀ value ∈ provider.written, value.Refers allowed)

include own shared

theorem tags_refer : FieldsRefer allowed (tags function provider) := by
  have merged : FieldsRefer allowed (Table.merge provider.tags function.tags) :=
    fieldsRefer_merge _ _ ((refers_obj _).mp (shared _ (by simp [ProviderConfig.written])))
      ((refers_obj _).mp (own _ (by simp [FunctionConfig.written])))
  unfold tags
  generalize Table.merge provider.tags function.tags = all at merged
  cases all with
  | nil => exact fieldsRefer_nil
  | cons field rest =>
      apply (fieldsRefer_single _ _ rfl).mpr
      rw [refers_arr]
      intro item member
      obtain ⟨⟨key, value⟩, present, rfl⟩ := List.mem_map.mp member
      rw [refers_obj, fieldsRefer_cons _ _ _ rfl, fieldsRefer_single _ _ rfl]
      exact ⟨refers_str key, (merged key value present).2⟩

theorem environment_refer : FieldsRefer allowed (environment function provider) := by
  have merged : FieldsRefer allowed (Table.merge provider.environment function.environment) :=
    fieldsRefer_merge _ _ ((refers_obj _).mp (shared _ (by simp [ProviderConfig.written])))
      ((refers_obj _).mp (own _ (by simp [FunctionConfig.written])))
  unfold environment
  generalize Table.merge provider.environment function.environment = all at merged
  cases all with
  | nil => exact fieldsRefer_nil
  | cons field rest =>
      apply (fieldsRefer_single _ _ rfl).mpr
      rw [refers_obj, fieldsRefer_single _ _ rfl, refers_obj]
      exact merged

theorem vpc_refer : FieldsRefer allowed (vpc function provider) := by
  refine fieldsRefer_elim _ _ _ rfl fun config found => ?_
  have inside (field : VpcConfig → Option (List Value)) (items : List Value)
      (part : ∀ config : VpcConfig, ∀ item ∈ (field config).getD [], item ∈ config.written)
      (given : vpcField function provider field = some items) : ∀ item ∈ items, item.Refers allowed :=
    fun item member => (vpcField_written function provider field items part given item member).elim (own item) (shared item)
  obtain ⟨-, subnets, groups, first, -, second, -, rfl⟩ := vpc?_ok function provider config found
  rw [refers_obj, fieldsRefer_append, fieldsRefer_cons _ _ _ rfl, fieldsRefer_single _ _ rfl, refers_arr, refers_arr]
  refine ⟨⟨?_, ?_⟩, fieldsRefer_elim _ _ _ rfl fun on _ => refers_bool on⟩
  · exact inside _ groups (fun config item member => List.mem_append_right _ member) second
  · exact inside _ subnets (fun config item member => List.mem_append_left _ member) first

theorem layers_refer : FieldsRefer allowed (layers function provider) := by
  unfold layers
  split
  case h_1 items found =>
    rw [fieldsRefer_single _ _ rfl, refers_arr]
    have given := (Option.filter_eq_some_iff.mp found).1
    exact fun item member => (layers_written function provider items given item member).elim (own item) (shared item)
  case h_2 => exact fieldsRefer_nil

omit shared in
theorem deadLetter_refer : FieldsRefer allowed (deadLetter function) := by
  refine fieldsRefer_elim _ _ _ rfl fun target found => ?_
  rw [refers_obj, fieldsRefer_single _ _ rfl]
  exact own _ (onError_written function target found)

omit shared in
theorem mount_refers (mount : FileSystemConfig) (found : function.fileSystem = some mount) :
    mount.arn.toValue.Refers allowed := own _ (mount_written function mount found)

omit shared in
theorem fileSystems_refer : FieldsRefer allowed (fileSystems function) := by
  refine fieldsRefer_elim _ _ _ rfl fun mount found => ?_
  rw [refers_arr]
  intro item member
  rw [List.mem_singleton.mp member, refers_obj, fieldsRefer_cons _ _ _ rfl, fieldsRefer_single _ _ rfl]
  exact ⟨mount_refers function own mount found, refers_str _⟩

omit own shared in
theorem versionSettings_refer (enforce : Bool) (fields : Fields) (refer : FieldsRefer allowed fields) :
    FieldsRefer allowed (versionSettings enforce function provider fields) := by
  have described : FieldsRefer allowed
      (if enforce then Table.insert fields "Description" (.str enforcedDescription) else fields) := by
    split
    · exact fieldsRefer_insert _ _ _ rfl refer (refers_str _)
    · exact refer
  unfold versionSettings
  generalize (if enforce then Table.insert fields "Description" (.str enforcedDescription) else fields) = marked
    at described
  dsimp only
  split
  · split
    · rw [fieldsRefer_append, fieldsRefer_single _ _ rfl, refers_obj, fieldsRefer_single _ _ rfl]
      exact ⟨described, refers_str _⟩
    · exact described
  · exact refer

theorem properties_refer (service : ServiceConfig) (enforce : Bool) (name : String) (code : Code) (role : Role)
    (source : FieldsRefer allowed code.properties) (runsAs : role.value.Refers allowed) :
    FieldsRefer allowed (properties service provider enforce name function code role) := by
  have architectures : FieldsRefer allowed (architectures function provider) :=
    fieldsRefer_elim _ _ _ rfl fun _ _ => refers_texts _
  have storage : FieldsRefer allowed (ephemeralStorage function) :=
    fieldsRefer_elim _ _ _ rfl fun size _ => (refers_obj _).mpr ((fieldsRefer_single _ _ rfl).mpr (refers_int size))
  have key : FieldsRefer allowed (kms function provider) :=
    fieldsRefer_elim _ _ _ rfl fun key found => (kmsKey_written function provider key found).elim (own _) (shared _)
  have traces : FieldsRefer allowed (tracing function provider) :=
    fieldsRefer_elim _ _ _ rfl fun mode _ => (refers_obj _).mpr ((fieldsRefer_single _ _ rfl).mpr (refers_str mode))
  have reserved : FieldsRefer allowed (integerField "ReservedConcurrentExecutions" function.reservedConcurrency) :=
    fieldsRefer_elim _ _ _ rfl fun n _ => refers_int n
  have measures : FieldsRefer allowed (sizes function provider) := by
    rw [sizes, fieldsRefer_cons _ _ _ rfl, fieldsRefer_single _ _ rfl]
    exact ⟨refers_int _, refers_int _⟩
  apply versionSettings_refer
  simp only [fieldsRefer_append]
  exact ⟨⟨⟨⟨⟨⟨⟨⟨⟨⟨⟨⟨⟨⟨⟨source, (fieldsRefer_single _ _ rfl).mpr (refers_str _)⟩, measures⟩, architectures⟩,
    fieldsRefer_text _ _ rfl⟩, tags_refer function provider own shared⟩, storage⟩,
    deadLetter_refer function own⟩, key⟩, traces⟩, environment_refer function provider own shared⟩,
    (fieldsRefer_single _ _ rfl).mpr runsAs⟩, vpc_refer function provider own shared⟩,
    fileSystems_refer function own⟩, reserved⟩, layers_refer function provider own shared⟩

end Compute

section Code

variable {allowed : String → Prop}

theorem runtimeManagement_refer (name : String) (setting : Option RuntimeManagement) (fields : Fields)
    (made : Compute.runtimeManagement name setting = .ok fields) : FieldsRefer allowed fields := by
  rcases Compute.runtimeManagement_ok name setting fields made with rfl | ⟨arn, rfl⟩ | ⟨mode, rfl⟩
  · exact fieldsRefer_nil
  · rw [fieldsRefer_single _ _ rfl, refers_obj, fieldsRefer_cons _ _ _ rfl, fieldsRefer_single _ _ rfl]
    exact ⟨refers_str _, refers_str _⟩
  · rw [fieldsRefer_single _ _ rfl, refers_obj, fieldsRefer_single _ _ rfl]
    exact refers_str _

theorem archiveCode_refer (service : ServiceConfig) (provider : ProviderConfig) (name : String)
    (function : FunctionConfig) (code : Code) (bucket : provider.bucket.Refers allowed)
    (made : Compute.archiveCode service provider name function = .ok code) : FieldsRefer allowed code.properties := by
  unfold Compute.archiveCode at made
  rw [Result.bind_ok] at made
  obtain ⟨management, managed, made⟩ := made
  cases made
  rw [fieldsRefer_append, fieldsRefer_cons _ _ _ rfl, fieldsRefer_cons _ _ _ rfl, fieldsRefer_single _ _ rfl,
    refers_obj, fieldsRefer_cons _ _ _ rfl, fieldsRefer_single _ _ rfl]
  exact ⟨⟨⟨bucket, refers_str _⟩, refers_str _, refers_str _⟩, runtimeManagement_refer name _ management managed⟩

theorem imageCode_refer (image : ImageConfig) (resolved : ResolvedImage) :
    FieldsRefer allowed (Compute.imageCode image resolved).properties := by
  have overrides : FieldsRefer allowed (Compute.tableField "ImageConfig" (Compute.imageOverrides image)) := by
    unfold Compute.tableField
    split
    · exact fieldsRefer_nil
    · rw [fieldsRefer_single _ _ rfl, refers_obj, Compute.imageOverrides, fieldsRefer_append, fieldsRefer_append]
      exact ⟨⟨fieldsRefer_texts _ _ rfl, fieldsRefer_texts _ _ rfl⟩, fieldsRefer_text _ _ rfl⟩
  rw [Compute.imageCode, fieldsRefer_append, fieldsRefer_cons _ _ _ rfl, fieldsRefer_single _ _ rfl, refers_obj,
    fieldsRefer_single _ _ rfl]
  exact ⟨⟨refers_str _, refers_str _⟩, overrides⟩

/-- The code of a function refers to the bucket at most. -/
theorem code_refer (blueprint : Blueprint) (name : String) (function : FunctionConfig) (w left : Workspace)
    (code : Code) (bucket : blueprint.provider.bucket.Refers allowed)
    (found : Build.Yields (blueprint.code name function) w code left) : FieldsRefer allowed code.properties := by
  rcases (Blueprint.code_ok blueprint name function w left code found).2 with ⟨image, resolved, rfl⟩ | made
  · exact imageCode_refer image resolved
  · exact archiveCode_refer _ _ _ _ _ bucket made

end Code

namespace Role

/-- What values are read as roles. An attribute as a role depends on the first part of what names it. -/
inductive Reads : Value → Role → Prop
  | nothing : Reads .null theDefault
  | text (text : String) : Reads (.str text) (ofText text)
  | part (fields : Fields) (target dependency : Value) (found : Table.find? fields "Fn::GetAtt" = some target)
      (first : firstOf target = .ok dependency) : Reads (.obj fields) ⟨.getAtt, .obj fields, dependency⟩
  | computed (value : Value) : Reads value ⟨.computed, value, .null⟩

theorem ofValue_reads (value : Value) (role : Role) (read : ofValue value = .ok role) : Reads value role := by
  cases value with
  | null =>
      cases read
      exact .nothing
  | str text =>
      cases read
      exact .text text
  | obj fields =>
      rw [ofValue] at read
      split at read
      case h_1 target found =>
        obtain ⟨dependency, first, made⟩ := (Result.bind_ok _ _ _).mp read
        cases made
        exact .part fields target dependency found first
      case h_2 =>
        cases read
        exact .computed _
  | arr items =>
      rw [ofValue] at read
      split at read
      · cases read
      · cases read
        exact .computed _
  | bool _ => cases read
  | int _ => cases read
  | float _ => cases read

theorem firstOf_ok (target first : Value) (taken : firstOf target = .ok first) :
    (∃ rest, target = .arr (first :: rest)) ∨ ∃ c : Char, first = .str (.ofList [c]) := by
  unfold firstOf at taken
  split at taken
  case h_1 => cases taken
  case h_2 item rest =>
    cases taken
    exact Or.inl ⟨rest, rfl⟩
  case h_3 =>
    split at taken
    case h_1 => cases taken
    case h_2 c _ _ =>
      cases taken
      exact Or.inr ⟨c, rfl⟩
  case h_4 => cases taken
  case h_5 => cases taken

/-- A role that is declared is a value that the user wrote, for the function or for the provider. -/
theorem declared_written (function : FunctionConfig) (provider : ProviderConfig) :
    declared function provider = .null ∨ declared function provider ∈ function.written ∨
      declared function provider ∈ provider.written := by
  unfold declared
  cases chosen : function.role.filter Pointer.isGiven with
  | some role => exact Or.inr (Or.inl (function.pointer_written role (by simp [(Option.filter_eq_some_iff.mp chosen).1])))
  | none =>
      cases shared : provider.role with
      | none => exact Or.inl rfl
      | some role => exact Or.inr (Or.inr (provider.pointer_written role (by simp [shared])))

/-- What holds of all that users write holds of a role that is declared, if it holds of null. -/
theorem declared_of_written {property : Value → Prop} (function : FunctionConfig) (provider : ProviderConfig)
    (own : ∀ value ∈ function.written, property value) (shared : ∀ value ∈ provider.written, property value)
    (absent : property .null) : property (declared function provider) := by
  rcases declared_written function provider with none | member | member
  · rw [none]
    exact absent
  · exact own _ member
  · exact shared _ member

/-- A text names the default role, is an ARN, or names a role of the template. -/
theorem ofText_refers {allowed : String → Prop} (text : String)
    (named : text = defaultExecutionRole ∨ Text.beginsWith text "arn:" = true ∨ allowed text) :
    ofText text = theDefault ∨ (ofText text).isDefault = false ∧ (ofText text).value.Refers allowed ∧
      ∀ id, (ofText text).dependency = .str id → allowed id := by
  unfold ofText
  by_cases default : text = defaultExecutionRole
  · rw [if_pos default]
    exact Or.inl rfl
  · rw [if_neg default]
    by_cases literal : Text.beginsWith text "arn:" = true
    · rw [if_pos literal]
      exact Or.inr ⟨rfl, refers_str text, fun id same => by cases same⟩
    · rw [if_neg literal]
      have known := (named.resolve_left default).resolve_left literal
      refine Or.inr ⟨rfl, (refers_getAtt text "Arn").mpr known, fun id same => ?_⟩
      cases same
      exact known

/-- A role other than the default one refers to what its user wrote. Of an attribute's name that is a text by itself,
the first character is taken for the role's dependency. -/
theorem ofFunction_refers {allowed : String → Prop} (function : FunctionConfig) (provider : ProviderConfig)
    (role : Role) (own : ∀ value ∈ function.written, value.Refers allowed)
    (shared : ∀ value ∈ provider.written, value.Refers allowed)
    (named : ∀ text, declared function provider = .str text →
      text = defaultExecutionRole ∨ Text.beginsWith text "arn:" = true ∨ allowed text)
    (resolves : ofFunction function provider = .ok role) :
    role = theDefault ∨ role.isDefault = false ∧ role.value.Refers allowed ∧
      ∀ id, role.dependency = .str id → allowed id ∨ id.toList.length = 1 := by
  have written : (declared function provider).Refers allowed :=
    declared_of_written function provider own shared refers_null
  have reads := ofValue_reads _ role resolves
  generalize declared function provider = value at reads named written
  cases reads with
  | nothing => exact Or.inl rfl
  | text text =>
      exact (ofText_refers text (named text rfl)).imp_right fun ⟨apart, refers, depends⟩ =>
        ⟨apart, refers, fun id same => Or.inl (depends id same)⟩
  | part fields target dependency found first =>
      refine Or.inr ⟨rfl, written, fun id same => ?_⟩
      obtain rfl : dependency = .str id := same
      have references := ((refers_obj fields).mp written "Fn::GetAtt" target (Table.find?_some_mem _ _ _ found)).1
      rcases firstOf_ok target _ first with ⟨rest, rfl⟩ | ⟨c, text⟩
      · exact Or.inl (references id (by simp [fieldReferences]))
      · rw [Value.str.inj text, String.toList_ofList]
        exact Or.inr rfl
  | computed value => exact Or.inr ⟨rfl, written, fun id same => by cases same⟩

end Role

end FunctionStack
