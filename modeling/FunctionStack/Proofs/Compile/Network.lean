import FunctionStack.Proofs.Compile.Sending

/-!
Networks. A function is in a network if neither subnets nor security groups are missing, where its own settings go before the
provider's one by one. Its resource says so, a file system is mounted in a network only, and the default role has access to
networks wherever a function is in one.
-/

namespace FunctionStack

open Value

/-- A complete network. -/
structure Network where
  subnets : List Value
  groups : List Value
  ipv6 : Option Bool

def Network.toValue (network : Network) : Value :=
  .obj ([("SecurityGroupIds", .arr network.groups), ("SubnetIds", .arr network.subnets)] ++
    network.ipv6.elim [] fun on => [("Ipv6AllowedForDualStack", .bool on)])

namespace FunctionConfig

variable (function : FunctionConfig) (provider : ProviderConfig)

/-- A setting of a network as a function has it: from its own network, or from the provider's where its own one is silent. -/
inductive Takes {α : Type} (field : VpcConfig → Option α) (value : α) : Prop
  | own (config : VpcConfig) (attached : function.vpc = .given (.attached config)) (given : field config = some value)
  | shared (silent : ∀ config, function.vpc = .given (.attached config) → field config = none) (config : VpcConfig)
      (provided : provider.vpc = some config) (given : field config = some value)

/-- The network that a function is in, unless it stays out of all networks. -/
structure Attached (network : Network) : Prop where
  cleared : function.vpc ≠ .cleared
  refused : function.vpc ≠ .given (.inherited false)
  subnets : function.Takes provider VpcConfig.subnetIds network.subnets
  groups : function.Takes provider VpcConfig.securityGroupIds network.groups
  populated : network.subnets ≠ [] ∧ network.groups ≠ []
  ipv6 : ∀ on, network.ipv6 = some on ↔ function.Takes provider VpcConfig.ipv6 on

end FunctionConfig

namespace Compute

variable (function : FunctionConfig) (provider : ProviderConfig)

theorem vpcField_iff {α : Type} (field : VpcConfig → Option α) (value : α) :
    vpcField function provider field = some value ↔ function.Takes provider field value := by
  -- What the function says itself: a value, or nothing that keeps the provider's.
  have own : (∃ config, function.vpc = .given (.attached config) ∧ ∃ given, field config = some given) ∨
      ∀ config, function.vpc = .given (.attached config) → field config = none := by
    by_cases present : ∃ config, function.vpc = .given (.attached config) ∧ ∃ given, field config = some given
    · exact Or.inl present
    · refine Or.inr fun config attached => ?_
      rw [Option.eq_none_iff_forall_ne_some]
      intro given same
      exact present ⟨config, attached, given, same⟩
  rcases own with ⟨config, attached, given, here⟩ | silent
  · have found : vpcField function provider field = some given := by
      simp [vpcField, attached, here]
    rw [found]
    constructor
    · intro same
      exact .own config attached (here.trans same)
    · intro takes
      cases takes with
      | own other again same =>
          cases attached.symm.trans again
          exact here.symm.trans same
      | shared silent => cases (silent config attached).symm.trans here
  · have found : vpcField function provider field = provider.vpc >>= field := by
      unfold vpcField
      split
      · rename_i config attached
        rw [silent config attached]
        rfl
      · rfl
    rw [found, Option.bind_eq_bind, Option.bind_eq_some_iff]
    constructor
    · intro found
      obtain ⟨config, provided, given⟩ := found
      exact .shared silent config provided given
    · intro takes
      cases takes with
      | own config attached given => cases (silent config attached).symm.trans given
      | shared _ config provided given => exact ⟨config, provided, given⟩

theorem vpcDisabled_iff : function.vpcDisabled = true ↔
    function.vpc = .cleared ∨ function.vpc = .given (.inherited false) := by
  unfold FunctionConfig.vpcDisabled
  cases function.vpc with
  | absent => simp
  | cleared => simp
  | given setting => cases setting <;> simp

/-- The network of a function is the one that it is in. -/
theorem vpc?_iff (value : Value) :
    vpc? function provider = some value ↔ ∃ network, function.Attached provider network ∧ value = network.toValue := by
  constructor
  · intro found
    obtain ⟨enabled, subnets, groups, first, some, second, more, rfl⟩ := vpc?_ok function provider value found
    rw [← Bool.not_eq_true, vpcDisabled_iff, not_or] at enabled
    refine ⟨⟨subnets, groups, vpcField function provider VpcConfig.ipv6⟩, ?_, rfl⟩
    exact {
      cleared := enabled.1
      refused := enabled.2
      subnets := (vpcField_iff function provider _ _).mp first
      groups := (vpcField_iff function provider _ _).mp second
      populated := ⟨some, more⟩
      ipv6 := fun on => vpcField_iff function provider _ on }
  · intro inside
    obtain ⟨network, attached, same⟩ := inside
    have enabled : ¬function.vpcDisabled = true := by
      rw [vpcDisabled_iff, not_or]
      exact ⟨attached.cleared, attached.refused⟩
    have subnets : Settings.nonEmpty (vpcField function provider VpcConfig.subnetIds) = some network.subnets :=
      Settings.nonEmpty_iff.mpr ⟨(vpcField_iff _ _ _ _).mpr attached.subnets, attached.populated.1⟩
    have groups : Settings.nonEmpty (vpcField function provider VpcConfig.securityGroupIds) = some network.groups :=
      Settings.nonEmpty_iff.mpr ⟨(vpcField_iff _ _ _ _).mpr attached.groups, attached.populated.2⟩
    have ipv6 : vpcField function provider VpcConfig.ipv6 = network.ipv6 := by
      ext on
      rw [vpcField_iff, ← attached.ipv6 on]
    rw [vpc?, if_neg enabled, subnets, groups, ipv6, same]
    rfl

theorem vpc?_isSome : (vpc? function provider).isSome = true ↔ ∃ network, function.Attached provider network := by
  rw [Option.isSome_iff_exists]
  constructor
  · intro present
    obtain ⟨value, found⟩ := present
    obtain ⟨network, attached, -⟩ := (vpc?_iff function provider value).mp found
    exact ⟨network, attached⟩
  · intro inside
    obtain ⟨network, attached⟩ := inside
    exact ⟨network.toValue, (vpc?_iff function provider _).mpr ⟨network, attached, rfl⟩⟩

theorem checkFileSystem_iff (name : String) : checkFileSystem name function provider = .ok () ↔
    (function.fileSystem.isSome = true → (vpc? function provider).isSome = true) := by
  unfold checkFileSystem
  cases function.fileSystem with
  | none => simp
  | some mount => cases vpc? function provider <;> simp [reject]

/-- A property that is there or not says nothing of other ones. -/
theorem find?_elim {α : Type} (option : Option α) (own key : String) (value : α → Value) :
    Table.find? (option.elim [] fun a => [(own, value a)]) key = if key = own then option.map value else none := by
  cases option with
  | none => simp
  | some a => simp [Table.find?_cons]

/-- The properties about networks, and those about file systems, are in a piece of their own. -/
theorem plainProperties_attachments (service : ServiceConfig) (name : String) (code : Code) (role : Role)
    (source : Tidy sourceKeys code.properties) (key : String) (attachment : key = "VpcConfig" ∨ key = "FileSystemConfigs") :
    Table.find? (plainProperties service provider name function code role) key =
      (Table.find? (vpc function provider) key).or (Table.find? (fileSystems function) key) := by
  have code : Table.find? code.properties key = none := by
    rw [Table.find?_none_iff]
    intro member
    have known := source.1.subset member
    rcases attachment with rfl | rfl <;> exact absurd known (by decide)
  have described : Table.find? (Core.optionalText "Description" function.description) key = none := by
    unfold Core.optionalText
    split <;> rcases attachment with rfl | rfl <;> rfl
  have tagged : Table.find? (tags function provider) key = none := by
    unfold tags
    split <;> rcases attachment with rfl | rfl <;> rfl
  have environs : Table.find? (environment function provider) key = none := by
    unfold environment
    split <;> rcases attachment with rfl | rfl <;> rfl
  have layered : Table.find? (layers function provider) key = none := by
    unfold layers
    split <;> rcases attachment with rfl | rfl <;> rfl
  simp only [plainProperties, Table.find?_append, code, described, tagged, environs, layered, sizes, architectures,
    ephemeralStorage, deadLetter, kms, tracing, integerField, find?_elim, Table.find?_cons, Table.find?_nil]
  rcases attachment with rfl | rfl <;> simp

/-- Being published neither adds nor takes what is not its own. -/
theorem versionSettings_find? (enforce : Bool) (properties : Fields) (key : String) (described : key ≠ "Description")
    (snapped : key ≠ "SnapStart") :
    Table.find? (versionSettings enforce function provider properties) key = Table.find? properties key := by
  cases found : Table.find? properties key with
  | some value => exact versionSettings_keeps enforce function provider properties key value described found
  | none =>
      rw [Table.find?_none_iff] at found ⊢
      intro member
      obtain ⟨⟨_, value⟩, listed, rfl⟩ := List.mem_map.mp member
      rcases versionSettings_mem function provider enforce properties _ value listed with before | same | same
      · exact found (List.mem_map_of_mem before)
      · exact described same
      · exact snapped same

end Compute

/-- A service with a function in a network has got one for it. -/
theorem Core.usesVpc_of_attached (service : ServiceConfig) (name : String) (function : FunctionConfig)
    (declared : (name, function) ∈ service.functions) (network : Network)
    (attached : function.Attached service.provider network) : Core.usesVpc service = true := by
  rw [Core.usesVpc, Bool.or_eq_true, List.any_eq_true]
  cases attached.subnets with
  | own config setting =>
      have asks : function.asksForVpc = true := by rw [FunctionConfig.asksForVpc, setting]
      exact Or.inr ⟨(name, function), declared, asks⟩
  | shared _ config provided => exact Or.inl (provided ▸ rfl)

namespace Plan

variable {plan : Plan} {blueprint : Blueprint} {session : RegistrySession} {graph : Graph}

theorem compute_vpc (makes : blueprint.Makes session graph plan) :
    (plan.compute blueprint).properties.field? "VpcConfig" = Compute.vpc? plan.function blueprint.provider := by
  have source := Compute.code_tidy _ _ _ _ _ makes.code
  rw [plan.compute_properties]
  change Table.find? _ _ = _
  rw [Compute.versionSettings_find? _ _ _ _ _ (by decide) (by decide), Plan.plainProperties,
    Compute.plainProperties_attachments _ _ _ _ _ _ source _ (Or.inl rfl), Compute.vpc, Compute.fileSystems,
    Compute.find?_elim, Compute.find?_elim, if_pos rfl, if_neg (by decide), Option.or_none]
  exact Option.map_id'

theorem compute_fileSystems (makes : blueprint.Makes session graph plan) :
    ((plan.compute blueprint).properties.field? "FileSystemConfigs").isSome = plan.function.fileSystem.isSome := by
  have source := Compute.code_tidy _ _ _ _ _ makes.code
  rw [plan.compute_properties]
  change (Table.find? _ _).isSome = _
  rw [Compute.versionSettings_find? _ _ _ _ _ (by decide) (by decide), Plan.plainProperties,
    Compute.plainProperties_attachments _ _ _ _ _ _ source _ (Or.inr rfl), Compute.vpc, Compute.fileSystems,
    Compute.find?_elim, Compute.find?_elim, if_pos rfl, if_neg (by decide), Option.none_or, Option.isSome_map]

end Plan

/-- What is held has a property exactly if what it fits has it. -/
theorem Resource.Fits.has_iff {held resource : Resource} (fits : held.Fits resource)
    (proper : held.properties.isProper = true) (key : String) :
    (held.properties.field? key).isSome = true ↔ (resource.properties.field? key).isSome = true := by
  constructor
  · intro present
    obtain ⟨part, found⟩ := Option.isSome_iff_exists.mp present
    rcases fits with rfl | equal
    · exact present
    · simp only [same, Bool.and_eq_true] at equal
      obtain ⟨own, there, -⟩ := same_field? equal.1.1.1.2 key found
      rw [there, Option.isSome_some]
  · intro present
    obtain ⟨part, found⟩ := Option.isSome_iff_exists.mp present
    obtain ⟨own, there, -⟩ := fits.part proper key part found
    rw [there, Option.isSome_some]

/-- Statements are kept in the policies of a role, and nowhere else. -/
theorem ExecutionPolicy.withStatement_elsewhere (statement properties : Value) (key : String) (other : key ≠ "Policies") :
    (withStatement statement properties).field? key = properties.field? key := by
  cases properties with
  | obj fields =>
      change Table.find? (Table.update _ _ _) key = Table.find? fields key
      rw [Table.find?_update]
      simp only [if_neg other, Option.map_id']
  | _ => rfl

/-- What the resource of a function says about networks and file systems. -/
structure Resource.Networked (held : Resource) (function : FunctionConfig) (provider : ProviderConfig) : Prop where
  type : held.type = .str "AWS::Lambda::Function"
  attached : (held.properties.field? "VpcConfig").isSome = true ↔ ∃ network, function.Attached provider network
  network : ∀ network, function.Attached provider network →
    ∃ config, held.properties.field? "VpcConfig" = some config ∧ config.same network.toValue = true
  mounted : (held.properties.field? "FileSystemConfigs").isSome = true →
    (held.properties.field? "VpcConfig").isSome = true

namespace Blueprint

/-- The id of a function is its own: no other function has it, and no resource is declared under it. -/
def Owns (blueprint : Blueprint) (entry : String × FunctionConfig) : Prop :=
  (∀ other ∈ blueprint.functions, Naming.function other.1 = Naming.function entry.1 → other = entry) ∧
    ∀ own, ¬blueprint.service.Declares (Naming.function entry.1) own

section

variable {blueprint : Blueprint} {core start : Graph} {session : RegistrySession} {w : Workspace}
  {policy : Option ExecutionPolicy} {plans : List Plan} {plan : Plan}
  (took : blueprint.Took core session w start policy plans) (seeded : Core.graph blueprint.service = .ok core)

include took seeded

theorem Took.networked (proper : blueprint.IsProper) (regular : (Value.obj blueprint.service.resources).isProper = true)
    (planned : plan ∈ plans) : ∃ held, w.graph.find? (Naming.function plan.name) = some held ∧
      held.Networked plan.function blueprint.provider := by
  obtain ⟨held, found, fits, type, known⟩ := took.holds_proper seeded proper regular planned .compute
  obtain ⟨_, _, makes⟩ := took.made plan planned
  have vpc := plan.compute_vpc makes
  refine ⟨held, found, ?_⟩
  exact {
    type := type
    attached := by rw [fits.has_iff known, vpc, Compute.vpc?_isSome]
    network := by
      intro network attached
      have whole := (Compute.vpc?_iff plan.function blueprint.provider _).mpr ⟨network, attached, rfl⟩
      exact fits.part known "VpcConfig" _ (vpc.trans whole)
    mounted := by
      rw [fits.has_iff known, fits.has_iff known, plan.compute_fileSystems makes, vpc]
      exact (Compute.checkFileSystem_iff plan.function blueprint.provider plan.name).mp makes.mounted }

/-- Where the id of a function is its own, its resource has the network as it is. -/
theorem Took.network_exact (planned : plan ∈ plans) (owns : blueprint.Owns plan.entry) (network : Network)
    (attached : plan.function.Attached blueprint.provider network) (held : Resource)
    (found : w.graph.find? (Naming.function plan.name) = some held) :
    held.properties.field? "VpcConfig" = some network.toValue := by
  obtain ⟨own, present, fits, whole⟩ := took.holds planned
  cases found.symm.trans present
  have free : core.find? (Naming.function plan.name) = none := by
    rw [Option.eq_none_iff_forall_ne_some]
    intro declared there
    rw [there, Option.some_or, Option.some.injEq] at whole
    subst whole
    have type := (fits.type_iff _).mpr (plan.compute_type blueprint)
    exact owns.2 _ (Core.graph_declares _ core seeded _ _ there (type ▸ Plan.Kind.compute.type_foreign))
  rw [free, Option.none_or, eq_comm, Option.map_eq_some_iff] at whole
  obtain ⟨source, first, rfl⟩ := whole
  have listed : source ∈ plans := List.mem_of_find?_eq_some first
  have shares : Naming.function source.name = Naming.function plan.name := by simpa using List.find?_some first
  have same : source.entry = plan.entry := owns.1 source.entry (took.declared source listed) shares
  have function : source.function = plan.function := congrArg Prod.snd same
  obtain ⟨_, _, makes⟩ := took.made source listed
  rw [source.compute_vpc makes, function, Compute.vpc?_iff]
  exact ⟨network, attached, rfl⟩

omit seeded in
/-- The default role as it is made keeps all but its policies. -/
theorem Took.role_keeps (found : core.find? defaultExecutionRole = some (Core.executionRole blueprint.service))
    (key : String) (other : key ≠ "Policies") : ∃ role, w.graph.find? defaultExecutionRole = some role ∧
      role.type = .str "AWS::IAM::Role" ∧
      role.properties.field? key = (Core.executionRole blueprint.service).properties.field? key := by
  obtain ⟨-, present⟩ := ExecutionPolicy.ofGraph_executionRole blueprint.service core start policy took.begins found
  cases took.performed.answered with
  | idle _ _ kept => exact ⟨_, kept.trans present, rfl, rfl⟩
  | apart _ _ _ kept => exact ⟨_, kept.trans present, rfl, rfl⟩
  | inRole _ role _ _ there _ _ changed =>
      have own : role = Core.executionRole blueprint.service := Option.some.inj (there.symm.trans present)
      subst own
      refine ⟨_, changed, rfl, ?_⟩
      dsimp only
      rw [ExecutionPolicy.withStatement_elsewhere _ _ key other]

/-- A default role has access to networks where some function is in one. -/
theorem Took.role_access (entry runner : String × FunctionConfig) (declared : entry ∈ blueprint.service.functions)
    (runs : runner ∈ blueprint.service.functions) (network : Network)
    (attached : entry.2.Attached blueprint.service.provider network) (role : Role)
    (resolves : Role.ofFunction runner.2 blueprint.service.provider = .ok role) (default : role.isDefault = true) :
    ∃ held, w.graph.find? defaultExecutionRole = some held ∧ held.type = .str "AWS::IAM::Role" ∧
      held.properties.field? "ManagedPolicyArns" = some (.arr [Intrinsic.sub vpcAccessPolicy]) := by
  have uses := Core.usesVpc_of_attached blueprint.service entry.1 entry.2 declared network attached
  have made := Core.graph_role blueprint.service core seeded runner.1 runner.2 role runs resolves default
  obtain ⟨held, there, type, same⟩ := took.role_keeps made "ManagedPolicyArns" (by decide)
  refine ⟨held, there, type, same.trans ?_⟩
  rw [Core.executionRole, if_pos uses]
  rfl

end

/-- A file system that no network has keeps a service from being compiled. -/
theorem compileService_unmounted (blueprint : Blueprint) (previous : Option Graph) (entry : String × FunctionConfig)
    (declared : entry ∈ blueprint.functions) (mounts : entry.2.fileSystem.isSome = true)
    (outside : ∀ network, ¬entry.2.Attached blueprint.provider network) :
    ∃ failure, (blueprint.compileService previous).1 = .error failure := by
  cases outcome : (blueprint.compileService previous).1 with
  | error failure => exact ⟨failure, rfl⟩
  | ok delivered =>
      obtain ⟨core, w, start, policy, plans, -, took, -⟩ := compileService_took outcome
      obtain ⟨plan, planned, name, function⟩ := took.planned entry.1 entry.2 declared
      obtain ⟨_, _, makes⟩ := took.made plan planned
      have complete := (Compute.checkFileSystem_iff _ _ plan.name).mp makes.mounted (function ▸ mounts)
      obtain ⟨network, attached⟩ := (Compute.vpc?_isSome _ _).mp complete
      exact absurd (function ▸ attached) (outside network)

/-- A function says that it is in a network exactly if it is in one, and then in which. It mounts a file system in a network
only: without one, the service does not compile. Where some function is in a network, a default role has access to networks. -/
theorem compileService_networks (service : ServiceConfig) (files : Files) (registry : Registry) (enforce : Bool)
    (proper : (ofService service files registry enforce).IsProper)
    (regular : (Value.obj service.resources).isProper = true) (previous : Option Graph) :
    (∀ graph compiled, ((ofService service files registry enforce).compileService previous).1 = .ok (graph, compiled) →
      (∀ name function, (name, function) ∈ service.functions →
        ∃ held, graph.find? (Naming.function name) = some held ∧ held.Networked function service.provider ∧
          ((ofService service files registry enforce).Owns (name, function) →
            ∀ network, function.Attached service.provider network →
              held.properties.field? "VpcConfig" = some network.toValue)) ∧
      ((∃ entry ∈ service.functions, ∃ held, graph.find? (Naming.function entry.1) = some held ∧
          (held.properties.field? "VpcConfig").isSome = true) →
        (∃ entry ∈ service.functions, ∃ role, Role.ofFunction entry.2 service.provider = .ok role ∧
          role.isDefault = true) →
        ∃ role, graph.find? defaultExecutionRole = some role ∧ role.type = .str "AWS::IAM::Role" ∧
          role.properties.field? "ManagedPolicyArns" = some (.arr [Intrinsic.sub vpcAccessPolicy]))) ∧
      ((∃ entry ∈ service.functions, entry.2.fileSystem.isSome = true ∧
          ∀ network, ¬entry.2.Attached service.provider network) →
        ∃ failure, ((ofService service files registry enforce).compileService previous).1 = .error failure) := by
  constructor
  · intro graph compiled compiles
    obtain ⟨core, w, start, policy, plans, seeded, took, rfl, -⟩ := compileService_took compiles
    have kept := Graph.carried_keeps w.graph previous
    constructor
    · intro name function declared
      obtain ⟨plan, planned, rfl, rfl⟩ := took.planned name function declared
      obtain ⟨held, found, networked⟩ := took.networked seeded proper regular planned
      refine ⟨held, kept _ held found, networked, ?_⟩
      intro owns network attached
      exact took.network_exact seeded planned owns network attached held found
    · intro inside default
      obtain ⟨entry, declared, compute, present, attached⟩ := inside
      obtain ⟨runner, runs, role, resolves, default⟩ := default
      obtain ⟨plan, planned, name, function⟩ := took.planned entry.1 entry.2 declared
      obtain ⟨held, found, networked⟩ := took.networked seeded proper regular planned
      rw [name] at found
      cases present.symm.trans (kept _ held found)
      obtain ⟨network, attached⟩ := networked.attached.mp attached
      obtain ⟨executionRole, there, rest⟩ :=
        took.role_access seeded entry runner declared runs network (function ▸ attached) role resolves default
      exact ⟨executionRole, kept _ _ there, rest⟩
  · intro stray
    obtain ⟨entry, declared, mounts, outside⟩ := stray
    exact compileService_unmounted (ofService service files registry enforce) previous entry declared mounts outside

/-- A function with security groups and a file system of its own, in the subnets of the provider, and one in no network. -/
def mounted : ServiceConfig := .ofFields [
  ("service", .str "s"),
  ("provider", .obj [
    ("versionFunctions", .bool false),
    ("vpc", .obj [("subnetIds", .arr [.str "subnet-1"]), ("securityGroupIds", .arr [.str "sg-1"])])]),
  ("functions", .obj [
    ("api", .obj [
      ("handler", .str "api.handle"),
      ("vpc", .obj [("securityGroupIds", .arr [.str "sg-2"]), ("ipv6AllowedForDualStack", .bool true)]),
      ("fileSystemConfig", .obj [
        ("arn", .str "arn:aws:elasticfilesystem:eu:1:access-point/a"), ("localMountPath", .str "/mnt/a")])]),
    ("job", .obj [("handler", .str "job.run"), ("vpc", .bool false)])])]

/-- The first function is in the provider's subnets with its own security groups. Without the provider's network nothing is
compiled, for there is a file system then that no network has. -/
theorem mounted_network : ∃ graph compiled compute role failure,
    ((ofService mounted (.empty []) ⟨false, fun _ => .error ""⟩ false).compileService none).1 = .ok (graph, compiled) ∧
      graph.find? "ApiLambdaFunction" = some compute ∧
      compute.properties.field? "VpcConfig" =
        some (Network.toValue ⟨[.str "subnet-1"], [.str "sg-2"], some true⟩) ∧
      graph.find? defaultExecutionRole = some role ∧
      role.properties.field? "ManagedPolicyArns" = some (.arr [Intrinsic.sub vpcAccessPolicy]) ∧
      ((ofService { mounted with provider := { mounted.provider with vpc := none } } (.empty [])
        ⟨false, fun _ => .error ""⟩ false).compileService none).1 = .error failure := by
  obtain ⟨graph, compiled, compiles, -⟩ := compileService_any
    (ofService mounted (.empty []) ⟨false, fun _ => .error ""⟩ false) none (fun _ _ => true) (by decide +kernel)
  obtain ⟨each, access⟩ := (compileService_networks mounted (.empty []) ⟨false, fun _ => .error ""⟩ false
    (by decide +kernel) (by decide +kernel) none).1 graph compiled compiles
  obtain ⟨api, job, functions, own, mounts, runs⟩ : ∃ api job, mounted.functions = [("api", api), ("job", job)] ∧
      api.vpc = .given (.attached ⟨none, some [.str "sg-2"], some true⟩) ∧ api.fileSystem.isSome = true ∧
      Role.ofFunction api mounted.provider = .ok .theDefault := ⟨_, _, rfl, rfl, rfl, rfl⟩
  have declared : ("api", api) ∈ mounted.functions := functions ▸ List.mem_cons_self ..
  have attached : api.Attached mounted.provider ⟨[.str "subnet-1"], [.str "sg-2"], some true⟩ := {
    cleared := own ▸ nofun
    refused := own ▸ nofun
    subnets := .shared (fun config given => by cases own.symm.trans given; rfl)
      ⟨some [.str "subnet-1"], some [.str "sg-1"], none⟩ rfl rfl
    groups := .own _ own rfl
    populated := ⟨List.cons_ne_nil _ _, List.cons_ne_nil _ _⟩
    ipv6 := by
      intro on
      rw [← Compute.vpcField_iff, Compute.vpcField, own]
      rfl }
  have owns : (ofService mounted (.empty []) ⟨false, fun _ => .error ""⟩ false).Owns ("api", api) := by
    constructor
    · intro other listed shares
      rw [show (ofService mounted (.empty []) ⟨false, fun _ => .error ""⟩ false).functions = _ from functions] at listed
      rcases List.mem_cons.mp listed with same | later
      · exact same
      · rw [List.mem_singleton.mp later] at shares
        exact absurd shares (by decide +kernel : Naming.function "job" ≠ Naming.function "api")
    · rintro _ ⟨block, value, entries, present, -⟩
      cases entries
      cases present
  obtain ⟨compute, found, networked, exact⟩ := each "api" api declared
  have network := exact owns _ attached
  obtain ⟨role, there, -, policies⟩ := access ⟨_, declared, compute, found, by rw [network]; rfl⟩
    ⟨_, declared, .theDefault, runs, rfl⟩
  have outside : ∀ network, ¬api.Attached { mounted.provider with vpc := none } network := by
    intro network attached
    cases attached.subnets with
    | own config given set =>
        cases own.symm.trans given
        cases set
    | shared _ config provided => cases provided
  obtain ⟨failure, fails⟩ := (compileService_networks
    { mounted with provider := { mounted.provider with vpc := none } } (.empty []) ⟨false, fun _ => .error ""⟩ false
    (by decide +kernel) (by decide +kernel) none).2 ⟨("api", api), declared, mounts, outside⟩
  have named : Naming.function "api" = "ApiLambdaFunction" := by decide +kernel
  exact ⟨graph, compiled, compute, role, failure, compiles, named ▸ found, network, there, policies, fails⟩

end Blueprint

end FunctionStack
