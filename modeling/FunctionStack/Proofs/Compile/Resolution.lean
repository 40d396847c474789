import FunctionStack.Proofs.Compile.Order
import FunctionStack.Proofs.Compile.Sending

/-!
References that a compilation writes by itself. Wherever a template refers to anything, users have written the reference, it is
one to a pseudo parameter, or it points at a resource that the compilation has a rule for; and that resource is there. The one
exception is a role without a name, which is referred to and not waited for.
-/

namespace FunctionStack

open Value

/-- The ARNs that are made from names: those of the log groups, and one for each function under its deployed name. -/
def ServiceConfig.arns (service : ServiceConfig) : List Value :=
  Core.logArns service ++ service.functions.map fun (name, function) =>
    Intrinsic.functionArn (service.deployedName name (some function) (some service.provider.stage))

/-- A reference that users have written into a value, or as a placeholder into a name. -/
def ServiceConfig.Wrote (service : ServiceConfig) (id : String) : Prop :=
  ∃ value ∈ service.provider.written ++ service.functions.flatMap (fun entry => entry.2.written) ++ service.arns,
    id ∈ value.references

/-- What a compilation points at by itself, and the type that is expected there. A role that is given by its name may be of any
type. -/
inductive ServiceConfig.PointsAt (service : ServiceConfig) (compiled : List CompiledFunction) : String → Option String → Prop
  | bucket (own : Text.given service.provider.deploymentBucket = none) :
      PointsAt service compiled deploymentBucketId (some "AWS::S3::Bucket")
  | role (name : String) (function : FunctionConfig) (declared : (name, function) ∈ service.functions)
      (default : Role.ofFunction function service.provider = .ok Role.theDefault) :
      PointsAt service compiled defaultExecutionRole (some "AWS::IAM::Role")
  | named (name : String) (function : FunctionConfig) (declared : (name, function) ∈ service.functions) (text : String)
      (given : Role.declared function service.provider = .str text) (apart : text ≠ defaultExecutionRole)
      (logical : Text.beginsWith text "arn:" = false) : PointsAt service compiled text none
  | function (record : CompiledFunction) (listed : record ∈ compiled) :
      PointsAt service compiled record.id (some "AWS::Lambda::Function")
  | version (record : CompiledFunction) (listed : record ∈ compiled) (id : String) (published : record.version = some id) :
      PointsAt service compiled id (some "AWS::Lambda::Version")
  | targetAlias (record : CompiledFunction) (listed : record ∈ compiled) (id : String)
      (called : record.targetAlias = some id) : PointsAt service compiled id (some "AWS::Lambda::Alias")
  | url (record : CompiledFunction) (listed : record ∈ compiled) (id : String) (opened : record.url = some id) :
      PointsAt service compiled id (some "AWS::Lambda::Url")

/-- The references there may be. -/
inductive ServiceConfig.MayRefer (service : ServiceConfig) (compiled : List CompiledFunction) (id : String) : Prop
  | written (wrote : service.Wrote id)
  | pseudo (parameter : isPseudo id = true)
  | own (type : Option String) (points : service.PointsAt compiled id type)

/-- The block of outputs holds this one under this key. -/
def ServiceConfig.Exposes (service : ServiceConfig) (key : String) (output : Value) : Prop :=
  ∃ block, Fields.entries service.resources "Outputs" = .ok block ∧ (key, output) ∈ block

/-- A resource is there, of the type that is expected. -/
def Graph.Resolves (graph : Graph) (id : String) (type : Option String) : Prop :=
  ∃ held, graph.find? id = some held ∧ ∀ text, type = some text → held.type = .str text

theorem Graph.Resolves.carried {graph : Graph} {id : String} {type : Option String} (resolves : graph.Resolves id type)
    (previous : Option Graph) : (previous.elim graph graph.carryRetained).Resolves id type := by
  obtain ⟨held, found, typed⟩ := resolves
  exact ⟨held, carried_keeps graph previous id held found, typed⟩

namespace Resource

/-- Whatever is not empty is waited for, if it was not before. -/
theorem dependOn_str (resource : Resource) (ids : List Value) (id : String) (listed : .str id ∈ ids) (named : id ≠ "") :
    .str id ∈ (resource.dependOn ids).dependsOn := by
  have given : (Value.str id).given = true := by simpa [Value.given] using named
  rw [dependOn, newDependencies, List.mem_append, List.mem_filter, given, Bool.true_and, Bool.not_eq_true']
  cases known : (Value.str id).isIn resource.dependsOn with
  | false => exact Or.inr ⟨listed, rfl⟩
  | true =>
      obtain ⟨other, member, equal⟩ := List.any_eq_true.mp known
      rw [same_str equal] at member
      exact Or.inl member

theorem Fits.dependsOn_str {held resource : Resource} (fits : held.Fits resource) (id : String)
    (member : .str id ∈ resource.dependsOn) : .str id ∈ held.dependsOn := by
  rcases fits with rfl | equal
  · exact member
  · simp only [same, Bool.and_eq_true, sameItems_forall] at equal
    obtain ⟨other, listed, alike⟩ := forall₂_mem_right equal.1.1.2 _ member
    rwa [str_same alike] at listed

end Resource

/-- A function comes after a role that is given by its name. -/
theorem Compute.resource_role (service : ServiceConfig) (provider : ProviderConfig) (enforce : Bool) (name : String)
    (function : FunctionConfig) (code : Code) (role : Role) (id : String) (depends : role.dependency = .str id)
    (named : id ≠ "") : .str id ∈ (resource service provider enforce name function code role).dependsOn := by
  unfold resource withDependencies
  dsimp only
  split
  · exact Resource.dependOn_str _ _ id (List.mem_singleton.mpr depends.symm) named
  · exact List.mem_append_right _ (Resource.dependOn_str _ _ id (List.mem_singleton.mpr depends.symm) named)

theorem Role.ofFunction_text (function : FunctionConfig) (provider : ProviderConfig) (text : String)
    (given : declared function provider = .str text) (apart : text ≠ defaultExecutionRole)
    (logical : Text.beginsWith text "arn:" = false) :
    ofFunction function provider = .ok ⟨.logical, Intrinsic.getAtt text "Arn", .str text⟩ := by
  rw [ofFunction, given, ofValue, ofText, if_neg apart, if_neg (by simp [logical])]

namespace Core

/-- A core graph without another bucket has one. -/
theorem graph_bucket (service : ServiceConfig) (core : Graph) (seeded : Core.graph service = .ok core)
    (own : Text.given service.provider.deploymentBucket = none) : core.find? deploymentBucketId = some bucketResource := by
  obtain ⟨seeds, lookup⟩ := graph_lookup service core seeded
  rw [lookup, Seeds.all, bucketSeeds, own]
  rfl

/-- A core graph refers to the bucket, and its role to pseudo parameters and to what its ARNs refer to. -/
theorem Own.refers {service : ServiceConfig} {id : String} {resource : Resource} (own : Own service id resource)
    {allowed : String → Prop} (bucket : service.provider.bucket.Refers allowed)
    (arns : ∀ arn ∈ logArns service, arn.Refers allowed) (pseudo : ∀ id, isPseudo id = true → allowed id) :
    resource.properties.Refers allowed := by
  have mentions : resource.Mentions allowed := by
    cases own with
    | bucket => exact Resource.nothing_mentioned _ bucketResource_mentions
    | role => exact executionRole_mentions service arns pseudo
    | log name => exact Resource.nothing_mentioned _ (logGroup_mentions service name)
    | layer name config artifact => exact layer_mentions service name config artifact bucket
  exact ((Resource.mentions_iff _ _).mp mentions).2

end Core

namespace Blueprint

section Targets

variable {blueprint : Blueprint} {core start : Graph} {session : RegistrySession} {w : Workspace}
  {policy : Option ExecutionPolicy} {plans : List Plan} (took : blueprint.Took core session w start policy plans)

include took

/-- What a plan places is there. -/
theorem Took.resolves {plan : Plan} (planned : plan ∈ plans) {kind : Plan.Kind} {id : String} {resource : Resource}
    (places : plan.Places blueprint kind id resource) : w.graph.Resolves id (some kind.type) := by
  obtain ⟨held, found, fits⟩ :=
    took.grows.fits id resource ((course_placed blueprint plans id resource).mpr ⟨plan, planned, kind, places⟩)
  refine ⟨held, found, fun text same => ?_⟩
  cases same
  exact (fits.type_iff _).mpr places.type

/-- What the core graph holds is there, and of its type. -/
theorem Took.seed_resolves (id : String) (resource : Resource) (type : String) (found : core.find? id = some resource)
    (typed : resource.type = .str type) : w.graph.Resolves id (some type) := by
  have whole (held : Resource) (same : held.type = resource.type) : ∀ text, some type = some text → held.type = .str text := by
    intro text equal
    cases equal
    exact same.trans typed
  by_cases apart : id = defaultExecutionRole
  · subst apart
    obtain ⟨more, ids⟩ := took.grows.ids
    have listed : defaultExecutionRole ∈ w.graph.ids := by
      rw [ids, (ExecutionPolicy.ofGraph_keeps core start policy took.begins).1]
      exact List.mem_append_left _ (List.mem_map.mpr ⟨_, Table.find?_some_mem _ _ _ found, rfl⟩)
    obtain ⟨held, present⟩ := Option.isSome_iff_exists.mp ((Table.has_iff_keys _ _).mpr listed)
    obtain ⟨own, there, same⟩ := took.role_type held present
    cases found.symm.trans there
    exact ⟨held, present, whole held same.symm⟩
  · refine ⟨resource, ?_, whole resource rfl⟩
    rw [took.elsewhere id apart, found, Option.some_or]

/-- A role that is given by its name is there, because its function waits for it. -/
theorem Took.named_resolves (name : String) (function : FunctionConfig) (declared : (name, function) ∈ blueprint.functions)
    (text : String) (role : Role.ofFunction function blueprint.provider =
      .ok ⟨.logical, Intrinsic.getAtt text "Arn", .str text⟩) (named : text ≠ "") : w.graph.Resolves text none := by
  obtain ⟨plan, planned, rfl, rfl⟩ := took.planned name function declared
  obtain ⟨_, _, makes⟩ := took.made plan planned
  obtain ⟨held, found, fits⟩ := course_compute took.grows plan planned
  have depends : plan.role.dependency = .str text := by
    have same := makes.role.symm.trans role
    rw [Except.ok.inj same]
  have waits := fits.dependsOn_str text (Compute.resource_role _ _ _ _ _ _ _ text depends named)
  have present : w.graph.resolves (.str text) = true :=
    took.closed _ held (Table.find?_some_mem _ _ _ found) (.str text) waits
  obtain ⟨target, there⟩ := Option.isSome_iff_exists.mp present
  exact ⟨target, there, fun _ same => by cases same⟩

end Targets

section References

variable {service : ServiceConfig} {files : Files} {registry : Registry} {enforce : Bool} {core start : Graph}
  {session : RegistrySession} {w : Workspace} {policy : Option ExecutionPolicy} {plans : List Plan}
  (seeded : Core.graph service = .ok core)
  (took : (ofService service files registry enforce).Took core session w start policy plans)

section

include seeded took

/-- All that is pointed at is there, as long as it has a name. -/
theorem Took.points_resolve (id : String) (type : Option String)
    (points : service.PointsAt (plans.map Plan.record) id type) :
    w.graph.Resolves id type ∨ id = "" ∧ type = none ∧ ∃ name function, (name, function) ∈ service.functions ∧
      Role.declared function service.provider = .str "" := by
  cases points with
  | bucket own => exact Or.inl (took.seed_resolves _ _ _ (Core.graph_bucket service core seeded own) rfl)
  | role name function declared default =>
      have role := Core.graph_role service core seeded name function _ declared default rfl
      exact Or.inl (took.seed_resolves _ _ _ role rfl)
  | named name function declared text given apart logical =>
      by_cases named : id = ""
      · subst named
        exact Or.inr ⟨rfl, rfl, name, function, declared, given⟩
      · have role := Role.ofFunction_text function service.provider id given apart logical
        exact Or.inl (took.named_resolves name function declared id role named)
  | function record listed =>
      obtain ⟨plan, planned, rfl⟩ := List.mem_map.mp listed
      exact Or.inl (took.resolves planned .compute)
  | version record listed _ published =>
      obtain ⟨plan, planned, rfl⟩ := List.mem_map.mp listed
      obtain ⟨digest, made, rfl⟩ := Option.map_eq_some_iff.mp published
      exact Or.inl (took.resolves planned (.version digest made))
  | targetAlias record listed _ called =>
      obtain ⟨plan, planned, rfl⟩ := List.mem_map.mp listed
      obtain ⟨own, through, rfl⟩ := Option.map_eq_some_iff.mp called
      obtain ⟨digest, published, found⟩ := Option.bind_eq_some_iff.mp through
      obtain ⟨⟨_, extra⟩, known, rfl⟩ := Option.map_eq_some_iff.mp found
      exact Or.inl (took.resolves planned (.targetAlias digest _ extra published known))
  | url record listed _ opened =>
      obtain ⟨plan, planned, rfl⟩ := List.mem_map.mp listed
      obtain ⟨config, found, rfl⟩ := Option.map_eq_some_iff.mp opened
      exact Or.inl (took.resolves planned (.url config found))

end

variable {compiled : List CompiledFunction}

theorem bucket_refers : service.provider.bucket.Refers (service.MayRefer compiled) := by
  unfold ProviderConfig.bucket
  split
  · exact refers_str _
  case h_2 own => exact (refers_ref _).mpr (.own _ (.bucket own))

theorem provider_refers : ∀ value ∈ service.provider.written, value.Refers (service.MayRefer compiled) := by
  intro value member id inside
  exact .written ⟨value, by simp [member], inside⟩

theorem function_refers (name : String) (function : FunctionConfig) (declared : (name, function) ∈ service.functions) :
    ∀ value ∈ function.written, value.Refers (service.MayRefer compiled) := by
  intro value member id inside
  have listed : value ∈ service.functions.flatMap fun entry => entry.2.written := List.mem_flatMap.mpr ⟨_, declared, member⟩
  exact .written ⟨value, by simp [listed], inside⟩

theorem arns_refer : ∀ value ∈ service.arns, value.Refers (service.MayRefer compiled) := by
  intro value member id inside
  exact .written ⟨value, by simp [member], inside⟩

theorem functionArn_refers (name : String) (function : FunctionConfig) (declared : (name, function) ∈ service.functions) :
    (Intrinsic.functionArn (service.deployedName name (some function) (some service.provider.stage))).Refers
      (service.MayRefer compiled) := by
  apply arns_refer
  exact List.mem_append_right _ (List.mem_map.mpr ⟨(name, function), declared, rfl⟩)

theorem role_refers (name : String) (function : FunctionConfig) (declared : (name, function) ∈ service.functions) (role : Role)
    (resolves : Role.ofFunction function service.provider = .ok role) :
    role.value.Refers (service.MayRefer compiled) := by
  have named (text : String) (given : Role.declared function service.provider = .str text) :
      text = defaultExecutionRole ∨ Text.beginsWith text "arn:" = true ∨ service.MayRefer compiled text := by
    by_cases apart : text = defaultExecutionRole
    · exact Or.inl apart
    · cases logical : Text.beginsWith text "arn:" with
      | true => exact Or.inr (Or.inl rfl)
      | false => exact Or.inr (Or.inr (.own _ (.named name function declared text given apart logical)))
  rcases Role.ofFunction_refers function service.provider role (function_refers name function declared) provider_refers named
    resolves with rfl | ⟨_, refers, _⟩
  · exact (refers_getAtt _ _).mpr (.own _ (.role name function declared resolves))
  · exact refers

theorem function_known (plan : Plan) (planned : plan ∈ plans) :
    service.MayRefer (plans.map Plan.record) (Naming.function plan.name) :=
  .own _ (.function plan.record (List.mem_map_of_mem planned))

theorem alias_known (plan : Plan) (planned : plan ∈ plans) (own : TargetAlias) (through : plan.via = some own) :
    service.MayRefer (plans.map Plan.record) own.id :=
  .own _ (.targetAlias plan.record (List.mem_map_of_mem planned) own.id (congrArg (Option.map _) through))

include took

/-- A destination points at what users wrote, or at a function. -/
theorem Took.destination_refers (plan : Plan) (planned : plan ∈ plans) (outcome : String) (destination : Destination)
    (listed : (outcome, destination) ∈ plan.destinations) : isPlainKey outcome = true ∧
      destination.pointer.Refers (service.MayRefer (plans.map Plan.record)) ∧
      destination.reference.Refers (service.MayRefer (plans.map Plan.record)) := by
  obtain ⟨_, _, makes⟩ := took.made plan planned
  obtain ⟨⟨_, target⟩, member, rfl, read⟩ := forall₂_mem_right makes.targets _ listed
  obtain ⟨plain, among⟩ := targets_written plan.function _ target member
  have written : target.Refers (service.MayRefer (plans.map Plan.record)) :=
    function_refers plan.name plan.function (took.declared plan planned) target (List.mem_append_right _ among)
  obtain ⟨pointer, reference⟩ := Blueprint.destination_refers (ofService service files registry enforce) plan.name target
    destination functionArn_refers written read
  refine ⟨plain, pointer, reference.mono fun id known => known.elim (fun known => known) fun function => ?_⟩
  obtain ⟨name, keyed, rfl⟩ := List.mem_map.mp function
  obtain ⟨⟨_, settings⟩, declared, rfl⟩ := List.mem_map.mp keyed
  obtain ⟨other, also, rfl, _⟩ := took.planned _ settings declared
  exact function_known other also

/-- What is placed for a function refers to nothing else. -/
theorem Took.placed_refers (plan : Plan) (planned : plan ∈ plans) {kind : Plan.Kind} {id : String} {resource : Resource}
    (places : plan.Places (ofService service files registry enforce) kind id resource) :
    resource.properties.Refers (service.MayRefer (plans.map Plan.record)) := by
  have declared : (plan.name, plan.function) ∈ service.functions := took.declared plan planned
  have called : service.MayRefer (plans.map Plan.record) (Naming.function plan.name) := function_known plan planned
  have known (own : TargetAlias) (through : plan.via = some own) : service.MayRefer (plans.map Plan.record) own.id :=
    alias_known plan planned own through
  obtain ⟨session, graph, makes⟩ := took.made plan planned
  cases places with
  | compute =>
      have source : FieldsRefer (service.MayRefer (plans.map Plan.record)) plan.code.properties :=
        code_refer _ plan.name plan.function (.fresh graph none session) _ plan.code bucket_refers
          ((code_iff _ _ _ _ _ _).mpr ⟨makes.code, rfl⟩)
      rw [Plan.compute, Compute.resource_properties, refers_obj]
      exact Compute.properties_refer plan.function service.provider (function_refers plan.name plan.function declared)
        provider_refers service enforce plan.name plan.code plan.role source
        (role_refers plan.name plan.function declared plan.role makes.role)
  | version digest =>
      exact ((Resource.mentions_iff _ _).mp (Version.resource_mentions plan.name digest _ called)).2
  | targetAlias digest via extra published found =>
      have version : service.MayRefer (plans.map Plan.record) (Version.id plan.name digest) :=
        .own _ (.version plan.record (List.mem_map_of_mem planned) _ (congrArg (Option.map _) published))
      have own := (versionAlias_ok plan.name plan.function via extra found).2 (service.MayRefer (plans.map Plan.record))
      exact ((Resource.mentions_iff _ _).mp (via.resource_mentions plan.name _ extra called version own)).2
  | url config => exact ((Resource.mentions_iff _ _).mp (Url.resource_mentions plan.name config plan.via called known)).2
  | permission => exact ((Resource.mentions_iff _ _).mp (Url.permission_mentions plan.name plan.via called known)).2
  | eventConfig =>
      have entries : FieldsRefer (service.MayRefer (plans.map Plan.record)) (Plan.entries plan.destinations) := by
        intro key value member
        obtain ⟨⟨outcome, destination⟩, listed, pair⟩ := List.mem_map.mp member
        obtain ⟨rfl, rfl⟩ := Prod.mk.inj pair
        obtain ⟨plain, _, reference⟩ := took.destination_refers plan planned outcome destination listed
        rw [fieldReferences_plain outcome _ plain, refers_obj, fieldsRefer_single _ _ rfl]
        exact ⟨fun id inside => (by cases inside), reference⟩
      exact ((Resource.mentions_iff _ _).mp
        (EventConfig.resource_mentions plan.name plan.function _ plan.via called known entries)).2

/-- What the policy is asked for refers to nothing else. -/
theorem Took.asked_refers (move : Move) (member : move ∈ (ofService service files registry enforce).course plans)
    (statement : Value) (asks : move.Asks statement) : statement.Refers (service.MayRefer (plans.map Plan.record)) := by
  obtain ⟨plan, planned, taken⟩ := List.mem_flatMap.mp member
  have written : ∀ value ∈ plan.function.written, value.Refers (service.MayRefer (plans.map Plan.record)) :=
    function_refers plan.name plan.function (took.declared plan planned)
  cases plan.moves_take _ move taken with
  | allow _ _ needed =>
      cases asks
      exact Compute.statements_refer plan.function _ written statement needed
  | send _ outcome destination listed =>
      cases asks
      rw [← allow_sendPermission]
      exact refers_allow _ _ (refers_str _) (took.destination_refers plan planned outcome destination listed).2.1 _
  | place => cases asks
  | expose => cases asks

include seeded

/-- The default role refers to nothing else, unless it is declared. -/
theorem Took.role_accounted (held : Resource) (found : w.graph.find? defaultExecutionRole = some held) :
    (∃ resource, service.Declares defaultExecutionRole resource) ∨
      held.properties.Refers (service.MayRefer (plans.map Plan.record)) := by
  have arns : ∀ arn ∈ Core.logArns service, arn.Refers (service.MayRefer (plans.map Plan.record)) :=
    fun arn member => arns_refer arn (List.mem_append_left _ member)
  have begun (role : Resource) (present : start.find? defaultExecutionRole = some role) :
      (∃ resource, service.Declares defaultExecutionRole resource) ∨
        role.properties.Refers (service.MayRefer (plans.map Plan.record)) := by
    rcases ExecutionPolicy.ofGraph_ok core start policy took.begins with ⟨_, rfl, _⟩ | ⟨own, properties, there, made, rfl, _⟩
    · exact (Core.graph_origin service _ seeded _ role present).symm.imp (fun declares => ⟨role, declares⟩)
        fun own => own.refers bucket_refers arns fun _ => .pseudo
    · rw [ExecutionPolicy.setProperties_find?, there, Option.map_some, if_pos rfl, Option.some.injEq] at present
      rw [← present]
      exact (Core.graph_origin service _ seeded _ own there).symm.imp (fun declares => ⟨own, declares⟩)
        fun seed => ExecutionPolicy.completeRole_refers own.properties properties
          (seed.refers bucket_refers arns fun _ => .pseudo) made
  cases took.performed.answered with
  | idle _ _ kept => exact begun held (kept.symm.trans found)
  | apart _ _ _ kept => exact begun held (kept.symm.trans found)
  | inRole statements role _ _ present list _ changed =>
      refine (begun role present).imp_right fun refers => ?_
      rw [← Option.some.inj (changed.symm.trans found)]
      refine ExecutionPolicy.withStatement_refers _ role.properties ((refers_arr _).mpr fun statement member => ?_) refers
      have before := ExecutionPolicy.statementOf_refers role.properties refers
      rw [list, refers_arr] at before
      rcases Statements.mem_foldl_add statements _ statement member with known | asked
      · exact before statement known
      · obtain ⟨move, taken, asks⟩ := Move.asked_mem _ _ statement asked
        exact took.asked_refers move taken statement asks

/-- No resource that is not declared refers to anything else. -/
theorem Took.accounted (id : String) (held : Resource) (found : w.graph.find? id = some held) :
    (∃ resource, service.Declares id resource) ∨ held.properties.Refers (service.MayRefer (plans.map Plan.record)) := by
  by_cases apart : id = defaultExecutionRole
  · subst apart
    exact took.role_accounted seeded held found
  · rw [took.elsewhere id apart] at found
    rcases Option.or_eq_some_iff.mp found with seed | ⟨_, placed⟩
    · exact (Core.graph_origin service core seeded id held seed).symm.imp (fun declares => ⟨held, declares⟩) fun own =>
        own.refers bucket_refers (fun arn member => arns_refer arn (List.mem_append_left _ member)) fun _ => .pseudo
    · obtain ⟨plan, planned, _, places⟩ := (course_placed _ plans id held).mp (Table.find?_some_mem _ _ _ placed)
      exact Or.inr (took.placed_refers plan planned places)

/-- No output that is not declared refers to anything else. -/
theorem Took.output_accounted (key : String) (output : Value) (found : w.graph.outputs.field? key = some output) :
    service.Exposes key output ∨ output.Refers (service.MayRefer (plans.map Plan.record)) := by
  have described (value : Value) (description : String) (refers : value.Refers (service.MayRefer (plans.map Plan.record))) :
      (Value.obj [("Description", .str description), ("Value", value)]).Refers
        (service.MayRefer (plans.map Plan.record)) := by
    rw [refers_obj, fieldsRefer_cons _ _ _ rfl, fieldsRefer_single _ _ rfl]
    exact ⟨refers_str _, refers⟩
  obtain ⟨block, exposed, own⟩ := Core.graph_outputs service core seeded
  have begun : start.outputs = .obj (Table.merge (Core.bucketOutputs service) block) :=
    (ExecutionPolicy.ofGraph_keeps core start policy took.begins).2.trans own
  have merged : w.graph.outputs =
      start.outputs.merged (((ofService service files registry enforce).course plans).flatMap Move.exposed) :=
    took.performed.outputs
  rw [merged, begun] at found
  rcases Table.mem_merge _ _ key output (Table.find?_some_mem _ _ _ found) with before | placed
  · rcases Table.mem_merge _ _ key output before with bucket | declared
    · unfold Core.bucketOutputs at bucket
      split at bucket
      · cases bucket
      case isFalse custom =>
        cases List.mem_singleton.mp bucket
        have none : Text.given service.provider.deploymentBucket = none := by simpa using custom
        exact Or.inr (described _ _ ((refers_ref _).mpr (.own _ (.bucket none))))
    · exact Or.inl ⟨block, exposed, declared⟩
  · obtain ⟨move, member, placed⟩ := List.mem_flatMap.mp placed
    obtain ⟨plan, planned, taken⟩ := List.mem_flatMap.mp member
    obtain ⟨value, description, exposes, rfl⟩ :=
      plan.exposes_ok _ key output (List.mem_flatMap.mpr ⟨move, taken, placed⟩)
    have listed : plan.record ∈ plans.map Plan.record := List.mem_map_of_mem planned
    refine Or.inr (described value description ?_)
    cases exposes with
    | version digest published =>
        exact (refers_ref _).mpr (.own _ (.version plan.record listed _ (congrArg (Option.map _) published)))
    | url config opened =>
        exact (refers_getAtt _ _).mpr (.own _ (.url plan.record listed _ (congrArg (Option.map _) opened)))

end References

/-- A template refers to what its users wrote, to pseudo parameters, and to what the compilation points at. All that is pointed
at is there and of the type that is expected, exactly if no function has a role without a name, or a resource without a name is
there for it. -/
theorem compileService_references (service : ServiceConfig) (files : Files) (registry : Registry) (enforce : Bool)
    (previous : Option Graph) (graph : Graph) (compiled : List CompiledFunction)
    (compiles : ((ofService service files registry enforce).compileService previous).1 = .ok (graph, compiled)) :
    ∃ own, ((ofService service files registry enforce).compileService none).1 = .ok (own, compiled) ∧
      graph = previous.elim own own.carryRetained ∧
      (∀ id held, own.find? id = some held →
        (∃ resource, service.Declares id resource) ∨ held.properties.Refers (service.MayRefer compiled)) ∧
      (∀ key output, graph.outputs.field? key = some output →
        service.Exposes key output ∨ output.Refers (service.MayRefer compiled)) ∧
      ((∀ id type, service.PointsAt compiled id type → graph.Resolves id type) ↔
        ∀ name function, (name, function) ∈ service.functions →
          Role.declared function service.provider = .str "" → graph.has "" = true) := by
  obtain ⟨own, alone, _, grown⟩ := compileService_own _ _ _ _ compiles
  obtain ⟨core, w, start, policy, plans, seeded, took, rfl, rfl⟩ := compileService_took alone
  have outputs : graph.outputs = w.graph.outputs := grown ▸ Graph.carried_outputs w.graph previous
  refine ⟨w.graph, alone, grown, took.accounted seeded, fun key output found => ?_,
    fun resolve name function declared given => ?_, fun nameless id type points => ?_⟩
  · exact took.output_accounted seeded key output (outputs ▸ found)
  · have points : service.PointsAt (plans.map Plan.record) "" none :=
      .named name function declared "" given (by decide) (by decide)
    obtain ⟨held, found, _⟩ := resolve "" none points
    exact Option.isSome_iff_exists.mpr ⟨held, found⟩
  · rcases took.points_resolve seeded id type points with resolves | ⟨rfl, rfl, name, function, declared, given⟩
    · exact grown ▸ resolves.carried previous
    · obtain ⟨held, found⟩ := Option.isSome_iff_exists.mp (nameless name function declared given)
      exact ⟨held, found, fun _ same => by cases same⟩

/-- All that is pointed at is there, also the function that is compiled after the one that sends to it. -/
theorem gate_references : ∃ graph compiled, ((packaged gate).compileService none).1 = .ok (graph, compiled) ∧
    (∀ id type, gate.PointsAt compiled id type → graph.Resolves id type) ∧
      graph.Resolves "WorkerLambdaFunction" (some "AWS::Lambda::Function") := by
  obtain ⟨graph, compiled, compiles, second⟩ := compileService_any (packaged gate) none
    (fun _ compiled => (compiled.map CompiledFunction.id)[1]? = some "WorkerLambdaFunction") (by decide +kernel)
  obtain ⟨_, _, _, _, _, resolves⟩ := compileService_references gate _ _ _ none graph compiled compiles
  have named : (gate.functions.all fun entry => (Role.declared entry.2 gate.provider).text?.isNone) = true := by decide +kernel
  have whole := resolves.mpr fun name function declared given => by
    have none := List.all_eq_true.mp named (name, function) declared
    rw [given] at none
    cases none
  refine ⟨graph, compiled, compiles, whole, ?_⟩
  obtain ⟨record, listed, worker⟩ := List.mem_map.mp (List.mem_of_getElem? (of_decide_eq_true second))
  exact worker ▸ whole record.id _ (.function record listed)

/-- A service whose role has no name. -/
def nameless : ServiceConfig := .ofFields [
  ("service", .str "s"),
  ("provider", .obj [("role", .str "")]),
  ("functions", .obj [("f", .obj [("handler", .str "h"), ("versionFunction", .bool false)])])]

/-- Its function refers to the role all the same, and nothing is there. -/
theorem nameless_dangles : ∃ graph compiled function,
    ((ofService nameless (.empty []) ⟨false, fun _ => .error ""⟩ false).compileService none).1 = .ok (graph, compiled) ∧
      nameless.PointsAt compiled "" none ∧ ¬ graph.Resolves "" none ∧
        graph.find? (Naming.function "f") = some function ∧
        function.properties.field? "Role" = some (Intrinsic.getAtt "" "Arn") := by
  obtain ⟨graph, compiled, compiles, known⟩ :=
    compileService_any (ofService nameless (.empty []) ⟨false, fun _ => .error ""⟩ false) none
      (fun graph _ => !graph.has "" && (graph.find? (Naming.function "f")).any fun function =>
        (function.properties.field? "Role").any fun role => role.same (Intrinsic.getAtt "" "Arn")) (by decide +kernel)
  rw [Bool.and_eq_true, Bool.not_eq_true', Option.any_eq_true] at known
  obtain ⟨absent, function, found, refers⟩ := known
  obtain ⟨role, runsAs, alike⟩ := (Option.any_eq_true _ _).mp refers
  have points : nameless.PointsAt compiled "" none :=
    .named "f" _ (List.mem_singleton.mpr rfl) "" rfl (by decide) (by decide)
  refine ⟨graph, compiled, function, compiles, points, ?_, found, ?_⟩
  · rintro ⟨held, present, _⟩
    have there : graph.has "" = true := Option.isSome_iff_exists.mpr ⟨held, present⟩
    rw [absent] at there
    cases there
  · rw [runsAs, (Intrinsic.getAtt_rigid "" "Arn").eq_of_same role alike]

end Blueprint

end FunctionStack
