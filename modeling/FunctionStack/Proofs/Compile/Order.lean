import FunctionStack.Proofs.Compile.Seed

/-!
No step of a compilation brings the resources of a service out of order, so that they can be created one after another
however its functions send to each other.
-/

namespace FunctionStack

open Value
open Build (Yields)

section Steps

variable {own functions : List String} {known : List (String × String)} {graph after : Graph}

theorem Ready.weaken {fewer : List (String × String)} (ready : Ready own functions known graph)
    (subset : fewer ⊆ known) : Ready own functions fewer graph :=
  ⟨ready.toPlaced.weaken subset, ready.present⟩

theorem Ready.resources (ready : Ready own functions known graph) (same : after.resources = graph.resources) :
    Ready own functions known after := by
  refine ⟨ready.toPlaced.resources same, fun id member => ?_⟩
  rw [Graph.has, same]
  exact ready.present id member

/-- A resource that mentions only what comes before its own type can be added. -/
theorem Ready.add {id type : String} {resource : Resource} (ready : Ready own functions known graph)
    (added : graph.add id resource = .ok after) (minted : Naming.isMinted id = true) (made : resource.type = .str type)
    (mentions : resource.Mentions (Graph.Earlier own functions graph (creationOrder type))) :
    Ready own functions ((id, type) :: known) after := by
  have taken (member : id ∈ own) (free : graph.find? id = none) :
      resource.mentions = [] ∨ resource.type = .str "AWS::Lambda::LayerVersion" := by
    have present := ready.present id member
    rw [Graph.has, Table.has, ← Graph.find?, free] at present
    cases present
  refine ⟨ready.toPlaced.add added (Or.inr minted) taken (Or.inr ⟨type, made, mentions⟩) made, fun other member => ?_⟩
  exact (Graph.add_extends graph after id resource added).has other (ready.present other member)

/-- What is known to have a type comes before the types after it. -/
theorem Ready.earlier {id type : String} {place : Nat} (ready : Ready own functions known graph)
    (member : (id, type) ∈ known) (before : creationOrder type < place) :
    Graph.Earlier own functions graph place id :=
  .made type (ready.typed id type member) before

theorem Graph.Earlier.ofOwn {place : Nat} {id : String} (late : 2 ≤ place) (user : IsOwn own id) :
    Graph.Earlier own functions graph place id := .written late (Or.inl user)

/-- A grant changes the default role only, and the role still mentions nothing but what comes before it. -/
theorem Ready.grant {w left : Workspace} {statement : Value} {added : Bool}
    (ready : Ready own functions known w.graph) (role : (defaultExecutionRole, "AWS::IAM::Role") ∈ known)
    (apart : defaultExecutionRole ∉ own) (refers : statement.Refers (IsOwn own))
    (granted : Yields (Build.grant statement) w added left) : Ready own functions known left.graph := by
  simp only [Build.grant, Build.yields_get] at granted
  split at granted
  case h_1 =>
    obtain ⟨_, rfl⟩ := (Build.yields_pure _ _ _ _).mp granted
    exact ready
  case h_2 policy _ =>
    simp only [Build.yields_ofResult_bind, Prod.exists, Build.yields_modify_bind, Build.yields_pure] at granted
    obtain ⟨graph, kept, fresh, made, _, rfl⟩ := granted
    obtain ⟨resource, found, kind⟩ := ready.typed _ _ role
    have mentions : resource.Mentions (Graph.Earlier own functions w.graph 2) := by
      rcases ready.orderly.sits _ resource found with none | ⟨type, same, mentions⟩
      · exact Resource.nothing_mentioned resource none
      · rw [kind] at same
        cases same
        exact mentions
    have before := (Resource.mentions_iff _ resource).mp mentions
    have asked : statement.Refers (Graph.Earlier own functions w.graph 2) :=
      refers.mono fun _ user => .ofOwn (Nat.le_refl 2) user
    rcases ExecutionPolicy.add_refers w.graph graph policy kept statement fresh resource found before.2 asked made with
      rfl | ⟨properties, rfl, refer⟩
    · exact ready
    · have sits (other : Resource) (same : w.graph.find? defaultExecutionRole = some other) :
          w.graph.Sits own functions { other with properties := properties } := by
        rw [found] at same
        cases same
        exact Or.inr ⟨_, kind, (Resource.mentions_iff _ _).mpr ⟨before.1, refer⟩⟩
      refine ⟨⟨ready.orderly.setProperties _ properties (fun member => absurd member apart) sits, ?_⟩, ?_⟩
      · exact fun id type member => Graph.setProperties_typed _ properties id type (ready.typed id type member)
      · intro id member
        obtain ⟨other, same⟩ := Option.isSome_iff_exists.mp (ready.present id member)
        have changed := ExecutionPolicy.setProperties_find? w.graph defaultExecutionRole id properties
        rw [show w.graph.find? id = some other from same, Option.map_some] at changed
        exact Option.isSome_iff_exists.mpr ⟨_, changed⟩

theorem Ready.grantAll {w left : Workspace} (statements : List Value) (ready : Ready own functions known w.graph)
    (role : (defaultExecutionRole, "AWS::IAM::Role") ∈ known) (apart : defaultExecutionRole ∉ own)
    (refer : ∀ statement ∈ statements, statement.Refers (IsOwn own))
    (granted : Yields (Build.grantAll statements) w () left) : Ready own functions known left.graph := by
  induction statements generalizing w with
  | nil =>
      obtain ⟨_, rfl⟩ := (Build.yields_pure _ _ _ _).mp granted
      exact ready
  | cons statement rest ih =>
      rw [Build.grantAll, Build.yields_bind] at granted
      obtain ⟨added, between, first, others⟩ := granted
      have one := ready.grant role apart (refer statement (List.mem_cons_self ..)) first
      exact ih one (fun other member => refer other (List.mem_cons_of_mem _ member)) others

theorem Ready.grantDestination {w left : Workspace} (function : String) (destination : Destination) (added : Bool)
    (ready : Ready own functions known w.graph) (role : (defaultExecutionRole, "AWS::IAM::Role") ∈ known)
    (apart : defaultExecutionRole ∉ own) (refers : destination.pointer.Refers (IsOwn own))
    (granted : Yields (Build.grantDestination function destination) w added left) :
    Ready own functions known left.graph := by
  simp only [Build.grantDestination, Build.yields_get] at granted
  split at granted
  · obtain ⟨_, rfl⟩ := (Build.yields_pure _ _ _ _).mp granted
    exact ready
  · split at granted
    · obtain ⟨_, rfl⟩ := (Build.yields_pure _ _ _ _).mp granted
      exact ready
    · rw [Build.yields_modify_bind] at granted
      have start : Ready own functions known
          ({ w with granted := w.granted ++ [(function, destination.key)] } : Workspace).graph := ready
      exact start.grant role apart (refers_allow _ _ (refers_str _) refers _) granted

end Steps

theorem Seeded.mono {service : ServiceConfig} {own : List String} {known more : List (String × String)}
    (seeded : Seeded service own known) (subset : known ⊆ more) : Seeded service own more where
  bucket := seeded.bucket.mono fun _ member => subset member
  logs := fun name function member logged => subset (seeded.logs name function member logged)
  role := fun name function member resolves =>
    (seeded.role name function member resolves).imp_left fun listed => subset listed

namespace Compute

/-- What is granted for the settings refers to what the settings refer to. -/
theorem statements_refer {allowed : String → Prop} (function : FunctionConfig) (provider : ProviderConfig)
    (own : ∀ value ∈ function.written, value.Refers allowed) :
    ∀ statement ∈ settingStatements function provider ++ fileSystemStatements function, statement.Refers allowed := by
  intro statement member
  cases statements_asked function provider statement member with
  | literal actions _ text => exact refers_allow _ _ (refers_texts _) ((refers_arr _).mpr (by simp)) none
  | mount mount mounted =>
      refine refers_allow _ _ (refers_texts _) ((refers_arr _).mpr ?_) none
      rw [List.forall_mem_singleton]
      exact mount_refers function own mount mounted

end Compute

namespace Blueprint

/-- A blueprint that compiles a service as it stands. -/
structure IsOf (blueprint : Blueprint) (config : ServiceConfig) : Prop where
  service : blueprint.service = config
  provider : blueprint.provider = config.provider
  functions : blueprint.functions = config.functions

section Function

variable {service : ServiceConfig} {own : List String} {known : List (String × String)} {w left : Workspace}
  (blueprint : Blueprint) (name : String) (function : FunctionConfig)

theorem grantSettings_ready (role : Role) (statements : List Value)
    (ready : Ready own service.functionIds known w.graph)
    (shared : role.isDefault = true → (defaultExecutionRole, "AWS::IAM::Role") ∈ known ∧ defaultExecutionRole ∉ own)
    (refer : ∀ statement ∈ statements, statement.Refers (IsOwn own))
    (granted : Yields (grantSettings role statements) w () left) :
    Ready own service.functionIds known left.graph := by
  have all := grantSettings_ok role statements w left granted
  by_cases default : role.isDefault = true
  · rw [if_pos default] at all
    exact ready.grantAll statements (shared default).1 (shared default).2 refer all
  · rw [if_neg default] at all
    obtain ⟨_, rfl⟩ := (Build.yields_pure _ _ _ _).mp all
    exact ready

/-- The role of a function comes before the function. -/
theorem role_earlier (role : Role) (place : Nat) (late : 2 < place) (graph : Graph)
    (ready : Ready own service.functionIds known graph) (seeded : Seeded service own known)
    (rule : service.RefersToOwn own) (member : (name, function) ∈ service.functions)
    (resolves : Role.ofFunction function service.provider = .ok role) :
    role.value.Refers (Graph.Earlier own service.functionIds graph place) ∧
      ∀ id, role.dependency = .str id → Graph.Earlier own service.functionIds graph place id := by
  rcases Role.ofFunction_refers function service.provider role (rule.functions name function member) rule.provider
    (rule.roles name function member) resolves with rfl | ⟨_, refers, depends⟩
  · have listed := (seeded.role name function member resolves).1
    refine ⟨(refers_getAtt _ _).mpr (ready.earlier listed late), fun id same => ?_⟩
    cases same
  · exact ⟨refers.mono fun id user => .ofOwn (by omega) user, fun id same => .written (by omega) (depends id same)⟩

/-- If a function runs under the default role, the role is there and nobody's own. -/
theorem role_shared (role : Role) (seeded : Seeded service own known) (rule : service.RefersToOwn own)
    (member : (name, function) ∈ service.functions) (resolves : Role.ofFunction function service.provider = .ok role)
    (default : role.isDefault = true) :
    (defaultExecutionRole, "AWS::IAM::Role") ∈ known ∧ defaultExecutionRole ∉ own := by
  rcases Role.ofFunction_refers function service.provider role (rule.functions name function member) rule.provider
    (rule.roles name function member) resolves with rfl | ⟨other, _⟩
  · exact seeded.role name function member resolves
  · rw [default] at other
    cases other

/-- A function mentions the bucket, its role, its log group and what its user wrote. -/
theorem addCompute_ready (code : Code) (role : Role) (ready : Ready own service.functionIds known w.graph)
    (seeded : Seeded service own known) (rule : service.RefersToOwn own)
    (whole : blueprint.IsOf service) (member : (name, function) ∈ service.functions)
    (resolves : Role.ofFunction function service.provider = .ok role)
    (source : ∀ allowed : String → Prop, service.provider.bucket.Refers allowed → FieldsRefer allowed code.properties)
    (added : Yields (blueprint.addCompute name function code role) w () left) :
    Ready own service.functionIds ((Naming.function name, "AWS::Lambda::Function") :: known) left.graph := by
  obtain ⟨granted, mounted, graph, settings, files, placed, rfl⟩ :=
    addCompute_ok blueprint name function code role w left added
  rw [whole.service, whole.provider] at placed
  have written := rule.functions name function member
  have shared := role_shared name function role seeded rule member resolves
  have refer := Compute.statements_refer function blueprint.provider written
  have one := grantSettings_ready role _ ready shared (fun _ inside => refer _ (List.mem_append_left _ inside)) settings
  have two := grantSettings_ready role _ one shared (fun _ inside => refer _ (List.mem_append_right _ inside)) files
  have late (id : String) (user : IsOwn own id) : Graph.Earlier own service.functionIds mounted.graph 3 id :=
    .ofOwn (by decide) user
  obtain ⟨runsAs, depends⟩ :=
    role_earlier name function role 3 (by decide) mounted.graph two seeded rule member resolves
  have bucket : service.provider.bucket.Refers (Graph.Earlier own service.functionIds mounted.graph 3) :=
    seeded.bucket.mono fun id listed => two.earlier listed (by decide)
  refine two.add placed (Naming.function_minted name) (Compute.resource_type _ _ _ _ _ _ _) ?_
  rw [Resource.mentions_iff, Compute.resource_properties, refers_obj]
  refine ⟨fun id listed => ?_, ?_⟩
  · rcases Compute.resource_dependsOn _ _ _ _ _ _ _ id listed with declared | dependency | ⟨logs, rfl⟩
    · exact late id (rule.dependencies name function member id declared)
    · exact depends id dependency
    · exact two.earlier (seeded.logs name function member logs) (by decide)
  · exact Compute.properties_refer function service.provider (fun value listed => (written value listed).mono late)
      (fun value listed => (rule.provider value listed).mono late) service _ name code role (source _ bucket) runsAs

theorem versionAlias_ok (via : TargetAlias) (extra : Fields) (found : versionAlias? name function = some (via, extra)) :
    Naming.isMinted via.id = true ∧ ∀ allowed : String → Prop, FieldsRefer allowed extra := by
  unfold versionAlias? at found
  split at found
  · cases found
    refine ⟨Naming.provisionedAlias_minted name, fun allowed => ?_⟩
    rw [fieldsRefer_single _ _ rfl, refers_obj, fieldsRefer_single _ _ rfl]
    exact refers_int _
  · split at found
    · cases found
      exact ⟨Naming.snapStartAlias_minted name, fun allowed => fieldsRefer_nil⟩
    · cases found

/-- A version comes after its function, and an alias after both. -/
theorem publish_ready (code : Code) (version : Option String) (via : Option TargetAlias)
    (ready : Ready own service.functionIds known w.graph)
    (computed : (Naming.function name, "AWS::Lambda::Function") ∈ known)
    (published : Yields (blueprint.publish name function code) w (version, via) left) :
    ∃ more, Ready own service.functionIds (more ++ known) left.graph ∧
      ∀ target, via = some target → (target.id, "AWS::Lambda::Alias") ∈ more := by
  rcases publish_ok blueprint name function code w left version via published with
    ⟨_, _, rfl, rfl⟩ | ⟨id, _, _, added⟩
  · exact ⟨[], ready, fun target same => by cases same⟩
  obtain ⟨digest, first, exposed, graph, _, rfl, placed, output, rfl, aliased⟩ :=
    addVersion_ok blueprint name function code w left id via added
  have one := ready.add placed (Naming.version_minted name digest.value) rfl
    (Version.resource_mentions name digest function.description (ready.earlier computed (by decide)))
  have two := one.resources (Graph.addOutput_ok _ _ _ _ _ output)
  rcases aliased with ⟨rfl, _, rfl⟩ | ⟨target, extra, rfl, chosen, third⟩
  · exact ⟨[_], two, fun target same => by cases same⟩
  · obtain ⟨minted, refer⟩ := versionAlias_ok name function target extra chosen
    have three := two.add third minted rfl (TargetAlias.resource_mentions target name _ extra
      (two.earlier (List.mem_cons_of_mem _ computed) (by decide)) (two.earlier (List.mem_cons_self ..) (by decide))
      (refer _))
    refine ⟨[_, _], three, fun other same => ?_⟩
    cases same
    exact List.mem_cons_self ..

/-- A URL and its permission come after the function and its alias. -/
theorem addUrl_ready (via : Option TargetAlias) (id : Option String)
    (ready : Ready own service.functionIds known w.graph)
    (computed : (Naming.function name, "AWS::Lambda::Function") ∈ known)
    (aliased : ∀ target, via = some target → (target.id, "AWS::Lambda::Alias") ∈ known)
    (added : Yields (addUrl name function via) w id left) : Ready own service.functionIds known left.graph := by
  rcases addUrl_ok name function via w left id added with
    ⟨_, _, rfl⟩ | ⟨url, opened, exposed, graph, _, _, first, output, rfl, permitted⟩
  · exact ready
  have typed (resource : Resource) : (TargetAlias.attach resource via).type = resource.type :=
    TargetAlias.attach_type resource via
  have one := ready.add first (Naming.url_minted name) (typed _) (Url.resource_mentions name url via
    (ready.earlier computed (by decide)) fun target same => ready.earlier (aliased target same) (by decide))
  have two := (one.resources (Graph.addOutput_ok _ _ _ _ _ output)).weaken (List.subset_cons_self _ known)
  rcases permitted with ⟨_, rfl⟩ | ⟨_, third⟩
  · exact two
  · have three := two.add third (Naming.urlPermission_minted name) (typed _) (Url.permission_mentions name via
      (two.earlier computed (by decide)) fun target same => two.earlier (aliased target same) (by decide))
    exact three.weaken (List.subset_cons_self _ known)

/-- The entries of an event config refer to functions and to what users wrote. -/
theorem addDestinations_ready (role : Role) (targets : List (String × Value)) (entries : Fields)
    (ready : Ready own service.functionIds known w.graph) (plain : blueprint.PlainNames)
    (whole : blueprint.IsOf service)
    (shared : role.isDefault = true → (defaultExecutionRole, "AWS::IAM::Role") ∈ known ∧ defaultExecutionRole ∉ own)
    (refer : ∀ outcome target, (outcome, target) ∈ targets → isPlainKey outcome = true ∧ target.Refers (IsOwn own))
    (added : Yields (blueprint.addDestinations name role targets) w entries left) :
    Ready own service.functionIds known left.graph ∧
      FieldsRefer (fun id => IsOwn own id ∨ id ∈ service.functionIds) entries := by
  induction targets generalizing w entries with
  | nil =>
      obtain ⟨rfl, rfl⟩ := (Build.yields_pure _ _ _ _).mp added
      exact ⟨ready, fieldsRefer_nil⟩
  | cons entry rest ih =>
      obtain ⟨outcome, target⟩ := entry
      obtain ⟨destination, others, granted, read, grant, more, rfl⟩ :=
        addDestinations_ok blueprint name role outcome target rest w left entries added
      obtain ⟨key, written⟩ := refer outcome target (List.mem_cons_self ..)
      obtain ⟨pointer, reference⟩ := destination_refers blueprint name target destination
        (fun name function member => functionArn_refers _ (plain.deployed name function member)) written read
      rw [whole.functions] at reference
      have next : Ready own service.functionIds known granted.graph := by
        rcases grant with ⟨_, rfl⟩ | ⟨default, fresh, grant⟩
        · exact ready
        · exact ready.grantDestination name destination fresh (shared default).1 (shared default).2 pointer grant
      obtain ⟨after, tail⟩ := ih others next
        (fun other target member => refer other target (List.mem_cons_of_mem _ member)) more
      refine ⟨after, ?_⟩
      rw [fieldsRefer_cons _ _ _ key, refers_obj, fieldsRefer_single _ _ rfl]
      exact ⟨reference, tail⟩

theorem targets_written (function : FunctionConfig) (outcome : String) (target : Value)
    (member : (outcome, target) ∈ EventConfig.targets function) :
    isPlainKey outcome = true ∧ target ∈ declaredTargets function := by
  have declared : target ∈ (EventConfig.targets function).map Prod.snd := List.mem_map.mpr ⟨_, member, rfl⟩
  rw [declaredTargets_map] at declared
  refine ⟨?_, declared⟩
  unfold EventConfig.targets at member
  split at member
  · cases member
  · have pair := (List.mem_filter.mp member).1
    simp only [List.mem_cons, List.not_mem_nil, or_false, Prod.mk.injEq] at pair
    rcases pair with ⟨rfl, _⟩ | ⟨rfl, _⟩ <;> rfl

/-- An event config comes after its function and alias, and after all functions that it sends to. -/
theorem addEventConfig_ready (role : Role) (via : Option TargetAlias) (id : Option String)
    (ready : Ready own service.functionIds known w.graph) (plain : blueprint.PlainNames)
    (whole : blueprint.IsOf service)
    (shared : role.isDefault = true → (defaultExecutionRole, "AWS::IAM::Role") ∈ known ∧ defaultExecutionRole ∉ own)
    (written : ∀ value ∈ function.written, value.Refers (IsOwn own))
    (computed : (Naming.function name, "AWS::Lambda::Function") ∈ known)
    (aliased : ∀ target, via = some target → (target.id, "AWS::Lambda::Alias") ∈ known)
    (added : Yields (blueprint.addEventConfig name function role via) w id left) :
    Ready own service.functionIds known left.graph := by
  rcases addEventConfig_ok blueprint name function role via w left id added with
    ⟨_, _, rfl⟩ | ⟨entries, granted, graph, _, _, sent, placed, rfl⟩
  · exact ready
  have refer (outcome : String) (target : Value) (member : (outcome, target) ∈ EventConfig.targets function) :
      isPlainKey outcome = true ∧ target.Refers (IsOwn own) := by
    obtain ⟨key, declared⟩ := targets_written function outcome target member
    exact ⟨key, written target (List.mem_append_right _ declared)⟩
  obtain ⟨one, entriesRefer⟩ :=
    addDestinations_ready blueprint name role _ entries ready plain whole shared refer sent
  have earlier : FieldsRefer (Graph.Earlier own service.functionIds granted.graph 6) entries := by
    intro key value member
    have late (id : String) (known : IsOwn own id ∨ id ∈ service.functionIds) :
        Graph.Earlier own service.functionIds granted.graph 6 id := by
      rcases known with user | listed
      · exact .ofOwn (by decide) user
      · exact .compiled (by decide) listed
    have both := entriesRefer key value member
    exact ⟨fun id inside => late id (both.1 id inside), both.2.mono late⟩
  have two := one.add placed (Naming.eventConfig_minted name) (TargetAlias.attach_type _ via)
    (EventConfig.resource_mentions name function entries via (one.earlier computed (by decide))
      (fun target same => one.earlier (aliased target same) (by decide)) earlier)
  exact two.weaken (List.subset_cons_self _ known)

/-- Compiling a function keeps everything in order and adds the function. -/
theorem compileFunction_ready (compiled : CompiledFunction) (ready : Ready own service.functionIds known w.graph)
    (seeded : Seeded service own known) (rule : service.RefersToOwn own) (plain : blueprint.PlainNames)
    (whole : blueprint.IsOf service) (member : (name, function) ∈ service.functions)
    (compiles : Yields (blueprint.compileFunction name function) w compiled left) :
    Ready own service.functionIds ((Naming.function name, "AWS::Lambda::Function") :: known) left.graph := by
  obtain ⟨role, code, session, computed, version, via, published, url, opened, event, _, resolves, found, compute,
    publish, openUrl, config, _⟩ := compileFunction_ok blueprint name function w left compiled compiles
  rw [whole.provider] at resolves
  have source (allowed : String → Prop) (bucket : service.provider.bucket.Refers allowed) :
      FieldsRefer allowed code.properties :=
    code_refer blueprint name function w _ code (by rw [whole.provider]; exact bucket) found
  have start : Ready own service.functionIds known ({ w with registry := session } : Workspace).graph := ready
  have one := addCompute_ready blueprint name function code role start seeded rule whole member resolves source compute
  obtain ⟨more, two, aliased⟩ :=
    publish_ready blueprint name function code version via one (List.mem_cons_self ..) publish
  have listed : (Naming.function name, "AWS::Lambda::Function") ∈
      more ++ (Naming.function name, "AWS::Lambda::Function") :: known :=
    List.mem_append_right _ (List.mem_cons_self ..)
  have target (own : TargetAlias) (chosen : via = some own) : (own.id, "AWS::Lambda::Alias") ∈
      more ++ (Naming.function name, "AWS::Lambda::Function") :: known :=
    List.mem_append_left _ (aliased own chosen)
  have written := rule.functions name function member
  have later : known ⊆ more ++ (Naming.function name, "AWS::Lambda::Function") :: known :=
    fun _ present => List.mem_append_right _ (List.mem_cons_of_mem _ present)
  have shared := role_shared name function role (seeded.mono later) rule member resolves
  have three := addUrl_ready name function via url two listed target openUrl
  have four := addEventConfig_ready blueprint name function role via event three plain whole shared written listed
    target config
  exact four.weaken (List.subset_append_right _ _)

/-- By induction over the functions, all of them are there in the end. -/
theorem compileEach_ready (list : List (String × FunctionConfig)) (ready : Ready own service.functionIds known w.graph)
    (seeded : Seeded service own known) (rule : service.RefersToOwn own) (plain : blueprint.PlainNames)
    (whole : blueprint.IsOf service)
    (part : ∀ name function, (name, function) ∈ list → (name, function) ∈ service.functions)
    (compiles : Yields (blueprint.compileEach list) w () left) :
    ∃ more, Ready own service.functionIds more left.graph ∧ known ⊆ more ∧
      ∀ name function, (name, function) ∈ list → (Naming.function name, "AWS::Lambda::Function") ∈ more := by
  induction list generalizing w known with
  | nil =>
      obtain ⟨_, rfl⟩ := (Build.yields_pure _ _ _ _).mp compiles
      exact ⟨known, ready, fun _ listed => listed, fun _ _ member => by cases member⟩
  | cons entry rest ih =>
      obtain ⟨name, function⟩ := entry
      obtain ⟨compiled, between, first, others⟩ := compileEach_ok blueprint name function rest w left compiles
      have one := compileFunction_ready blueprint name function compiled ready seeded rule plain whole
        (part name function (List.mem_cons_self ..)) first
      have next : Ready own service.functionIds ((Naming.function name, "AWS::Lambda::Function") :: known)
          ({ between with compiled := between.compiled ++ [compiled] } : Workspace).graph := one
      obtain ⟨more, final, grown, listed⟩ := ih next (seeded.mono (List.subset_cons_self _ known))
        (fun name function member => part name function (List.mem_cons_of_mem _ member)) others
      refine ⟨more, final, fun entry member => grown (List.mem_cons_of_mem _ member), fun other settings member => ?_⟩
      rcases List.mem_cons.mp member with head | member
      · cases head
        exact grown (List.mem_cons_self ..)
      · exact listed other settings member

end Function

/-- If users refer to their own resources only, no resource of the compiled template has to be created after itself. -/
theorem compileService_acyclic (service : ServiceConfig) (files : Files) (registry : Registry) (enforce : Bool)
    (graph : Graph) (compiled : List CompiledFunction) (declared : Fields)
    (block : Fields.entries service.resources "Resources" = .ok declared) (independent : Independent declared)
    (rule : service.RefersToOwn (service.ownIds declared))
    (plain : (ofService service files registry enforce).PlainNames)
    (compiles : ((ofService service files registry enforce).compileService none).1 = .ok (graph, compiled)) :
    graph.Acyclic := by
  obtain ⟨core, w, made, built, rfl, _⟩ := (compileService_ok _ _ _ _).mp compiles
  obtain ⟨start, policy, bound, _, each, _⟩ := (compileAll_ok _ _ w).mp built
  obtain ⟨known, seeded, ready⟩ :=
    Ready.core service declared core start policy block independent plain.service plain.stage made bound
  have placed : Ready (service.ownIds declared) service.functionIds known
      ({ opening core with graph := start, policy := policy } : Workspace).graph := ready
  obtain ⟨more, final, _, listed⟩ := compileEach_ready (ofService service files registry enforce) service.functions
    placed seeded rule plain ⟨rfl, rfl, rfl⟩ (fun _ _ member => member) each
  apply final.orderly.acyclic
  intro id member
  obtain ⟨name, keyed, rfl⟩ := List.mem_map.mp member
  obtain ⟨⟨_, function⟩, entry, rfl⟩ := List.mem_map.mp keyed
  exact final.typed _ _ (listed _ function entry)

/-- Two functions that send to each other, and a queue of their own. -/
def circle : ServiceConfig := .ofFields [
  ("service", .str "s"),
  ("provider", .obj [("versionFunctions", .bool false)]),
  ("functions", .obj [
    ("ping", .obj [
      ("handler", .str "ping.handle"),
      ("environment", .obj [("QUEUE", Intrinsic.ref "Queue")]),
      ("destinations", .obj [("onSuccess", .str "pong")])]),
    ("pong", .obj [
      ("handler", .str "pong.handle"),
      ("dependsOn", .str "Queue"),
      ("destinations", .obj [("onSuccess", .str "ping")])])]),
  ("resources", .obj [("Resources", .obj [("Queue", .obj [("Type", .str "AWS::SQS::Queue")])])])]

theorem circle_refersToOwn : circle.RefersToOwn ["Queue"] := by
  have provider : (circle.provider.written.all fun value => value.references.all fun id => id = "Queue") = true := by
    decide +kernel
  have functions : (circle.functions.all fun entry => entry.2.written.all fun value =>
      value.references.all fun id => id = "Queue") = true := by decide +kernel
  have dependencies : (circle.functions.all fun entry => entry.2.dependsOn.all fun id => id = "Queue") = true := by
    decide +kernel
  have roles : (circle.functions.all fun entry => (Role.declared entry.2 circle.provider).text?.isNone) = true := by
    decide +kernel
  have queue (id : String) (same : decide (id = "Queue") = true) : IsOwn ["Queue"] id :=
    Or.inl (List.mem_singleton.mpr (of_decide_eq_true same))
  refine ⟨fun value member id inside => ?_, fun name function member value written id inside => ?_,
    fun name function member id listed => ?_, fun name function member text same => ?_⟩
  · exact queue id (List.all_eq_true.mp (List.all_eq_true.mp provider value member) id inside)
  · have values := List.all_eq_true.mp functions (name, function) member
    exact queue id (List.all_eq_true.mp (List.all_eq_true.mp values value written) id inside)
  · exact queue id (List.all_eq_true.mp (List.all_eq_true.mp dependencies (name, function) member) id listed)
  · have none := List.all_eq_true.mp roles (name, function) member
    simp only [same] at none
    cases none

/-- The template of both functions can be created. -/
theorem circle_acyclic :
    ∃ graph compiled,
      ((ofService circle (.empty []) ⟨false, fun _ => .error ""⟩ false).compileService none).1 =
        .ok (graph, compiled) ∧ graph.Acyclic := by
  have succeeds : ((ofService circle (.empty []) ⟨false, fun _ => .error ""⟩ false).compileService none).1.toBool =
      true := by decide +kernel
  have deployed : (circle.functions.all fun entry => !Text.contains
      (circle.deployedName entry.1 (some entry.2) (some circle.provider.stage)) "$\x7b") = true := by decide +kernel
  cases compiles : ((ofService circle (.empty []) ⟨false, fun _ => .error ""⟩ false).compileService none).1 with
  | error failure =>
      rw [compiles] at succeeds
      cases succeeds
  | ok result =>
      obtain ⟨graph, compiled⟩ := result
      refine ⟨graph, compiled, rfl, compileService_acyclic circle _ _ _ graph compiled
        [("Queue", .obj [("Type", .str "AWS::SQS::Queue")])] (by rfl) ?_ circle_refersToOwn ?_ compiles⟩
      · intro id value member
        cases List.mem_singleton.mp member
        exact ⟨by decide +kernel, rfl⟩
      · refine ⟨by decide +kernel, by decide +kernel, fun name function member => ?_⟩
        have plain := List.all_eq_true.mp deployed (name, function) member
        rw [Bool.not_eq_true'] at plain
        exact plain

end Blueprint

end FunctionStack
