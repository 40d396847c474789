import FunctionStack.Proofs.Compile.Declared
import FunctionStack.Proofs.Template.Retention

/-!
Event configs and the execution policy. Where an entry of an event config points to, a statement of the policy lets its
function send; a function of the service is pointed at by its resource and allowed by the name that resource is deployed under.
-/

namespace FunctionStack

open Value

/-- A statement that allows an action on a resource. -/
structure Statements.Allows (statement : Value) (action : String) (resource : Value) : Prop where
  effect : statement.field? "Effect" = some (.str "Allow")
  action : statement.field? "Action" = some (.str action)
  resource : statement.field? "Resource" = some resource

/-- What an entry of an event config points at is what a statement has for its resource. Only a function of the service, that is
a target that is a text and no ARN, is pointed at by its own resource, and then the statement has the name that this one is
deployed under. -/
structure Destination.Matches (destination : Destination) (target : Value) (graph : Graph) (pointing resource : Value) :
    Prop where
  named : ∀ name, destination.function = some name ↔ target = .str name ∧ Text.beginsWith name "arn:" = false
  elsewhere : destination.function = none → pointing.same resource = true
  within : ∀ name, destination.function = some name → pointing = Intrinsic.getAtt (Naming.function name) "Arn" ∧
    ∃ compute deployed, graph.find? (Naming.function name) = some compute ∧
      compute.type = .str "AWS::Lambda::Function" ∧
      compute.properties.field? "FunctionName" = some (.str deployed) ∧ resource = Intrinsic.functionArn deployed

/-- A request that is among some statements is allowed by one of them. -/
theorem sendPermission_allows (function : String) (destination : Destination) (statements : List Value)
    (present : (sendPermission function destination).isIn statements = true) :
    ∃ statement ∈ statements, ∃ resource, Statements.Allows statement destination.kind.action resource ∧
      destination.pointer.same resource = true := by
  obtain ⟨statement, member, equal⟩ := List.any_eq_true.mp present
  obtain ⟨effect, first, allow⟩ := same_field? equal "Effect" rfl
  obtain ⟨action, second, kind⟩ := same_field? equal "Action" rfl
  obtain ⟨resource, third, alike⟩ := same_field? equal "Resource" rfl
  rw [same_str allow] at first
  rw [same_str kind] at second
  exact ⟨statement, member, resource, ⟨first, second, third⟩, alike⟩

/-- Equal entries of an event config point at equal targets. -/
theorem Plan.entries_same (plan : Plan) (entries : Value) (equal : entries.same (.obj (Plan.entries plan.destinations)) = true)
    (outcome : String) (entry : Value) (found : entries.field? outcome = some entry) :
    ∃ destination pointing, (outcome, destination) ∈ plan.destinations ∧ entry.field? "Destination" = some pointing ∧
      pointing.same destination.reference = true := by
  obtain ⟨own, listed, alike⟩ := same_field? equal outcome found
  obtain ⟨⟨known, destination⟩, member, pair⟩ := List.mem_map.mp (Table.find?_some_mem _ _ _ listed)
  obtain ⟨rfl, rfl⟩ := Prod.mk.inj pair
  obtain ⟨pointing, rfl, points⟩ := same_single alike
  exact ⟨destination, pointing, member, rfl, points⟩

/-- Each target that a function declares has an entry. -/
theorem Plan.entries_listed (plan : Plan) {blueprint : Blueprint} {session : RegistrySession} {graph : Graph}
    (makes : blueprint.Makes session graph plan) (entries : Value) (proper : entries.isProper = true)
    (equal : entries.same (.obj (Plan.entries plan.destinations)) = true) (outcome : String) (target : Value)
    (declared : (outcome, target) ∈ EventConfig.targets plan.function) :
    ∃ entry, entries.field? outcome = some entry := by
  obtain ⟨⟨_, destination⟩, among, rfl, _⟩ := forall₂_mem_left makes.targets _ declared
  have listed : Table.has (Plan.entries plan.destinations) outcome = true :=
    (Table.has_iff_mem _ _).mpr ⟨_, List.mem_map.mpr ⟨_, among, rfl⟩⟩
  obtain ⟨own, found⟩ := Option.isSome_iff_exists.mp listed
  obtain ⟨entry, present, _⟩ := field?_same proper equal outcome found
  exact ⟨entry, present⟩

/-- Under the default role a function asks to send to each of its destinations. -/
theorem Plan.sends_listed (plan : Plan) (blueprint : Blueprint) (default : plan.role.isDefault = true)
    (needed : EventConfig.isNeeded plan.function = true) (outcome : String) (destination : Destination)
    (listed : (outcome, destination) ∈ plan.destinations) : .send plan.name destination ∈ plan.moves blueprint := by
  have sent : .send plan.name destination ∈ Move.sends plan.name plan.role plan.destinations := by
    rw [Move.sends, if_pos default]
    exact List.mem_map.mpr ⟨_, listed, rfl⟩
  refine List.mem_append_right _ (List.mem_append_right _ ?_)
  rw [eventConfig, if_pos needed]
  exact List.mem_append_left _ sent

theorem EventConfig.targets_given (function : FunctionConfig) :
    ∀ entry ∈ targets function, entry.2.given = true := by
  unfold targets
  split
  · exact fun _ member => by cases member
  · exact fun entry member => (List.mem_filter.mp member).2

/-- What a destination points at: its pointer, or else the resource of a function that is known by this name, while the pointer
has the name that the function is deployed under. -/
theorem Destination.reference_cases (functions : Table FunctionConfig) (deployed : String → FunctionConfig → String)
    (owner : String) (target : Value) (destination : Destination) (given : target.given = true)
    (read : classify target owner (resolver functions deployed owner) = .ok destination) :
    destination.function = none ∧ destination.reference = destination.pointer ∨
      ∃ name function, destination.function = some name ∧ functions.find? name = some function ∧
        destination.reference = Intrinsic.getAtt (Naming.function name) "Arn" ∧
        destination.pointer = Intrinsic.functionArn (deployed name function) := by
  have plain (none : destination.function = none) : destination.reference = destination.pointer := by
    rw [reference, none]
    rfl
  rcases classify_ok target owner _ destination read with
    ⟨_, _, _, none, _⟩ | ⟨name, rfl, resolved, named, _⟩ | ⟨_, _, _, _, none⟩
  · exact Or.inl ⟨none, plain none⟩
  · unfold resolver at resolved
    split at resolved
    case h_1 function found =>
      have known : Text.given (some name) = some name := by simpa [Text.given, Value.given] using given
      exact Or.inr ⟨name, function, named, found, by rw [reference, named, known], (Except.ok.inj resolved).symm⟩
    case h_2 => cases resolved
  · exact Or.inl ⟨none, plain none⟩

namespace Compute

/-- Being published changes nothing but the description of a function, and whether it starts from a snapshot. -/
theorem versionSettings_keeps (enforce : Bool) (function : FunctionConfig) (provider : ProviderConfig) (properties : Fields)
    (key : String) (value : Value) (apart : key ≠ "Description") (found : Table.find? properties key = some value) :
    Table.find? (versionSettings enforce function provider properties) key = some value := by
  have described : Table.find? (if enforce then Table.insert properties "Description" (.str enforcedDescription)
      else properties) key = some value := by
    split
    · rw [Table.find?_insert, if_neg apart, found]
    · exact found
  unfold versionSettings
  dsimp only
  split
  · split
    · rw [Table.find?_append, described, Option.some_or]
    · exact described
  · exact found

theorem plainProperties_name (service : ServiceConfig) (provider : ProviderConfig) (name : String)
    (function : FunctionConfig) (code : Code) (role : Role) (source : Tidy sourceKeys code.properties) :
    Table.find? (plainProperties service provider name function code role) "FunctionName" =
      some (.str (service.deployedName name (some function) (some provider.stage))) := by
  have absent : Table.find? code.properties "FunctionName" = none :=
    (Table.find?_none_iff _ _).mpr fun member => absurd (source.1.subset member) (by decide)
  simp only [plainProperties, Table.find?_append, absent, Option.none_or, Table.find?_cons, if_true, Option.some_or]

end Compute

/-- The default role as it is made keeps its policy in itself. -/
theorem ExecutionPolicy.ofGraph_executionRole (service : ServiceConfig) (core start : Graph)
    (policy : Option ExecutionPolicy) (bound : ofGraph core = .ok (start, policy))
    (found : core.find? defaultExecutionRole = some (Core.executionRole service)) :
    policy = some .inRole ∧ start.find? defaultExecutionRole = some (Core.executionRole service) := by
  rcases ofGraph_ok core start policy bound with ⟨none, _⟩ | ⟨role, properties, present, completed, rfl, rfl⟩
  · rw [found] at none
    cases none
  · rw [found] at present
    cases present
    rw [Core.completeRole_executionRole] at completed
    cases completed
    refine ⟨rfl, ?_⟩
    rw [setProperties_find?, found, Option.map_some, if_pos rfl]

namespace Blueprint

/-- The default role ends with the statements it is made with, followed by what it is asked for. -/
theorem Took.granted {blueprint : Blueprint} {core start : Graph} {session : RegistrySession} {w : Workspace}
    {policy : Option ExecutionPolicy} {plans : List Plan} (took : blueprint.Took core session w start policy plans)
    (found : core.find? defaultExecutionRole = some (Core.executionRole blueprint.service)) :
    ∃ role, w.graph.find? defaultExecutionRole = some role ∧ ExecutionPolicy.statementOf role.properties =
      .arr ((Move.asked [] (blueprint.course plans)).foldl Statements.add (Core.logStatements blueprint.service)) := by
  obtain ⟨bound, present⟩ := ExecutionPolicy.ofGraph_executionRole blueprint.service core start policy took.begins found
  have listed := Core.statementOf_executionRole blueprint.service
  cases took.performed.answered with
  | idle nothing _ kept =>
      have none : Move.asked [] (blueprint.course plans) = [] :=
        nothing.resolve_left fun unbound => Option.some_ne_none _ (bound.symm.trans unbound)
      exact ⟨_, kept.trans present, by rw [none, List.foldl_nil, listed]⟩
  | apart _ before => cases bound.symm.trans before
  | inRole statements role _ _ there held _ changed =>
      cases there.symm.trans present
      cases held.symm.trans listed
      exact ⟨_, changed, ExecutionPolicy.statementOf_withStatement _ _ _ listed⟩

section

variable {service : ServiceConfig} {files : Files} {registry : Registry} {enforce : Bool} {core start : Graph}
  {session : RegistrySession} {w : Workspace} {policy : Option ExecutionPolicy} {plans : List Plan} {plan : Plan}
  (ran : (ofService service files registry enforce).Ran core session w start policy plans)
  (seeded : Core.graph service = .ok core) (proper : (ofService service files registry enforce).IsProper)
  (planned : plan ∈ plans)

include ran seeded proper planned

/-- Whatever a function under the default role asks for is among the statements of that role in the end. -/
theorem Ran.statements (default : plan.role.isDefault = true) : ∃ role statements,
    w.graph.find? defaultExecutionRole = some role ∧ ExecutionPolicy.statementOf role.properties = .arr statements ∧
      ∀ move ∈ plan.moves (ofService service files registry enforce), ∀ statement, move.Asks statement →
        statement.isIn statements = true := by
  obtain ⟨_, _, makes⟩ := ran.made plan planned
  have found := Core.graph_role service core seeded plan.name plan.function plan.role (ran.declared plan planned) makes.role
    default
  obtain ⟨role, present, listed⟩ := ran.granted found
  have regular : ∀ move ∈ (ofService service files registry enforce).course plans, move.Proper := by
    intro move member
    obtain ⟨other, among, inside⟩ := List.mem_flatMap.mp member
    obtain ⟨_, _, making⟩ := ran.made other among
    exact Plan.moves_proper making (proper.functions _ _ (ran.declared other among)) move inside
  exact ⟨role, _, present, listed, fun move member => Move.asked_covers [] _ (Core.logStatements service) regular
    (fun _ _ granted => by cases granted) move (List.mem_flatMap.mpr ⟨plan, planned, member⟩)⟩

/-- The resource of a function tells the name that the function is deployed under. -/
theorem Ran.deployed (regular : (Value.obj service.resources).isProper = true) :
    ∃ compute, w.graph.find? (Naming.function plan.name) = some compute ∧
      compute.type = .str "AWS::Lambda::Function" ∧ compute.properties.field? "FunctionName" =
        some (.str (service.deployedName plan.name (some plan.function) (some service.provider.stage))) := by
  obtain ⟨held, present, fits, type, known⟩ := ran.holds_proper seeded proper regular planned .compute
  obtain ⟨_, _, makes⟩ := ran.made plan planned
  refine ⟨held, present, type, fits.rigid known _ _ (.str _) ?_⟩
  rw [plan.compute_properties]
  exact Compute.versionSettings_keeps _ _ _ _ _ _ (by decide)
    (Compute.plainProperties_name _ _ _ _ _ _ (Compute.code_tidy _ _ _ _ _ makes.code))

/-- An event config stands in its place, and what it lists are the destinations of its plan. -/
theorem Ran.eventConfig (regular : (Value.obj service.resources).isProper = true)
    (needed : EventConfig.isNeeded plan.function = true) :
    ∃ config entries, w.graph.find? (Naming.eventConfig plan.name) = some config ∧
      config.type = .str "AWS::Lambda::EventInvokeConfig" ∧
      config.properties.field? "DestinationConfig" = some entries ∧ entries.isProper = true ∧
      entries.same (.obj (Plan.entries plan.destinations)) = true := by
  obtain ⟨held, present, fits, type, known⟩ := ran.holds_proper seeded proper regular planned (.eventConfig needed)
  have listed : (EventConfig.resource plan.name plan.function (Plan.entries plan.destinations)
      plan.via).properties.field? "DestinationConfig" = some (.obj (Plan.entries plan.destinations)) := by
    rw [EventConfig.resource, Plan.attach_properties]
    rfl
  obtain ⟨entries, found, alike⟩ := fits.part known "DestinationConfig" _ listed
  exact ⟨held, entries, present, type, found, field?_isProper known _ found, alike⟩

omit planned in
theorem Ran.matched (regular : (Value.obj service.resources).isProper = true) (target pointing resource : Value)
    (destination : Destination) (given : target.given = true)
    (read : (ofService service files registry enforce).destination plan.name target = .ok destination)
    (points : pointing.same destination.reference = true) (granted : destination.pointer.same resource = true) :
    destination.Matches target w.graph pointing resource := by
  have names := Destination.classify_function target plan.name _ destination read
  rcases Destination.reference_cases _ _ _ target destination given read with
    ⟨none, reference⟩ | ⟨name, function, named, found, reference, pointer⟩
  · exact ⟨names, fun _ => same_trans (reference ▸ points) granted, fun name named => by cases none.symm.trans named⟩
  · refine ⟨names, fun none => (by cases named.symm.trans none), fun other same => ?_⟩
    cases named.symm.trans same
    have entries : Table.find? (plans.map Plan.entry) name = some function := ran.entries ▸ found
    obtain ⟨callee, chosen, rfl⟩ := Plan.find?_entry plans name function entries
    have listed := List.mem_of_find?_eq_some chosen
    have called : callee.name = name := by simpa using List.find?_some chosen
    obtain ⟨compute, present, type, deployed⟩ := ran.deployed seeded proper listed regular
    rw [called] at present deployed
    rw [pointer] at granted
    obtain ⟨text, rfl, alike⟩ := single_same granted
    rw [same_str alike]
    exact ⟨(Intrinsic.getAtt_rigid _ _).eq_of_same pointing (reference ▸ points), compute, _, present, type, deployed,
      rfl⟩

end

/-- Under the default role, each entry of an event config is matched by a statement of that role, which allows the action of the
target's kind where the entry points to. A function of the service is pointed at by its resource, and the statement has the name
that this very resource deploys it under. -/
theorem compileService_sends (service : ServiceConfig) (files : Files) (registry : Registry) (enforce : Bool)
    (proper : (ofService service files registry enforce).IsProper)
    (regular : (Value.obj service.resources).isProper = true) (previous : Option Graph) (graph : Graph)
    (compiled : List CompiledFunction)
    (compiles : ((ofService service files registry enforce).compileService previous).1 = .ok (graph, compiled))
    (name : String) (function : FunctionConfig) (declared : (name, function) ∈ service.functions) (role : Role)
    (resolves : Role.ofFunction function service.provider = .ok role) (default : role.isDefault = true)
    (needed : EventConfig.isNeeded function = true) :
    ∃ config entries executionRole statements,
      graph.find? (Naming.eventConfig name) = some config ∧ config.type = .str "AWS::Lambda::EventInvokeConfig" ∧
      config.properties.field? "DestinationConfig" = some entries ∧
      graph.find? defaultExecutionRole = some executionRole ∧
      ExecutionPolicy.statementOf executionRole.properties = .arr statements ∧
      (∀ outcome target, (outcome, target) ∈ EventConfig.targets function →
        ∃ entry, entries.field? outcome = some entry) ∧
      ∀ outcome entry, entries.field? outcome = some entry →
        ∃ target destination pointing, (outcome, target) ∈ EventConfig.targets function ∧
          (ofService service files registry enforce).destination name target = .ok destination ∧
          entry.field? "Destination" = some pointing ∧
          ∃ statement ∈ statements, ∃ resource, Statements.Allows statement destination.kind.action resource ∧
            destination.Matches target graph pointing resource := by
  obtain ⟨core, w, start, policy, plans, seeded, _, ran, rfl, rfl⟩ := compileService_ran proper compiles
  obtain ⟨plan, planned, rfl, rfl⟩ := ran.planned name function declared
  obtain ⟨_, _, makes⟩ := ran.made plan planned
  have isDefault : plan.role.isDefault = true := by
    rw [← default, Except.ok.inj (makes.role.symm.trans resolves)]
  obtain ⟨executionRole, statements, found, held, covers⟩ := ran.statements seeded proper planned isDefault
  obtain ⟨config, entries, present, type, listed, known, alike⟩ := ran.eventConfig seeded proper planned regular needed
  have kept := Graph.carried_keeps w.graph previous
  refine ⟨config, entries, executionRole, statements, kept _ _ present, type, listed, kept _ _ found, held,
    fun outcome target member => ?_, fun outcome entry there => ?_⟩
  · exact plan.entries_listed makes entries known alike outcome target member
  · obtain ⟨destination, pointing, among, points, agrees⟩ := plan.entries_same entries alike outcome entry there
    obtain ⟨⟨_, target⟩, member, rfl, read⟩ := forall₂_mem_right makes.targets _ among
    have sent := plan.sends_listed (ofService service files registry enforce) isDefault needed _ _ among
    obtain ⟨statement, inside, resource, allows, granted⟩ :=
      sendPermission_allows plan.name destination statements (covers _ sent _ (.send _ _))
    obtain ⟨names, elsewhere, within⟩ := ran.matched seeded proper regular target pointing resource destination
      (EventConfig.targets_given plan.function _ member) read agrees granted
    refine ⟨target, destination, pointing, member, read, points, statement, inside, resource, allows, names,
      elsewhere, fun other named => ?_⟩
    obtain ⟨points, compute, deployed, there, rest⟩ := within other named
    exact ⟨points, compute, deployed, kept _ _ there, rest⟩

/-- The first function sends to the second one, which is there and may be invoked under the name it has. -/
theorem relay_sends : ∃ graph compiled role statements statement compute deployed,
    ((ofService relay (.empty []) ⟨false, fun _ => .error ""⟩ false).compileService none).1 = .ok (graph, compiled) ∧
      graph.find? defaultExecutionRole = some role ∧ ExecutionPolicy.statementOf role.properties = .arr statements ∧
      statement ∈ statements ∧
      Statements.Allows statement "lambda:InvokeFunction" (Intrinsic.functionArn deployed) ∧
      graph.find? (Naming.function "worker") = some compute ∧
      compute.properties.field? "FunctionName" = some (.str deployed) := by
  obtain ⟨graph, compiled, compiles, _⟩ := compileService_any
    (ofService relay (.empty []) ⟨false, fun _ => .error ""⟩ false) none (fun _ _ => true) (by decide +kernel)
  obtain ⟨function, role, declared, resolves, default, needed, targets⟩ : ∃ function role,
      ("api", function) ∈ relay.functions ∧ Role.ofFunction function relay.provider = .ok role ∧ role.isDefault = true ∧
        EventConfig.isNeeded function = true ∧ EventConfig.targets function = [("OnSuccess", .str "worker")] :=
    ⟨_, _, List.mem_cons_self .., rfl, rfl, rfl, rfl⟩
  obtain ⟨config, entries, executionRole, statements, _, _, _, found, listed, all, each⟩ :=
    compileService_sends relay (.empty []) ⟨false, fun _ => .error ""⟩ false (by decide +kernel) (by decide +kernel) none graph
      compiled compiles "api" function declared role resolves default needed
  obtain ⟨entry, there⟩ := all "OnSuccess" (.str "worker") (targets ▸ List.mem_singleton.mpr rfl)
  obtain ⟨target, destination, pointing, member, read, _, statement, inside, resource, allows, _, _, within⟩ :=
    each "OnSuccess" entry there
  rw [targets, List.mem_singleton, Prod.mk.injEq] at member
  obtain ⟨-, rfl⟩ := member
  have known : (ofService relay (.empty []) ⟨false, fun _ => .error ""⟩ false).destination "api" (.str "worker") =
      .ok ⟨.function, Intrinsic.functionArn "s-dev-worker", some "worker"⟩ := rfl
  cases known.symm.trans read
  obtain ⟨_, compute, deployed, present, _, called, rfl⟩ := within "worker" rfl
  exact ⟨graph, compiled, executionRole, statements, statement, compute, deployed, compiles, found, listed, inside, allows,
    present, called⟩

end Blueprint

end FunctionStack
