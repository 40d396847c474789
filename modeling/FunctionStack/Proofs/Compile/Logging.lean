import FunctionStack.Proofs.Compile.Sending
import FunctionStack.Proofs.Template.Pattern

/-!
Log groups and the default role. A log group has the name that its function is deployed under, while the role may write to the
groups whose names begin with the service and the stage: it covers the log group of a function if the deployed name is of that
form.
-/

namespace FunctionStack

open Value

/-- What writing a log takes. -/
inductive LogAction where
  | createStream
  | putEvents
  deriving DecidableEq, Repr

namespace LogAction

def name : LogAction → String
  | createStream => "logs:CreateLogStream"
  | putEvents => "logs:PutLogEvents"

theorem name_ne (action : LogAction) (kind : DestinationKind) : action.name ≠ kind.action := by
  cases action <;> cases kind <;> decide

/-- What an action is about, by its address behind `log-group:`: something in a log group, or something in a part of it. -/
def Addresses (action : LogAction) (group address : String) : Prop :=
  match action with
  | createStream => ∃ stream, address = group ++ ":" ++ stream
  | putEvents => ∃ kind stream, address = group ++ ":" ++ kind ++ ":" ++ stream

/-- What the default role may do it on. -/
def pattern (service : ServiceConfig) : LogAction → String
  | createStream => "/aws/lambda/" ++ Core.stackName service ++ "*:*"
  | putEvents => "/aws/lambda/" ++ Core.stackName service ++ "*:*:*"

end LogAction

/-- Behind `/aws/lambda/`, what follows on both sides decides. -/
theorem Pattern.admits_lambda (stack sections deployed address : String) :
    admits ("/aws/lambda/" ++ stack ++ sections).toList ("/aws/lambda/" ++ deployed ++ address).toList =
      admits (stack.toList ++ sections.toList) (deployed.toList ++ address.toList) := by
  rw [Bool.eq_iff_iff, ← admits_plain_append "/aws/lambda/".toList _ (deployed.toList ++ address.toList) (by decide)]
  simp only [String.toList_append, List.append_assoc]

/-- The pattern of an action admits all of a log group if and only if the service and the stage, with an open end, admit the name
behind `/aws/lambda/`. -/
theorem LogAction.pattern_admits (action : LogAction) (service : ServiceConfig) (deployed : String) :
    (∀ address, action.Addresses ("/aws/lambda/" ++ deployed) address →
        Pattern.admits (action.pattern service).toList address.toList = true) ↔
      Pattern.admits (Core.stackName service ++ "*").toList deployed.toList = true := by
  rw [String.toList_append, show "*".toList = ['*'] from rfl]
  cases action with
  | createStream =>
      rw [← Pattern.admits_sections_iff]
      have reads (stream : String) := Pattern.admits_lambda (Core.stackName service) "*:*" deployed (":" ++ stream)
      constructor
      · intro all rest
        have one := all _ ⟨.ofList rest, rfl⟩
        rw [String.append_assoc, pattern, reads] at one
        simpa using one
      · rintro all _ ⟨stream, rfl⟩
        rw [String.append_assoc, pattern, reads]
        simpa using all stream.toList
  | putEvents =>
      rw [← Pattern.admits_subsections_iff]
      have reads (kind stream : String) :=
        Pattern.admits_lambda (Core.stackName service) "*:*:*" deployed (":" ++ (kind ++ (":" ++ stream)))
      constructor
      · intro all kind rest
        have one := all _ ⟨.ofList kind, .ofList rest, rfl⟩
        rw [String.append_assoc, String.append_assoc, String.append_assoc, pattern, reads] at one
        simpa using one
      · rintro all _ ⟨kind, stream, rfl⟩
        rw [String.append_assoc, String.append_assoc, String.append_assoc, pattern, reads]
        simpa using all kind.toList stream.toList

/-- One value, or all that are listed. -/
def Value.each : Value → List Value
  | .arr items => items
  | value => [value]

namespace Statements

/-- A statement that allows an action wherever a pattern admits it: this is what an ARN of the statement has behind
`log-group:`. -/
structure AllowsLogs (statement : Value) (action pattern : String) : Prop where
  effect : statement.field? "Effect" = some (.str "Allow")
  action : ∃ actions, statement.field? "Action" = some actions ∧ .str action ∈ actions.each
  resource : ∃ resources arn, statement.field? "Resource" = some resources ∧
    (.str arn ∈ resources.each ∨ Intrinsic.sub arn ∈ resources.each) ∧
      (Text.cut arn "log-group:").map Prod.snd = some pattern

/-- What a statement allows is among the actions that it lists. -/
theorem AllowsLogs.listed {actions : List String} {resources : Value} {action pattern : String}
    (allows : AllowsLogs (allow (Value.texts actions) resources none) action pattern) : action ∈ actions := by
  obtain ⟨_, acts, among⟩ := allows.action
  cases acts
  obtain ⟨own, listed, same⟩ := List.mem_map.mp among
  cases same
  exact listed

/-- One of the statements allows an action on all of a log group. -/
def CoverLogs (statements : List Value) (action : LogAction) (group : String) : Prop :=
  ∃ statement ∈ statements, ∃ pattern, AllowsLogs statement action.name pattern ∧
    ∀ address, action.Addresses group address → Pattern.admits pattern.toList address.toList = true

end Statements

namespace Core

/-- What the ARNs of the default role have behind `log-group:`. -/
theorem logGroupArn_cut (service : ServiceConfig) (sections : String) :
    (Text.cut (logGroupArn service ++ sections) "log-group:").map Prod.snd =
      some ("/aws/lambda/" ++ stackName service ++ sections) := by
  have head : Text.cut
      "arn:$\x7bAWS::Partition\x7d:logs:$\x7bAWS::Region\x7d:$\x7bAWS::AccountId\x7d:log-group:/aws/lambda/" "log-group:" =
        some ("arn:$\x7bAWS::Partition\x7d:logs:$\x7bAWS::Region\x7d:$\x7bAWS::AccountId\x7d:", "/aws/lambda/") := by
    decide +kernel
  have whole := Text.cut_append _ (stackName service ++ sections) _ _ _ head
  rw [← String.append_assoc, ← String.append_assoc] at whole
  exact congrArg (Option.map Prod.snd) whole

theorem logStatement_allows (service : ServiceConfig) (actions : List String) (sections action pattern : String) :
    Statements.AllowsLogs (Statements.allow (Value.texts actions)
        (.arr [Intrinsic.sub (logGroupArn service ++ sections)]) none) action pattern ↔
      action ∈ actions ∧ pattern = "/aws/lambda/" ++ stackName service ++ sections := by
  constructor
  · intro allows
    obtain ⟨_, arn, there, inside, cut⟩ := allows.resource
    cases there
    rcases inside with text | own
    · cases List.mem_singleton.mp text
    · cases List.mem_singleton.mp own
      rw [logGroupArn_cut] at cut
      exact ⟨allows.listed, (Option.some.inj cut).symm⟩
  · rintro ⟨listed, rfl⟩
    exact ⟨rfl, ⟨_, rfl, List.mem_map_of_mem listed⟩, ⟨_, _, rfl, Or.inr (List.mem_singleton.mpr rfl), logGroupArn_cut _ _⟩⟩

/-- The default role is made with one statement for each of the actions, and it has the pattern of the action. -/
theorem logStatements_allow (service : ServiceConfig) (action : LogAction) (pattern : String) :
    (∃ statement ∈ logStatements service, Statements.AllowsLogs statement action.name pattern) ↔
      pattern = action.pattern service := by
  simp only [logStatements, List.mem_cons, List.not_mem_nil, or_false, exists_eq_or_imp, exists_eq_left, logStatement_allows]
  cases action with
  | createStream => simp [LogAction.name, LogAction.pattern]
  | putEvents => simp [LogAction.name, LogAction.pattern]

end Core

namespace ServiceConfig

theorem stageOr_own (service : ServiceConfig) : service.stageOr (some service.provider.stage) = service.provider.stage := by
  rw [stageOr, Text.given, Option.filter_some]
  split <;> rfl

/-- The name that is looked up is the one that the function itself and the stage lead to. -/
theorem deployedName_found (service : ServiceConfig) (name : String) (function : FunctionConfig)
    (found : service.functions.find? name = some function) :
    service.deployedName name none none = service.deployedName name (some function) (some service.provider.stage) := by
  unfold deployedName
  rw [found, stageOr_own]
  rfl

/-- Without a name of its own, a function is deployed under the service, the stage and the name it is known by. -/
theorem deployedName_unnamed (service : ServiceConfig) (name : String) (function : FunctionConfig)
    (unnamed : Text.given function.name = none) :
    service.deployedName name (some function) (some service.provider.stage) = Core.stackName service ++ ("-" ++ name) := by
  have settings : (some function <|> service.functions.find? name) = some function := rfl
  simp only [deployedName, settings, Option.bind_some, unnamed, stageOr_own, Core.stackName, toString, String.append_assoc]

end ServiceConfig

/-- What the settings of a function ask for is not about logs. -/
theorem Compute.Asked.no_logs {function : FunctionConfig} {statement : Value} (asked : Asked function statement)
    (action : LogAction) (pattern : String) : ¬ Statements.AllowsLogs statement action.name pattern := by
  intro allows
  cases asked with
  | literal actions known text =>
      have apart : ∀ actions ∈ [["sns:Publish"], ["kms:Decrypt"], ["xray:PutTraceSegments", "xray:PutTelemetryRecords"]],
          action.name ∉ actions := by
        cases action <;> decide
      exact apart actions known allows.listed
  | mount own mounted =>
      have apart : action.name ∉ ["elasticfilesystem:ClientMount", "elasticfilesystem:ClientWrite"] := by
        cases action <;> decide
      exact apart allows.listed

namespace Blueprint

/-- Nothing that functions ask for is about logs. -/
theorem course_no_logs (blueprint : Blueprint) (plans : List Plan) (move : Move) (member : move ∈ blueprint.course plans)
    (statement : Value) (asks : move.Asks statement) (action : LogAction) (pattern : String) :
    ¬ Statements.AllowsLogs statement action.name pattern := by
  obtain ⟨plan, planned, taken⟩ := List.mem_flatMap.mp member
  cases plan.moves_take _ move taken with
  | allow _ _ needed =>
      cases asks
      exact (Compute.statements_asked _ _ statement needed).no_logs action pattern
  | send _ _ destination _ =>
      cases asks
      rintro ⟨-, ⟨actions, acts, among⟩, -⟩
      cases acts
      exact action.name_ne destination.kind (Value.str.inj (List.mem_singleton.mp among))
  | place => cases asks
  | expose => cases asks

/-- In the end the default role allows each action on logs by the pattern of the action, and by no other one. -/
theorem Took.logs_allowed {blueprint : Blueprint} {core start : Graph} {session : RegistrySession} {w : Workspace}
    {policy : Option ExecutionPolicy} {plans : List Plan} (took : blueprint.Took core session w start policy plans)
    (found : core.find? defaultExecutionRole = some (Core.executionRole blueprint.service)) :
    ∃ role statements, w.graph.find? defaultExecutionRole = some role ∧
      ExecutionPolicy.statementOf role.properties = .arr statements ∧
      ∀ (action : LogAction) pattern, (∃ statement ∈ statements, Statements.AllowsLogs statement action.name pattern) ↔
        pattern = action.pattern blueprint.service := by
  obtain ⟨role, present, listed⟩ := took.granted found
  refine ⟨role, _, present, listed, fun action pattern => ?_⟩
  rw [← Core.logStatements_allow]
  constructor
  · rintro ⟨statement, member, allows⟩
    rcases Statements.mem_foldl_add _ _ statement member with made | asked
    · exact ⟨statement, made, allows⟩
    · obtain ⟨move, taken, asks⟩ := Move.asked_mem _ _ statement asked
      exact absurd allows (course_no_logs blueprint plans move taken statement asks action pattern)
  · rintro ⟨statement, member, allows⟩
    refine ⟨statement, ?_, allows⟩
    rw [Statements.foldl_add]
    exact List.mem_append_left _ member

/-- A function that logs under the default role has a log group under the name that it is deployed under, and for each of the
actions on logs the default role has the pattern of the action and no other one. -/
theorem compileService_logging (service : ServiceConfig) (files : Files) (registry : Registry) (enforce : Bool)
    (proper : (ofService service files registry enforce).IsProper)
    (regular : (Value.obj service.resources).isProper = true) (previous : Option Graph) (graph : Graph)
    (compiled : List CompiledFunction)
    (compiles : ((ofService service files registry enforce).compileService previous).1 = .ok (graph, compiled))
    (name : String) (function : FunctionConfig) (declared : service.functions.find? name = some function) (role : Role)
    (resolves : Role.ofFunction function service.provider = .ok role) (default : role.isDefault = true)
    (logs : function.disableLogs = false) :
    ∃ group compute deployed executionRole statements,
      deployed = service.deployedName name (some function) (some service.provider.stage) ∧
      graph.find? (Naming.logGroup name) = some group ∧ group.type = .str "AWS::Logs::LogGroup" ∧
      graph.find? (Naming.function name) = some compute ∧ compute.type = .str "AWS::Lambda::Function" ∧
      compute.properties.field? "FunctionName" = some (.str deployed) ∧
      group.properties.field? "LogGroupName" = some (.str ("/aws/lambda/" ++ deployed)) ∧
      graph.find? defaultExecutionRole = some executionRole ∧
      ExecutionPolicy.statementOf executionRole.properties = .arr statements ∧
      ∀ (action : LogAction) pattern, (∃ statement ∈ statements, Statements.AllowsLogs statement action.name pattern) ↔
        pattern = action.pattern service := by
  obtain ⟨core, w, start, policy, plans, seeded, _, ran, rfl, rfl⟩ := compileService_ran proper compiles
  have listed := Table.find?_some_mem _ _ _ declared
  obtain ⟨plan, planned, rfl, rfl⟩ := ran.planned name function listed
  obtain ⟨compute, there, type, deployed⟩ := ran.deployed seeded proper planned regular
  obtain ⟨group, placed, kind, named⟩ := Core.graph_logs service core seeded regular plan.name plan.function listed logs
  rw [service.deployedName_found plan.name plan.function declared] at named
  have held : w.graph.find? (Naming.logGroup plan.name) = some group := by
    rw [ran.elsewhere _ (Naming.logGroup_ne_role _), placed, Option.some_or]
  obtain ⟨executionRole, statements, present, granted, allowed⟩ :=
    ran.logs_allowed (Core.graph_role service core seeded _ _ role listed resolves default)
  have kept := Graph.carried_keeps w.graph previous
  exact ⟨group, compute, _, executionRole, statements, rfl, kept _ _ held, kind, kept _ _ there, type, deployed, named,
    kept _ _ present, granted, allowed⟩

/-- A function that logs under the default role has a log group under the name that it is deployed under. For each of the
actions on logs, the default role covers that group if and only if the service and the stage, with an open end, admit this
name, as they do for a function without a name of its own. -/
theorem compileService_logs (service : ServiceConfig) (files : Files) (registry : Registry) (enforce : Bool)
    (proper : (ofService service files registry enforce).IsProper)
    (regular : (Value.obj service.resources).isProper = true) (previous : Option Graph) (graph : Graph)
    (compiled : List CompiledFunction)
    (compiles : ((ofService service files registry enforce).compileService previous).1 = .ok (graph, compiled))
    (name : String) (function : FunctionConfig) (declared : service.functions.find? name = some function) (role : Role)
    (resolves : Role.ofFunction function service.provider = .ok role) (default : role.isDefault = true)
    (logs : function.disableLogs = false) :
    ∃ group compute deployed executionRole statements,
      graph.find? (Naming.logGroup name) = some group ∧ group.type = .str "AWS::Logs::LogGroup" ∧
      graph.find? (Naming.function name) = some compute ∧ compute.type = .str "AWS::Lambda::Function" ∧
      compute.properties.field? "FunctionName" = some (.str deployed) ∧
      group.properties.field? "LogGroupName" = some (.str ("/aws/lambda/" ++ deployed)) ∧
      graph.find? defaultExecutionRole = some executionRole ∧
      ExecutionPolicy.statementOf executionRole.properties = .arr statements ∧
      (∀ action, Statements.CoverLogs statements action ("/aws/lambda/" ++ deployed) ↔
        Pattern.admits (Core.stackName service ++ "*").toList deployed.toList = true) ∧
      (Text.given function.name = none → Pattern.admits (Core.stackName service ++ "*").toList deployed.toList = true) := by
  obtain ⟨group, compute, deployed, executionRole, statements, called, held, kind, there, type, known, named, present,
    granted, allowed⟩ := compileService_logging service files registry enforce proper regular previous graph compiled compiles
      name function declared role resolves default logs
  refine ⟨group, compute, deployed, executionRole, statements, held, kind, there, type, known, named, present, granted,
    fun action => ?_, fun unnamed => ?_⟩
  · rw [← action.pattern_admits service]
    constructor
    · rintro ⟨statement, member, pattern, allows, covers⟩
      rwa [(allowed action pattern).mp ⟨statement, member, allows⟩] at covers
    · intro covers
      obtain ⟨statement, member, allows⟩ := (allowed action _).mpr rfl
      exact ⟨statement, member, _, allows, covers⟩
  · rw [called, service.deployedName_unnamed _ _ unnamed, String.toList_append, String.toList_append]
    exact Pattern.admits_open_self _ _

/-- A service with a function that has no name of its own, and one that has. -/
def nightly : ServiceConfig := .ofFields [
  ("service", .str "s"),
  ("functions", .obj [
    ("api", .obj [("handler", .str "api.handle"), ("versionFunction", .bool false)]),
    ("job", .obj [("handler", .str "job.run"), ("name", .str "nightly"), ("versionFunction", .bool false)])])]

/-- The default role covers the log group of the function without a name of its own. -/
theorem nightly_covers : ∃ graph compiled group deployed role statements,
    ((packaged nightly).compileService none).1 = .ok (graph, compiled) ∧
      graph.find? (Naming.logGroup "api") = some group ∧
      group.properties.field? "LogGroupName" = some (.str ("/aws/lambda/" ++ deployed)) ∧
      graph.find? defaultExecutionRole = some role ∧ ExecutionPolicy.statementOf role.properties = .arr statements ∧
      ∀ action, Statements.CoverLogs statements action ("/aws/lambda/" ++ deployed) := by
  obtain ⟨graph, compiled, compiles, _⟩ := compileService_any (packaged nightly) none (fun _ _ => true) (by decide +kernel)
  obtain ⟨function, role, declared, resolves, default, logs, unnamed⟩ : ∃ function role,
      nightly.functions.find? "api" = some function ∧ Role.ofFunction function nightly.provider = .ok role ∧
        role.isDefault = true ∧ function.disableLogs = false ∧ Text.given function.name = none :=
    ⟨_, _, rfl, rfl, rfl, rfl, rfl⟩
  obtain ⟨group, _, deployed, executionRole, statements, held, _, _, _, _, named, present, granted, covers, own⟩ :=
    compileService_logs nightly _ _ _ (by decide +kernel) (by decide +kernel) none graph compiled compiles "api" function
      declared role resolves default logs
  exact ⟨graph, compiled, group, deployed, executionRole, statements, compiles, held, named, present, granted,
    fun action => (covers action).mpr (own unnamed)⟩

/-- The role does not let the other function write into its log group: the patterns for logs admit nothing in it. -/
theorem nightly_silent : ∃ function role graph compiled group executionRole statements,
    nightly.functions.find? "job" = some function ∧ Role.ofFunction function nightly.provider = .ok role ∧
      role.isDefault = true ∧ function.disableLogs = false ∧
      ((packaged nightly).compileService none).1 = .ok (graph, compiled) ∧
      graph.find? (Naming.logGroup "job") = some group ∧
      group.properties.field? "LogGroupName" = some (.str "/aws/lambda/nightly") ∧
      graph.find? defaultExecutionRole = some executionRole ∧
      ExecutionPolicy.statementOf executionRole.properties = .arr statements ∧
      ∀ statement ∈ statements, ∀ (action : LogAction) pattern, Statements.AllowsLogs statement action.name pattern →
        ∀ address, action.Addresses "/aws/lambda/nightly" address → Pattern.admits pattern.toList address.toList = false := by
  obtain ⟨graph, compiled, compiles, _⟩ := compileService_any (packaged nightly) none (fun _ _ => true) (by decide +kernel)
  obtain ⟨function, role, declared, resolves, default, logs, name⟩ : ∃ function role,
      nightly.functions.find? "job" = some function ∧ Role.ofFunction function nightly.provider = .ok role ∧
        role.isDefault = true ∧ function.disableLogs = false ∧
        nightly.deployedName "job" (some function) (some nightly.provider.stage) = "nightly" :=
    ⟨_, _, rfl, rfl, rfl, rfl, rfl⟩
  obtain ⟨group, _, deployed, executionRole, statements, called, held, _, _, _, _, named, present, granted, allowed⟩ :=
    compileService_logging nightly _ _ _ (by decide +kernel) (by decide +kernel) none graph compiled compiles "job" function
      declared role resolves default logs
  obtain rfl : deployed = "nightly" := called.trans name
  refine ⟨function, role, graph, compiled, group, executionRole, statements, declared, resolves, default, logs, compiles, held,
    named, present, granted, fun statement member action pattern allows address within => ?_⟩
  obtain rfl := (allowed action pattern).mp ⟨statement, member, allows⟩
  have group : "/aws/lambda/nightly" = "/aws/lambda/" ++ "nightly" := by decide
  rw [group] at within
  cases action with
  | createStream =>
      obtain ⟨stream, rfl⟩ := within
      rw [String.append_assoc, LogAction.pattern, Pattern.admits_lambda]
      rfl
  | putEvents =>
      obtain ⟨kind, stream, rfl⟩ := within
      rw [String.append_assoc, String.append_assoc, String.append_assoc, LogAction.pattern, Pattern.admits_lambda]
      rfl

end Blueprint

end FunctionStack
