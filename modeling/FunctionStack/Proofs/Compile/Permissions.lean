import FunctionStack.Proofs.Compile.Destination
import FunctionStack.Proofs.Compile.Function
import FunctionStack.Proofs.Compile.Service
import FunctionStack.Proofs.Template.Core

/-!
The statements of the execution policy after a compilation: what the functions under the default role ask for, in
their order and without repetitions, and nothing else.
-/

namespace FunctionStack

/-- Permission for some actions on one resource. -/
def permission (actions : List String) (resource : Value) : Value :=
  .obj [("Effect", .str "Allow"), ("Action", Value.texts actions), ("Resource", .arr [resource])]

/-- Permission to send to a destination, under an identifier of its own. -/
def sendPermission (function : String) (destination : Destination) : Value :=
  .obj [("Sid", .str (destination.sid function)), ("Effect", .str "Allow"),
    ("Action", .str destination.kind.action), ("Resource", destination.pointer)]

/-- A literal ARN that is not empty can be granted; a computed one cannot. -/
def literalPermission (actions : List String) : Option Pointer → List Value
  | some (.arn text) => if text = "" then [] else [permission actions (.str text)]
  | _ => []

namespace Blueprint

open Build (Yields)

/-- The key of a function, or the provider's where the function has none. -/
def effectiveKey (function : FunctionConfig) (provider : ProviderConfig) : Option Pointer :=
  if function.kmsKeyArn.any fun key => key.toValue.given then function.kmsKeyArn else provider.kmsKeyArn

/-- The tracing of a function, or the provider's where the function says nothing. -/
def effectiveTracing (function : FunctionConfig) (provider : ProviderConfig) : Option Tracing :=
  match function.tracing with
  | some own => some own
  | none => provider.tracing

/-- What a function asks for by its settings. -/
def settingRequests (function : FunctionConfig) (provider : ProviderConfig) : List Value :=
  literalPermission ["sns:Publish"] function.onError ++
    literalPermission ["kms:Decrypt"] (effectiveKey function provider) ++
    (if (effectiveTracing function provider).any fun mode => mode.toValue.given then
      [permission ["xray:PutTraceSegments", "xray:PutTelemetryRecords"] (.str "*")] else []) ++
    match function.fileSystem with
    | some mount => [permission ["elasticfilesystem:ClientMount", "elasticfilesystem:ClientWrite"] mount.arn.toValue]
    | none => []

/-- The outcomes that a function declares, each with a target that is given. -/
def declaredTargets (function : FunctionConfig) : List Value :=
  match function.destinations with
  | some declared => [declared.onSuccess, declared.onFailure].filter Value.given
  | none => []

/-- What a function asks for to reach some targets. -/
def targetRequests (blueprint : Blueprint) (name : String) (targets : List Value) : List Value :=
  targets.flatMap fun target =>
    match blueprint.destination name target with
    | .ok destination => [sendPermission name destination]
    | .error _ => []

/-- What a function asks of the shared policy: nothing, unless its role is the default one. -/
def requests (blueprint : Blueprint) (name : String) (function : FunctionConfig) : List Value :=
  match Role.ofFunction function blueprint.provider with
  | .ok role =>
    if role.isDefault then
      settingRequests function blueprint.provider ++ blueprint.targetRequests name (declaredTargets function)
    else []
  | .error _ => []

theorem literal_given (pointer : Option Pointer) (actions : List String) :
    ((pointer.filter Pointer.isGiven >>= Pointer.literal?).elim [] fun arn => [Compute.allow actions (.str arn)]) =
      literalPermission actions pointer := by
  cases pointer with
  | none => rfl
  | some pointer =>
      cases pointer with
      | arn text =>
          by_cases empty : text = ""
          · subst empty
            rfl
          · have given : Pointer.isGiven (.arn text) = true := by
              simp [Pointer.isGiven, Pointer.toValue, Value.given, empty]
            simp [Option.filter, given, Pointer.literal?, literalPermission, empty]
            rfl
      | computed fields =>
          cases given : Pointer.isGiven (.computed fields) <;>
            simp [Option.filter, given, Pointer.literal?, literalPermission]

theorem kmsKey_effective (function : FunctionConfig) (provider : ProviderConfig) :
    Compute.kmsKey? function provider = (effectiveKey function provider).filter Pointer.isGiven := by
  unfold Compute.kmsKey? Pointer.firstGiven effectiveKey
  cases key : function.kmsKeyArn with
  | none => simp
  | some own =>
      cases given : own.toValue.given with
      | true => simp [Option.filter, Pointer.isGiven, given]
      | false => simp [Option.filter, Pointer.isGiven, given]

theorem tracing_given (tracing : Tracing) : tracing.mode?.isSome = tracing.toValue.given := by
  cases tracing with
  | enabled on => cases on <;> rfl
  | mode name => by_cases empty : name = "" <;> simp [Tracing.mode?, Tracing.toValue, Value.given, empty]

/-- The statements that the compiler makes from the settings are the requested ones. -/
theorem settings_requested (function : FunctionConfig) (provider : ProviderConfig) :
    Compute.settingStatements function provider ++ Compute.fileSystemStatements function =
      settingRequests function provider := by
  have tracing : ((Compute.tracingMode? function provider).elim [] fun _ =>
      [Compute.allow ["xray:PutTraceSegments", "xray:PutTelemetryRecords"] (.str "*")]) =
      if (effectiveTracing function provider).any fun mode => mode.toValue.given then
        [permission ["xray:PutTraceSegments", "xray:PutTelemetryRecords"] (.str "*")] else [] := by
    have effective : (function.tracing <|> provider.tracing) = effectiveTracing function provider := by
      unfold effectiveTracing
      cases function.tracing <;> rfl
    unfold Compute.tracingMode?
    rw [effective]
    cases effectiveTracing function provider with
    | none => rfl
    | some mode =>
        have given := tracing_given mode
        rw [Option.any_some, ← given, Option.bind_eq_bind, Option.bind_some]
        cases mode.mode? <;> rfl
  have files : Compute.fileSystemStatements function = match function.fileSystem with
      | some mount =>
        [permission ["elasticfilesystem:ClientMount", "elasticfilesystem:ClientWrite"] mount.arn.toValue]
      | none => [] := by
    unfold Compute.fileSystemStatements
    cases function.fileSystem <;> rfl
  unfold Compute.settingStatements settingRequests
  rw [Compute.onError?, literal_given, kmsKey_effective, literal_given, tracing, files]

theorem destination_proper (blueprint : Blueprint) (owner : String) (target : Value) (destination : Destination)
    (proper : target.isProper = true) (read : blueprint.destination owner target = .ok destination) :
    destination.pointer.isProper = true := by
  rcases Destination.classify_ok target owner _ destination read with
    ⟨text, _, pointer, _⟩ | ⟨text, _, resolved, _⟩ | ⟨given, key, rfl, member, _⟩
  · rw [pointer]
    rfl
  · unfold Destination.resolver at resolved
    split at resolved
    · rw [← Except.ok.inj resolved]
      rfl
    · cases resolved
  · exact ((Value.obj_isProper given).mp proper).2 key destination.pointer member

theorem sid_given (function : String) (destination : Destination) :
    Text.given (some (destination.sid function)) = some (destination.sid function) := by
  have filled : destination.sid function ≠ "" := by
    unfold Destination.sid
    simp
  simp [Text.given, Option.filter, filled]

theorem allow_sendPermission (function : String) (destination : Destination) :
    Statements.allow (.str destination.kind.action) destination.pointer (some (destination.sid function)) =
      sendPermission function destination := by
  rw [Statements.allow, sid_given]
  rfl

/-- Two requests of a function for one key are the same request. -/
theorem sendPermission_sorted (function : String) (a b : Destination) (proper : a.pointer.isProper = true)
    (regular : b.pointer.isProper = true) (same : a.key = b.key) :
    (sendPermission function a).sortKeys = (sendPermission function b).sortKeys := by
  obtain ⟨kind, pointer⟩ := Destination.key_unique a b proper regular same
  have sid : a.sid function = b.sid function := by rw [Destination.sid, same, Destination.sid]
  simp only [sendPermission, Value.sortKeys, Value.sortFields, kind, pointer, sid]

theorem sendPermission_proper (function : String) (destination : Destination)
    (proper : destination.pointer.isProper = true) : (sendPermission function destination).isProper = true := by
  simp [sendPermission, Value.isProper, Value.properFields, proper]

/-- The policy is kept in the role, with these statements. -/
structure Keeping (w : Workspace) (statements : List Value) : Prop where
  bound : w.policy = some .inRole
  keeps : ExecutionPolicy.Keeps w.graph statements

/-- Each recorded grant is among the statements as well. -/
structure Holding (w : Workspace) (statements : List Value) : Prop extends Keeping w statements where
  recorded : ∀ function key, (function, key) ∈ w.granted → ∃ destination : Destination, destination.key = key ∧
    destination.pointer.isProper = true ∧ (sendPermission function destination).isIn statements = true

/-- Growing the graph, or remembering other things, changes nothing about the policy. -/
theorem Holding.extend {w left : Workspace} {statements : List Value} (holding : Holding w statements)
    (policy : left.policy = w.policy) (granted : left.granted = w.granted)
    (grown : w.graph.Extends left.graph) : Holding left statements where
  bound := policy.trans holding.bound
  keeps := by
    obtain ⟨role, found, held⟩ := holding.keeps
    exact ⟨role, grown _ _ found, held⟩
  recorded := by
    rw [granted]
    exact holding.recorded

theorem Keeping.grant {w left : Workspace} {statements : List Value} (keeping : Keeping w statements)
    (statement : Value) (added : Bool) (granted : Yields (Build.grant statement) w added left) :
    Keeping left (Statements.add statements statement) ∧ left.granted = w.granted := by
  obtain ⟨properties, grown, keeps⟩ := ExecutionPolicy.add_inRole w.graph statements statement keeping.keeps
  simp only [Build.grant, Build.yields_get, keeping.bound, Build.yields_ofResult_bind, grown, Except.ok.injEq,
    Prod.exists, Prod.mk.injEq, Build.yields_modify_bind, Build.yields_pure] at granted
  obtain ⟨_, _, _, ⟨rfl, rfl, rfl⟩, _, rfl⟩ := granted
  exact ⟨⟨rfl, keeps⟩, rfl⟩

theorem Holding.grantAll {w left : Workspace} {statements : List Value} (holding : Holding w statements)
    (requested : List Value) (granted : Yields (Build.grantAll requested) w () left) :
    Holding left (requested.foldl Statements.add statements) := by
  induction requested generalizing w statements with
  | nil =>
      obtain ⟨_, rfl⟩ := (Build.yields_pure _ _ _ _).mp granted
      exact holding
  | cons statement rest ih =>
      rw [Build.grantAll, Build.yields_bind] at granted
      obtain ⟨added, between, first, others⟩ := granted
      obtain ⟨keeping, known⟩ := holding.toKeeping.grant statement added first
      refine ih ⟨keeping, fun function key member => ?_⟩ others
      rw [known] at member
      obtain ⟨destination, same, proper, present⟩ := holding.recorded function key member
      exact ⟨destination, same, proper, Statements.isIn_add statements _ statement present⟩

/-- A destination is granted once for each function; a second request finds the first one's statement. -/
theorem Holding.grantDestination {w left : Workspace} {statements : List Value} (holding : Holding w statements)
    (function : String) (destination : Destination) (added : Bool) (proper : destination.pointer.isProper = true)
    (granted : Yields (Build.grantDestination function destination) w added left) :
    Holding left (Statements.add statements (sendPermission function destination)) := by
  have bound : w.policy.isNone = false := by rw [holding.bound]; rfl
  simp only [Build.grantDestination, Build.yields_get, bound, Bool.false_eq_true, if_false] at granted
  split at granted
  case isTrue known =>
    obtain ⟨_, rfl⟩ := (Build.yields_pure _ _ _ _).mp granted
    obtain ⟨earlier, same, regular, present⟩ := holding.recorded function destination.key (by simpa using known)
    have present := Statements.isIn_sorted statements _ _
      (sendPermission_sorted function earlier destination regular proper same) present
    rw [Statements.add, if_pos present]
    exact holding
  case isFalse fresh =>
    rw [Build.yields_modify_bind, allow_sendPermission] at granted
    have start : Keeping { w with granted := w.granted ++ [(function, destination.key)] } statements :=
      ⟨holding.bound, holding.keeps⟩
    obtain ⟨keeping, known⟩ := start.grant _ added granted
    refine ⟨keeping, fun other key member => ?_⟩
    rw [known] at member
    rcases List.mem_append.mp member with member | member
    · obtain ⟨earlier, same, regular, present⟩ := holding.recorded other key member
      exact ⟨earlier, same, regular, Statements.isIn_add statements _ _ present⟩
    · cases List.mem_singleton.mp member
      exact ⟨destination, rfl, proper,
        Statements.isIn_added statements _ (sendPermission_proper function destination proper)⟩

theorem Holding.grantSettings {w left : Workspace} {statements : List Value} (holding : Holding w statements)
    (role : Role) (requested : List Value) (granted : Yields (grantSettings role requested) w () left) :
    Holding left ((if role.isDefault then requested else []).foldl Statements.add statements) :=
  holding.grantAll _ (grantSettings_ok role requested w left granted)

section Function

variable (blueprint : Blueprint) (name : String) (function : FunctionConfig)

theorem Holding.addCompute {w left : Workspace} {statements : List Value} (holding : Holding w statements)
    (code : Code) (role : Role) (added : Yields (blueprint.addCompute name function code role) w () left) :
    Holding left ((if role.isDefault then settingRequests function blueprint.provider else []).foldl
      Statements.add statements) := by
  obtain ⟨granted, mounted, graph, settings, files, placed, rfl⟩ :=
    addCompute_ok blueprint name function code role w left added
  have after := (holding.grantSettings role _ settings).grantSettings role _ files
  rw [← List.foldl_append, ← settings_requested] at *
  have both : ((if role.isDefault then Compute.settingStatements function blueprint.provider else []) ++
      if role.isDefault then Compute.fileSystemStatements function else []) =
      if role.isDefault then
        Compute.settingStatements function blueprint.provider ++ Compute.fileSystemStatements function
      else [] := by split <;> simp
  rw [both] at after
  exact after.extend rfl rfl (Graph.add_extends _ _ _ _ placed)

theorem Holding.publish {w left : Workspace} {statements : List Value} (holding : Holding w statements)
    (code : Code) (version : Option String) (via : Option TargetAlias)
    (published : Yields (blueprint.publish name function code) w (version, via) left) :
    Holding left statements := by
  rcases publish_ok blueprint name function code w left version via published with
    ⟨_, _, _, rfl⟩ | ⟨id, _, _, added⟩
  · exact holding
  · obtain ⟨digest, one, two, graph, _, _, first, second, rfl, aliased⟩ :=
      addVersion_ok blueprint name function code w left id via added
    have grown := (Graph.add_extends _ _ _ _ first).trans (Graph.addOutput_extends _ _ _ _ _ second)
    rcases aliased with ⟨_, _, rfl⟩ | ⟨own, extra, _, _, third⟩
    · exact holding.extend rfl rfl grown
    · exact holding.extend rfl rfl (grown.trans (Graph.add_extends _ _ _ _ third))

theorem Holding.addUrl {w left : Workspace} {statements : List Value} (holding : Holding w statements)
    (via : Option TargetAlias) (id : Option String) (added : Yields (addUrl name function via) w id left) :
    Holding left statements := by
  rcases addUrl_ok name function via w left id added with ⟨_, _, rfl⟩ | ⟨url, one, two, graph, _, _, first, second, rfl, open_⟩
  · exact holding
  · have grown := (Graph.add_extends _ _ _ _ first).trans (Graph.addOutput_extends _ _ _ _ _ second)
    rcases open_ with ⟨_, rfl⟩ | ⟨_, third⟩
    · exact holding.extend rfl rfl grown
    · exact holding.extend rfl rfl (grown.trans (Graph.add_extends _ _ _ _ third))

theorem Holding.addDestinations {w left : Workspace} {statements : List Value} (holding : Holding w statements)
    (role : Role) (targets : List (String × Value)) (entries : Fields)
    (proper : ∀ outcome target, (outcome, target) ∈ targets → target.isProper = true)
    (added : Yields (blueprint.addDestinations name role targets) w entries left) :
    Holding left ((if role.isDefault then blueprint.targetRequests name (targets.map Prod.snd) else []).foldl
      Statements.add statements) := by
  induction targets generalizing w statements entries with
  | nil =>
      obtain ⟨_, rfl⟩ := (Build.yields_pure _ _ _ _).mp added
      rw [List.map_nil, targetRequests, List.flatMap_nil, ite_self]
      exact holding
  | cons entry rest ih =>
      obtain ⟨outcome, target⟩ := entry
      obtain ⟨destination, others, granted, read, grant, more, _⟩ :=
        addDestinations_ok blueprint name role outcome target rest w left entries added
      have remaining := fun outcome target member => proper outcome target (List.mem_cons_of_mem _ member)
      have pointer := destination_proper blueprint name target destination
        (proper outcome target (List.mem_cons_self ..)) read
      rcases grant with ⟨other, rfl⟩ | ⟨default, fresh, grant⟩
      · have after := ih holding others remaining more
        rw [if_neg (by simp [other])] at after ⊢
        exact after
      · have after := ih (holding.grantDestination name destination fresh pointer grant) others remaining more
        rw [if_pos default] at after ⊢
        rw [List.map_cons, targetRequests, List.flatMap_cons, read]
        exact after

theorem declaredTargets_map : (EventConfig.targets function).map Prod.snd = declaredTargets function := by
  unfold EventConfig.targets declaredTargets
  cases function.destinations with
  | none => rfl
  | some declared =>
      cases success : declared.onSuccess.given <;> cases failure : declared.onFailure.given <;>
        simp [List.filter, success, failure]

theorem Holding.addEventConfig {w left : Workspace} {statements : List Value} (holding : Holding w statements)
    (role : Role) (via : Option TargetAlias) (id : Option String)
    (proper : ∀ target ∈ declaredTargets function, target.isProper = true)
    (added : Yields (blueprint.addEventConfig name function role via) w id left) :
    Holding left ((if role.isDefault then blueprint.targetRequests name (declaredTargets function) else []).foldl
      Statements.add statements) := by
  rcases addEventConfig_ok blueprint name function role via w left id added with
    ⟨_, idle, rfl⟩ | ⟨entries, granted, graph, _, _, sent, placed, rfl⟩
  · have none : declaredTargets function = [] := by
      simp only [EventConfig.isNeeded, Bool.or_eq_false_iff, Option.isSome_eq_false_iff, Option.isNone_iff_eq_none]
        at idle
      rw [declaredTargets, idle.1.1]
    rw [none, targetRequests, List.flatMap_nil, ite_self]
    exact holding
  · have regular : ∀ outcome target, (outcome, target) ∈ EventConfig.targets function → target.isProper = true := by
      intro outcome target member
      apply proper target
      rw [← declaredTargets_map]
      exact List.mem_map.mpr ⟨_, member, rfl⟩
    have after := holding.addDestinations blueprint name role _ entries regular sent
    rw [declaredTargets_map] at after
    exact after.extend rfl rfl (Graph.add_extends _ _ _ _ placed)

/-- Compiling a function adds what it asks for. -/
theorem Holding.compileFunction {w left : Workspace} {statements : List Value} (holding : Holding w statements)
    (compiled : CompiledFunction) (proper : ∀ target ∈ declaredTargets function, target.isProper = true)
    (compiles : Yields (blueprint.compileFunction name function) w compiled left) :
    Holding left ((blueprint.requests name function).foldl Statements.add statements) := by
  obtain ⟨role, code, session, computed, version, via, published, url, opened, event, _, resolved, _, compute,
    publish, openUrl, config, _⟩ := compileFunction_ok blueprint name function w left compiled compiles
  have start : Holding { w with registry := session } statements := holding.extend rfl rfl (Graph.Extends.refl _)
  have after := (((start.addCompute blueprint name function code role compute).publish blueprint name function code
    version via publish).addUrl name function via url openUrl).addEventConfig blueprint name function role via event
    proper config
  rw [← List.foldl_append] at after
  rw [requests, resolved]
  cases default : role.isDefault <;> simpa [default] using after

end Function

theorem Holding.compileEach {w left : Workspace} {statements : List Value} (blueprint : Blueprint)
    (holding : Holding w statements) (functions : List (String × FunctionConfig))
    (proper : ∀ name function, (name, function) ∈ functions →
      ∀ target ∈ declaredTargets function, target.isProper = true)
    (compiles : Yields (blueprint.compileEach functions) w () left) :
    Holding left ((functions.flatMap fun (name, function) => blueprint.requests name function).foldl
      Statements.add statements) := by
  induction functions generalizing w statements with
  | nil =>
      obtain ⟨_, rfl⟩ := (Build.yields_pure _ _ _ _).mp compiles
      exact holding
  | cons entry rest ih =>
      obtain ⟨name, function⟩ := entry
      obtain ⟨compiled, between, first, others⟩ := compileEach_ok blueprint name function rest w left compiles
      have one := holding.compileFunction blueprint name function compiled
        (proper name function (List.mem_cons_self ..)) first
      have two : Holding { between with compiled := between.compiled ++ [compiled] } _ :=
        one.extend rfl rfl (Graph.Extends.refl _)
      have after := ih two (fun name function member => proper name function (List.mem_cons_of_mem _ member)) others
      rwa [List.flatMap_cons, List.foldl_append]

/-- The execution policy holds the two log statements and then, each once and in the order of the functions, what
the functions under the default role ask for. -/
theorem compileService_statements (service : ServiceConfig) (files : Files) (registry : Registry) (enforce : Bool)
    (graph : Graph) (compiled : List CompiledFunction)
    (proper : ∀ name function, (name, function) ∈ service.functions →
      ∀ target ∈ declaredTargets function, target.isProper = true)
    (default : ∃ name function role, (name, function) ∈ service.functions ∧
      Role.ofFunction function service.provider = .ok role ∧ role.isDefault = true)
    (compiles : ((ofService service files registry enforce).compileService none).1 = .ok (graph, compiled)) :
    ∃ role, graph.find? defaultExecutionRole = some role ∧
      ExecutionPolicy.statementOf role.properties = .arr (Core.logStatements service ++
        Statements.firstOccurrences (Core.logStatements service)
          (service.functions.flatMap fun (name, function) =>
            (ofService service files registry enforce).requests name function)) := by
  obtain ⟨name, function, role, member, resolves, isDefault⟩ := default
  obtain ⟨core, w, seeded, built, rfl, _⟩ := (compileService_ok _ _ _ _).mp compiles
  obtain ⟨start, policy, bound, _, each, _⟩ := (compileAll_ok _ _ w).mp built
  have found := Core.graph_role service core seeded name function role member resolves isDefault
  have initial : Holding { opening core with graph := start, policy := policy } (Core.logStatements service) := by
    have completed := Core.completeRole_executionRole service
    have listed := Core.statementOf_executionRole service
    simp only [ExecutionPolicy.ofGraph, opening, found, Result.bind_ok, completed, Except.ok.injEq, listed,
      Result.pure_ok, Prod.mk.injEq, exists_eq_left'] at bound
    obtain ⟨rfl, rfl⟩ := bound
    refine ⟨⟨rfl, ⟨_, ?_, listed⟩⟩, fun function key member => by cases member⟩
    rw [ExecutionPolicy.setProperties_find?, found, Option.map_some, if_pos rfl]
  have final := initial.compileEach _ service.functions proper each
  rw [Statements.foldl_add] at final
  exact final.keeps

/-- A service with two functions under the default role and one under a role of its own. -/
def relay : ServiceConfig := .ofFields [
  ("service", .str "s"),
  ("provider", .obj [("versionFunctions", .bool false)]),
  ("functions", .obj [
    ("api", .obj [
      ("handler", .str "api.handle"),
      ("onError", .str "arn:aws:sns:eu:1:failed"),
      ("tracing", .bool true),
      ("destinations", .obj [("onSuccess", .str "worker")])]),
    ("worker", .obj [
      ("handler", .str "worker.handle"),
      ("role", .str "arn:aws:iam::1:role/worker"),
      ("onError", .str "arn:aws:sns:eu:1:lost")]),
    ("audit", .obj [("handler", .str "audit.handle"), ("tracing", .bool true)])])]

/-- The log statements are followed by dead letters, tracing and the destination of the first function; the last
function asks for tracing again. -/
theorem relay_statements :
    ∃ graph compiled role statements,
      ((ofService relay (.empty []) ⟨false, fun _ => .error ""⟩ false).compileService none).1 =
        .ok (graph, compiled) ∧
      graph.find? defaultExecutionRole = some role ∧
      ExecutionPolicy.statementOf role.properties = .arr statements ∧ statements.length = 5 := by
  have succeeds : ((ofService relay (.empty []) ⟨false, fun _ => .error ""⟩ false).compileService none).1.toBool =
      true := by decide +kernel
  have proper : (relay.functions.all fun entry => (declaredTargets entry.2).all Value.isProper) = true := by
    decide +kernel
  cases compiles : ((ofService relay (.empty []) ⟨false, fun _ => .error ""⟩ false).compileService none).1 with
  | error failure =>
      rw [compiles] at succeeds
      cases succeeds
  | ok result =>
      obtain ⟨graph, compiled⟩ := result
      obtain ⟨role, found, listed⟩ := compileService_statements relay _ _ _ graph compiled
        (fun name function member target declared =>
          List.all_eq_true.mp (List.all_eq_true.mp proper (name, function) member) target declared)
        ⟨"api", _, Role.theDefault, List.mem_cons_self .., rfl, rfl⟩ compiles
      exact ⟨graph, compiled, role, _, rfl, found, listed, by decide +kernel⟩

end Blueprint

end FunctionStack
