import FunctionStack.Compile.Function
import FunctionStack.Proofs.Compile.Build

/-!
What each part of the compilation of one function did, if it succeeded.
-/

namespace FunctionStack

namespace Compute

/-- What the settings of a function can ask for: actions on what is written in them, or on the file system that is mounted. -/
inductive Asked (function : FunctionConfig) : Value → Prop
  | literal (actions : List String) (known : actions ∈ [["sns:Publish"], ["kms:Decrypt"],
      ["xray:PutTraceSegments", "xray:PutTelemetryRecords"]]) (text : String) : Asked function (allow actions (.str text))
  | mount (own : FileSystemConfig) (mounted : function.fileSystem = some own) :
      Asked function (allow ["elasticfilesystem:ClientMount", "elasticfilesystem:ClientWrite"] own.arn.toValue)

theorem statements_asked (function : FunctionConfig) (provider : ProviderConfig) (statement : Value)
    (member : statement ∈ settingStatements function provider ++ fileSystemStatements function) :
    Asked function statement := by
  have optional {α : Type} (option : Option α) (make : α → Value) (asked : ∀ a, option = some a → Asked function (make a))
      (inside : statement ∈ option.elim [] fun a => [make a]) : Asked function statement := by
    cases option with
    | none => cases inside
    | some a =>
        rw [List.mem_singleton.mp inside]
        exact asked a rfl
  simp only [settingStatements, fileSystemStatements, List.mem_append] at member
  rcases member with ((topic | key) | traces) | files
  · exact optional _ _ (fun text _ => .literal _ (by decide) text) topic
  · exact optional _ _ (fun text _ => .literal _ (by decide) text) key
  · exact optional _ _ (fun _ _ => .literal _ (by decide) "*") traces
  · exact optional _ _ .mount files

end Compute

namespace Blueprint

open Build (Yields)

theorem grantSettings_ok (role : Role) (statements : List Value) (w left : Workspace)
    (granted : Yields (grantSettings role statements) w () left) :
    Yields (Build.grantAll (if role.isDefault then statements else [])) w () left := by
  unfold grantSettings at granted
  split at granted
  case isTrue default => rwa [if_pos default]
  case isFalse other => rwa [if_neg other]

theorem addCompute_ok (blueprint : Blueprint) (name : String) (function : FunctionConfig) (code : Code)
    (role : Role) (w left : Workspace)
    (added : Yields (blueprint.addCompute name function code role) w () left) :
    ∃ granted mounted graph,
      Yields (grantSettings role (Compute.settingStatements function blueprint.provider)) w () granted ∧
      Yields (grantSettings role (Compute.fileSystemStatements function)) granted () mounted ∧
      mounted.graph.add (Naming.function name)
        (Compute.resource blueprint.service blueprint.provider blueprint.enforce name function code role) =
          .ok graph ∧
      left = { mounted with graph := graph } := by
  simp only [addCompute, Build.yields_bind (grantSettings role _), Build.yields_ofResult_bind] at added
  obtain ⟨⟨⟩, granted, settings, ⟨⟩, _, ⟨⟩, mounted, files, added⟩ := added
  split at added
  case isTrue =>
    simp only [Build.yields_ofResult_bind, Build.yields_addResource] at added
    obtain ⟨⟨⟩, _, graph, added, rfl⟩ := added
    exact ⟨granted, mounted, graph, settings, files, added, rfl⟩
  case isFalse =>
    rw [Build.yields_addResource] at added
    obtain ⟨graph, added, rfl⟩ := added
    exact ⟨granted, mounted, graph, settings, files, added, rfl⟩

theorem addVersion_ok (blueprint : Blueprint) (name : String) (function : FunctionConfig) (code : Code)
    (w left : Workspace) (version : String) (via : Option TargetAlias)
    (added : Yields (blueprint.addVersion name function code) w (version, via) left) :
    ∃ digest published exposed graph,
      blueprint.versionDigest name code w.graph = .ok digest ∧ version = Version.id name digest ∧
      w.graph.add version (Version.resource name digest function.description) = .ok published ∧
      published.addOutput (Naming.versionOutput name) (Intrinsic.ref version) "Current Lambda function version" =
        .ok exposed ∧
      left = { w with graph := graph } ∧
      (via = none ∧ versionAlias? name function = none ∧ graph = exposed ∨
        ∃ own extra, via = some own ∧ versionAlias? name function = some (own, extra) ∧
          exposed.add own.id (own.resource name version extra) = .ok graph) := by
  simp only [addVersion, Build.yields_get, Build.yields_ofResult_bind] at added
  obtain ⟨digest, digested, added⟩ := added
  obtain ⟨published, first, added⟩ := (Build.yields_addResource_bind _ _ _ _ _ _).mp added
  obtain ⟨exposed, second, added⟩ := (Build.yields_addOutput_bind _ _ _ _ _ _ _).mp added
  split at added
  case h_1 none =>
    obtain ⟨same, rfl⟩ := (Build.yields_pure _ _ _ _).mp added
    cases same
    exact ⟨digest, published, exposed, exposed, digested, rfl, first, second, rfl, Or.inl ⟨rfl, none, rfl⟩⟩
  case h_2 own extra some =>
    obtain ⟨graph, third, added⟩ := (Build.yields_addResource_bind _ _ _ _ _ _).mp added
    obtain ⟨same, rfl⟩ := (Build.yields_pure _ _ _ _).mp added
    cases same
    exact ⟨digest, published, exposed, graph, digested, rfl, first, second, rfl,
      Or.inr ⟨own, extra, rfl, some, third⟩⟩

theorem publish_ok (blueprint : Blueprint) (name : String) (function : FunctionConfig) (code : Code)
    (w left : Workspace) (version : Option String) (via : Option TargetAlias)
    (published : Yields (blueprint.publish name function code) w (version, via) left) :
    (Compute.isVersioned function blueprint.provider = false ∧ version = none ∧ via = none ∧ left = w) ∨
      ∃ id, Compute.isVersioned function blueprint.provider = true ∧ version = some id ∧
        Yields (blueprint.addVersion name function code) w (id, via) left := by
  unfold publish at published
  split at published
  case isTrue versioned =>
    rw [Build.yields_bind] at published
    obtain ⟨⟨id, own⟩, between, added, returned⟩ := published
    obtain ⟨same, rfl⟩ := (Build.yields_pure _ _ _ _).mp returned
    cases same
    exact Or.inr ⟨id, versioned, rfl, added⟩
  case isFalse plain =>
    obtain ⟨same, rfl⟩ := (Build.yields_pure _ _ _ _).mp published
    cases same
    exact Or.inl ⟨by simpa using plain, rfl, rfl, rfl⟩

theorem addUrl_ok (name : String) (function : FunctionConfig) (via : Option TargetAlias) (w left : Workspace)
    (id : Option String) (added : Yields (addUrl name function via) w id left) :
    (id = none ∧ function.url >>= Url.ofSetting? = none ∧ left = w) ∨
      ∃ url opened exposed graph, id = some (Naming.url name) ∧ function.url >>= Url.ofSetting? = some url ∧
        w.graph.add (Naming.url name) (Url.resource name url via) = .ok opened ∧
        opened.addOutput (Naming.urlOutput name) (Intrinsic.getAtt (Naming.url name) "FunctionUrl")
          "Lambda Function URL" = .ok exposed ∧
        left = { w with graph := graph } ∧
        (Url.isPublic url = false ∧ graph = exposed ∨
          Url.isPublic url = true ∧
            exposed.add (Naming.urlPermission name) (Url.permission name via) = .ok graph) := by
  unfold addUrl at added
  split at added
  case h_1 none =>
    obtain ⟨rfl, rfl⟩ := (Build.yields_pure _ _ _ _).mp added
    exact Or.inl ⟨rfl, none, rfl⟩
  case h_2 url some =>
    obtain ⟨opened, first, added⟩ := (Build.yields_addResource_bind _ _ _ _ _ _).mp added
    obtain ⟨exposed, second, added⟩ := (Build.yields_addOutput_bind _ _ _ _ _ _ _).mp added
    split at added
    case isTrue free =>
      obtain ⟨graph, third, added⟩ := (Build.yields_addResource_bind _ _ _ _ _ _).mp added
      obtain ⟨rfl, rfl⟩ := (Build.yields_pure _ _ _ _).mp added
      exact Or.inr ⟨url, opened, exposed, graph, rfl, some, first, second, rfl, Or.inr ⟨free, third⟩⟩
    case isFalse guarded =>
      obtain ⟨rfl, rfl⟩ := (Build.yields_pure _ _ _ _).mp added
      exact Or.inr ⟨url, opened, exposed, exposed, rfl, some, first, second, rfl,
        Or.inl ⟨by simpa using guarded, rfl⟩⟩

/-- How a blueprint reads a destination target of one of its functions. -/
def destination (blueprint : Blueprint) (owner : String) (target : Value) : Result Destination :=
  Destination.classify target owner (Destination.resolver blueprint.functions
    (fun target function => blueprint.service.deployedName target (some function) (some blueprint.provider.stage))
    owner)

theorem addDestinations_ok (blueprint : Blueprint) (name : String) (role : Role) (outcome : String)
    (target : Value) (rest : List (String × Value)) (w left : Workspace) (entries : Fields)
    (added : Yields (blueprint.addDestinations name role ((outcome, target) :: rest)) w entries left) :
    ∃ destination others granted, blueprint.destination name target = .ok destination ∧
      (role.isDefault = false ∧ granted = w ∨
        role.isDefault = true ∧ ∃ fresh, Yields (Build.grantDestination name destination) w fresh granted) ∧
      Yields (blueprint.addDestinations name role rest) granted others left ∧
      entries = (outcome, .obj [("Destination", destination.reference)]) :: others := by
  simp only [addDestinations, Build.yields_ofResult_bind] at added
  obtain ⟨destination, classified, added⟩ := added
  refine ⟨destination, ?_⟩
  split at added
  case isTrue default =>
    simp only [Build.yields_bind] at added
    obtain ⟨fresh, granted, grant, others, _, more, returned⟩ := added
    obtain ⟨rfl, rfl⟩ := (Build.yields_pure _ _ _ _).mp returned
    exact ⟨others, granted, classified, Or.inr ⟨default, fresh, grant⟩, more, rfl⟩
  case isFalse other =>
    simp only [Build.yields_bind] at added
    obtain ⟨others, _, more, returned⟩ := added
    obtain ⟨rfl, rfl⟩ := (Build.yields_pure _ _ _ _).mp returned
    exact ⟨others, w, classified, Or.inl ⟨by simpa using other, rfl⟩, more, rfl⟩

theorem addEventConfig_ok (blueprint : Blueprint) (name : String) (function : FunctionConfig) (role : Role)
    (via : Option TargetAlias) (w left : Workspace) (id : Option String)
    (added : Yields (blueprint.addEventConfig name function role via) w id left) :
    (id = none ∧ EventConfig.isNeeded function = false ∧ left = w) ∨
      ∃ entries granted graph, id = some (Naming.eventConfig name) ∧ EventConfig.isNeeded function = true ∧
        Yields (blueprint.addDestinations name role (EventConfig.targets function)) w entries granted ∧
        granted.graph.add (Naming.eventConfig name) (EventConfig.resource name function entries via) =
          .ok graph ∧
        left = { granted with graph := graph } := by
  unfold addEventConfig at added
  split at added
  case isTrue needed =>
    rw [Build.yields_bind] at added
    obtain ⟨entries, granted, sent, added⟩ := added
    obtain ⟨graph, placed, added⟩ := (Build.yields_addResource_bind _ _ _ _ _ _).mp added
    obtain ⟨rfl, rfl⟩ := (Build.yields_pure _ _ _ _).mp added
    exact Or.inr ⟨entries, granted, graph, rfl, needed, sent, placed, rfl⟩
  case isFalse idle =>
    obtain ⟨rfl, rfl⟩ := (Build.yields_pure _ _ _ _).mp added
    exact Or.inl ⟨rfl, by simpa using idle, rfl⟩

/-- Finding the code of a function touches nothing but the memory of the registries. The code is that of an image, or of an
archive. -/
theorem code_ok (blueprint : Blueprint) (name : String) (function : FunctionConfig) (w left : Workspace)
    (code : Code) (found : Yields (blueprint.code name function) w code left) :
    (∃ session, left = { w with registry := session }) ∧
      ((∃ image resolved, code = Compute.imageCode image resolved) ∨
        Compute.archiveCode blueprint.service blueprint.provider name function = .ok code) := by
  unfold Blueprint.code at found
  split at found
  case h_1 image _ =>
    split at found
    case isTrue =>
      simp only [Build.resolveImage, bind_assoc, Build.yields_get, Build.yields_modify_bind,
        Build.yields_ofResult_bind, Build.yields_pure] at found
      obtain ⟨resolved, _, rfl, rfl⟩ := found
      exact ⟨⟨_, rfl⟩, Or.inl ⟨image, resolved, rfl⟩⟩
    case isFalse =>
      obtain ⟨made, rfl⟩ := (Build.yields_ofResult _ _ _ _).mp found
      exact ⟨⟨_, rfl⟩, Or.inr made⟩
  case h_2 =>
    obtain ⟨made, rfl⟩ := (Build.yields_ofResult _ _ _ _).mp found
    exact ⟨⟨_, rfl⟩, Or.inr made⟩

theorem compileFunction_ok (blueprint : Blueprint) (name : String) (function : FunctionConfig)
    (w left : Workspace) (compiled : CompiledFunction)
    (compiles : Yields (blueprint.compileFunction name function) w compiled left) :
    ∃ role code session computed version via published url opened event,
      Compute.checkCode name function = .ok () ∧
      Role.ofFunction function blueprint.provider = .ok role ∧
      Yields (blueprint.code name function) w code { w with registry := session } ∧
      Yields (blueprint.addCompute name function code role) { w with registry := session } () computed ∧
      Yields (blueprint.publish name function code) computed (version, via) published ∧
      Yields (addUrl name function via) published url opened ∧
      Yields (blueprint.addEventConfig name function role via) opened event left ∧
      compiled = ⟨name, Naming.function name, version, via.map (·.id), url, event⟩ := by
  simp only [compileFunction, Build.yields_ofResult_bind] at compiles
  obtain ⟨⟨⟩, checked, role, resolved, compiles⟩ := compiles
  simp only [Build.yields_bind, Prod.exists] at compiles
  obtain ⟨code, coded, found, ⟨⟩, computed, compute, version, via, published, publish, url, opened, open', event,
    last, config, returned⟩ := compiles
  obtain ⟨⟨session, rfl⟩, -⟩ := code_ok blueprint name function w coded code found
  obtain ⟨rfl, rfl⟩ := (Build.yields_pure _ _ _ _).mp returned
  exact ⟨role, code, session, computed, version, via, published, url, opened, event, checked, resolved, found,
    compute, publish, open', config, rfl⟩

theorem compileEach_ok (blueprint : Blueprint) (name : String) (function : FunctionConfig)
    (rest : List (String × FunctionConfig)) (w left : Workspace)
    (compiles : Yields (blueprint.compileEach ((name, function) :: rest)) w () left) :
    ∃ compiled between, Yields (blueprint.compileFunction name function) w compiled between ∧
      Yields (blueprint.compileEach rest) { between with compiled := between.compiled ++ [compiled] } () left := by
  simp only [compileEach, Build.yields_bind (Build.forFunction name _), Build.yields_modify_bind,
    Build.yields_forFunction] at compiles
  exact compiles

end Blueprint

end FunctionStack
