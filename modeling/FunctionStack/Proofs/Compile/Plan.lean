import FunctionStack.Proofs.Compile.Move

/-!
The compilation of one function as a plan and the moves that carry it out. What a plan takes from the workspace is the
memory of the registries and, once the function is placed, what its version is made of; a function compiles exactly if
a plan can be made and its moves can be performed.
-/

namespace FunctionStack

open Build (Yields performAll yields_performAll_nil yields_performAll_cons yields_performAll_append
  yields_performAll_single yields_then yields_ofResult yields_ofResult_bind yields_pure)

/-- What has been found out about a function. -/
structure Plan where
  name : String
  function : FunctionConfig
  role : Role
  code : Code
  digest : Option VersionDigest
  destinations : List (String × Destination)

namespace Move

/-- Only functions under the default role ask for anything. -/
def settings (role : Role) (statements : List Value) : List Move :=
  if role.isDefault then statements.map allow else []

def version (name : String) (function : FunctionConfig) (digest : VersionDigest) : List Move :=
  let id := Version.id name digest
  [place id (Version.resource name digest function.description),
    expose (Naming.versionOutput name) (Intrinsic.ref id) "Current Lambda function version"] ++
  match Blueprint.versionAlias? name function with
  | none => []
  | some (via, extra) => [place via.id (via.resource name id extra)]

def url (name : String) (function : FunctionConfig) (via : Option TargetAlias) : List Move :=
  match function.url >>= Url.ofSetting? with
  | none => []
  | some url =>
    [place (Naming.url name) (Url.resource name url via),
      expose (Naming.urlOutput name) (Intrinsic.getAtt (Naming.url name) "FunctionUrl") "Lambda Function URL"] ++
    if Url.isPublic url then [place (Naming.urlPermission name) (Url.permission name via)] else []

def sends (name : String) (role : Role) (destinations : List (String × Destination)) : List Move :=
  if role.isDefault then destinations.map fun (_, destination) => send name destination else []

end Move

namespace Plan

/-- The entries of an event config. -/
def entries (destinations : List (String × Destination)) : Fields :=
  destinations.map fun (outcome, destination) => (outcome, .obj [("Destination", destination.reference)])

def compute (plan : Plan) (blueprint : Blueprint) : Resource :=
  Compute.resource blueprint.service blueprint.provider blueprint.enforce plan.name plan.function plan.code plan.role

def via (plan : Plan) : Option TargetAlias :=
  plan.digest.bind fun _ => (Blueprint.versionAlias? plan.name plan.function).map Prod.fst

def eventConfig (plan : Plan) : List Move :=
  if EventConfig.isNeeded plan.function then
    Move.sends plan.name plan.role plan.destinations ++
      [.place (Naming.eventConfig plan.name)
        (EventConfig.resource plan.name plan.function (entries plan.destinations) plan.via)]
  else []

/-- The moves up to the function itself. -/
def opening (plan : Plan) (blueprint : Blueprint) : List Move :=
  Move.settings plan.role (Compute.settingStatements plan.function blueprint.provider) ++
    Move.settings plan.role (Compute.fileSystemStatements plan.function) ++
    [.place (Naming.function plan.name) (plan.compute blueprint)]

/-- The moves once the function is placed. -/
def finishing (plan : Plan) : List Move :=
  plan.digest.elim [] (Move.version plan.name plan.function) ++ Move.url plan.name plan.function plan.via ++
    plan.eventConfig

def moves (plan : Plan) (blueprint : Blueprint) : List Move := plan.opening blueprint ++ plan.finishing

def record (plan : Plan) : CompiledFunction where
  name := plan.name
  id := Naming.function plan.name
  version := plan.digest.map (Version.id plan.name)
  targetAlias := plan.via.map (·.id)
  url := (plan.function.url >>= Url.ofSetting?).map fun _ => Naming.url plan.name
  eventConfig := if EventConfig.isNeeded plan.function then some (Naming.eventConfig plan.name) else none

end Plan

theorem FunctionConfig.hasImage_config (function : FunctionConfig) (imaged : function.hasImage = true) :
    ∃ image, function.imageConfig? = some image := by
  cases setting : function.image with
  | none => simp [hasImage, setting] at imaged
  | some image => exact ⟨image.toConfig, by simp [imageConfig?, setting]⟩

namespace Blueprint

/-- The code of a function, with what registries have been asked for then. -/
def codeFrom (blueprint : Blueprint) (name : String) (function : FunctionConfig) (session : RegistrySession) :
    Result Code × RegistrySession :=
  let archive := Compute.archiveCode blueprint.service blueprint.provider name function
  match function.imageConfig? with
  | some image =>
    if function.hasImage then
      let (resolved, next) := Image.resolve blueprint.registry blueprint.provider name image session
      (resolved.map (Compute.imageCode image), next)
    else (archive, session)
  | none => (archive, session)

/-- The code of a function with an image is the image as it is resolved. -/
theorem codeFrom_image (blueprint : Blueprint) (name : String) (function : FunctionConfig) (session : RegistrySession)
    (code : Code) (imaged : function.hasImage = true) (made : (blueprint.codeFrom name function session).1 = .ok code) :
    ∃ image resolved next, function.imageConfig? = some image ∧
      Image.resolve blueprint.registry blueprint.provider name image session = (.ok resolved, next) ∧
      code = Compute.imageCode image resolved := by
  obtain ⟨image, configured⟩ := function.hasImage_config imaged
  unfold codeFrom at made
  simp only [configured, imaged, if_true] at made
  generalize resolution : Image.resolve blueprint.registry blueprint.provider name image session = outcome at made
  obtain ⟨resolved, next⟩ := outcome
  cases resolved with
  | error failure => cases made
  | ok resolved =>
      cases made
      exact ⟨image, resolved, next, configured, resolution, rfl⟩

/-- The code of a function without an image is an archive. -/
theorem codeFrom_archive (blueprint : Blueprint) (name : String) (function : FunctionConfig) (session : RegistrySession)
    (code : Code) (plain : function.hasImage = false) (made : (blueprint.codeFrom name function session).1 = .ok code) :
    Compute.archiveCode blueprint.service blueprint.provider name function = .ok code := by
  unfold codeFrom at made
  split at made
  · rwa [if_neg (by simp [plain])] at made
  · exact made

/-- A plan that can be made when registries have been asked this and the graph holds that. -/
structure Makes (blueprint : Blueprint) (session : RegistrySession) (graph : Graph) (plan : Plan) : Prop where
  checked : Compute.checkCode plan.name plan.function = .ok ()
  role : Role.ofFunction plan.function blueprint.provider = .ok plan.role
  code : (blueprint.codeFrom plan.name plan.function session).1 = .ok plan.code
  mounted : Compute.checkFileSystem plan.name plan.function blueprint.provider = .ok ()
  published : Compute.isVersioned plan.function blueprint.provider = true →
    Compute.checkVersioning plan.name plan.function = .ok () ∧
      ∃ digest, plan.digest = some digest ∧ blueprint.versionDigest plan.name plan.code graph = .ok digest
  plain : Compute.isVersioned plan.function blueprint.provider = false → plan.digest = none
  targets : List.Forall₂ (fun target entry => target.1 = entry.1 ∧
    blueprint.destination plan.name target.2 = .ok entry.2) (EventConfig.targets plan.function) plan.destinations

theorem code_iff (blueprint : Blueprint) (name : String) (function : FunctionConfig) (w left : Workspace) (code : Code) :
    Yields (blueprint.code name function) w code left ↔
      (blueprint.codeFrom name function w.registry).1 = .ok code ∧
        left = { w with registry := (blueprint.codeFrom name function w.registry).2 } := by
  unfold Blueprint.code codeFrom
  cases function.imageConfig? with
  | none => rw [yields_ofResult]
  | some image =>
      dsimp only
      split
      case isFalse => rw [yields_ofResult]
      case isTrue =>
        simp only [Build.resolveImage, bind_assoc, Build.yields_get, Build.yields_modify_bind, yields_ofResult_bind,
          yields_pure]
        rcases Image.resolve blueprint.registry blueprint.provider name image w.registry with ⟨failure | resolved, next⟩
        · simp [Except.map]
        · simp [Except.map, eq_comm]

theorem grantAll_iff (statements : List Value) (w left : Workspace) :
    Yields (Build.grantAll statements) w () left ↔ Yields (performAll (statements.map .allow)) w () left := by
  induction statements generalizing w with
  | nil => rfl
  | cons statement rest ih =>
      rw [List.map_cons, yields_performAll_cons, Build.grantAll, Build.yields_bind]
      constructor
      · rintro ⟨added, between, first, others⟩
        exact ⟨between, (Build.yields_discard _ _ _).mpr ⟨added, first⟩, (ih between).mp others⟩
      · rintro ⟨between, first, others⟩
        obtain ⟨added, first⟩ := (Build.yields_discard _ _ _).mp first
        exact ⟨added, between, first, (ih between).mpr others⟩

theorem grantSettings_iff (role : Role) (statements : List Value) (w left : Workspace) :
    Yields (grantSettings role statements) w () left ↔ Yields (performAll (Move.settings role statements)) w () left := by
  unfold grantSettings Move.settings
  split
  · exact grantAll_iff statements w left
  · rfl

theorem addCompute_iff (blueprint : Blueprint) (name : String) (function : FunctionConfig) (code : Code) (role : Role)
    (w left : Workspace) :
    Yields (blueprint.addCompute name function code role) w () left ↔
      Compute.checkFileSystem name function blueprint.provider = .ok () ∧
        (Compute.isVersioned function blueprint.provider = true → Compute.checkVersioning name function = .ok ()) ∧
        Yields (performAll (Move.settings role (Compute.settingStatements function blueprint.provider) ++
          Move.settings role (Compute.fileSystemStatements function) ++
          [.place (Naming.function name) (Compute.resource blueprint.service blueprint.provider blueprint.enforce name
            function code role)])) w () left := by
  simp only [addCompute, yields_then, yields_ofResult_bind, grantSettings_iff, yields_performAll_append,
    yields_performAll_single, Move.perform]
  cases Compute.isVersioned function blueprint.provider with
  | false =>
      simp only [Bool.false_eq_true, if_false, false_imp_iff, true_and]
      constructor
      · rintro ⟨granted, settings, ⟨⟩, mounted, between, files, placed⟩
        exact ⟨mounted, between, ⟨granted, settings, files⟩, placed⟩
      · rintro ⟨mounted, between, ⟨granted, settings, files⟩, placed⟩
        exact ⟨granted, settings, (), mounted, between, files, placed⟩
  | true =>
      simp only [if_true, yields_ofResult_bind, true_imp_iff]
      constructor
      · rintro ⟨granted, settings, ⟨⟩, mounted, between, files, ⟨⟩, versioned, placed⟩
        exact ⟨mounted, versioned, between, ⟨granted, settings, files⟩, placed⟩
      · rintro ⟨mounted, versioned, between, ⟨granted, settings, files⟩, placed⟩
        exact ⟨granted, settings, (), mounted, between, files, (), versioned, placed⟩

theorem addVersion_iff (blueprint : Blueprint) (name : String) (function : FunctionConfig) (code : Code)
    (w left : Workspace) (version : String) (via : Option TargetAlias) :
    Yields (blueprint.addVersion name function code) w (version, via) left ↔
      ∃ digest, blueprint.versionDigest name code w.graph = .ok digest ∧ version = Version.id name digest ∧
        via = (versionAlias? name function).map Prod.fst ∧
        Yields (performAll (Move.version name function digest)) w () left := by
  simp only [addVersion, Build.yields_get, yields_ofResult_bind, yields_then, Move.version, yields_performAll_append,
    yields_performAll_cons, yields_performAll_nil, Move.perform]
  cases versionAlias? name function with
  | none =>
      simp only [yields_pure, Prod.mk.injEq, yields_performAll_nil, Option.map_none]
      constructor
      · rintro ⟨digest, digested, published, first, exposed, second, ⟨rfl, rfl⟩, rfl⟩
        exact ⟨digest, digested, rfl, rfl, exposed, ⟨published, first, exposed, second, rfl⟩, rfl⟩
      · rintro ⟨digest, digested, rfl, rfl, _, ⟨published, first, exposed, second, rfl⟩, rfl⟩
        exact ⟨digest, digested, published, first, exposed, second, ⟨rfl, rfl⟩, rfl⟩
  | some found =>
      obtain ⟨own, extra⟩ := found
      simp only [yields_then, yields_pure, Prod.mk.injEq, yields_performAll_single, Option.map_some, Move.perform]
      constructor
      · rintro ⟨digest, digested, published, first, exposed, second, aliased, third, ⟨rfl, rfl⟩, rfl⟩
        exact ⟨digest, digested, rfl, rfl, exposed, ⟨published, first, exposed, second, rfl⟩, third⟩
      · rintro ⟨digest, digested, rfl, rfl, _, ⟨published, first, exposed, second, rfl⟩, third⟩
        exact ⟨digest, digested, published, first, exposed, second, left, third, ⟨rfl, rfl⟩, rfl⟩

theorem publish_iff (blueprint : Blueprint) (name : String) (function : FunctionConfig) (code : Code)
    (w left : Workspace) (version : Option String) (via : Option TargetAlias) :
    Yields (blueprint.publish name function code) w (version, via) left ↔
      ∃ digest : Option VersionDigest,
        (Compute.isVersioned function blueprint.provider = true →
          ∃ made, digest = some made ∧ blueprint.versionDigest name code w.graph = .ok made) ∧
        (Compute.isVersioned function blueprint.provider = false → digest = none) ∧
        version = digest.map (Version.id name) ∧
        via = (digest.bind fun _ => (versionAlias? name function).map Prod.fst) ∧
        Yields (performAll (digest.elim [] (Move.version name function))) w () left := by
  unfold publish
  cases Compute.isVersioned function blueprint.provider with
  | false =>
      simp only [Bool.false_eq_true, if_false, yields_pure, Prod.mk.injEq, false_imp_iff, true_and, true_imp_iff,
        exists_eq_left, Option.map_none, Option.bind_none, Option.elim_none, yields_performAll_nil]
      constructor
      · rintro ⟨⟨rfl, rfl⟩, rfl⟩
        exact ⟨rfl, rfl, rfl⟩
      · rintro ⟨rfl, rfl, rfl⟩
        exact ⟨⟨rfl, rfl⟩, rfl⟩
  | true =>
      simp only [if_true, Build.yields_bind (blueprint.addVersion name function code), Prod.exists, addVersion_iff,
        yields_pure, Prod.mk.injEq, true_imp_iff, Bool.true_eq_false, false_imp_iff, true_and]
      constructor
      · rintro ⟨_, _, between, ⟨digest, digested, rfl, rfl, performed⟩, ⟨rfl, rfl⟩, rfl⟩
        exact ⟨some digest, ⟨digest, rfl, digested⟩, rfl, rfl, performed⟩
      · rintro ⟨_, ⟨digest, rfl, digested⟩, rfl, rfl, performed⟩
        exact ⟨_, _, left, ⟨digest, digested, rfl, rfl, performed⟩, ⟨rfl, rfl⟩, rfl⟩

theorem addUrl_iff (name : String) (function : FunctionConfig) (via : Option TargetAlias) (w left : Workspace)
    (id : Option String) :
    Yields (addUrl name function via) w id left ↔
      id = (function.url >>= Url.ofSetting?).map (fun _ => Naming.url name) ∧
        Yields (performAll (Move.url name function via)) w () left := by
  unfold addUrl Move.url
  cases function.url >>= Url.ofSetting? with
  | none => simp [yields_performAll_nil, eq_comm]
  | some url =>
      simp only [yields_then, yields_performAll_append, yields_performAll_cons, yields_performAll_nil, Move.perform,
        Option.map_some]
      cases Url.isPublic url with
      | false =>
          simp only [Bool.false_eq_true, if_false, yields_pure, yields_performAll_nil]
          constructor
          · rintro ⟨opened, first, exposed, second, rfl, rfl⟩
            exact ⟨rfl, exposed, ⟨opened, first, exposed, second, rfl⟩, rfl⟩
          · rintro ⟨rfl, _, ⟨opened, first, exposed, second, rfl⟩, rfl⟩
            exact ⟨opened, first, exposed, second, rfl, rfl⟩
      | true =>
          simp only [if_true, yields_then, yields_pure, yields_performAll_single, Move.perform]
          constructor
          · rintro ⟨opened, first, exposed, second, _, third, rfl, rfl⟩
            exact ⟨rfl, exposed, ⟨opened, first, exposed, second, rfl⟩, third⟩
          · rintro ⟨rfl, _, ⟨opened, first, exposed, second, rfl⟩, third⟩
            exact ⟨opened, first, exposed, second, left, third, rfl, rfl⟩

theorem addDestinations_iff (blueprint : Blueprint) (name : String) (role : Role) (targets : List (String × Value))
    (w left : Workspace) (entries : Fields) :
    Yields (blueprint.addDestinations name role targets) w entries left ↔
      ∃ destinations, List.Forall₂ (fun target entry => target.1 = entry.1 ∧
          blueprint.destination name target.2 = .ok entry.2) targets destinations ∧
        entries = Plan.entries destinations ∧
        Yields (performAll (Move.sends name role destinations)) w () left := by
  induction targets generalizing w left entries with
  | nil =>
      simp only [addDestinations, yields_pure, List.forall₂_nil_left_iff, exists_eq_left]
      unfold Move.sends
      split <;> simp [Plan.entries, yields_performAll_nil, eq_comm]
  | cons target rest ih =>
      obtain ⟨outcome, target⟩ := target
      simp only [addDestinations, yields_ofResult_bind, List.forall₂_cons_left_iff]
      unfold Move.sends at *
      cases default : role.isDefault with
      | false =>
          simp only [default, Bool.false_eq_true, if_false] at ih ⊢
          simp only [Build.yields_bind (blueprint.addDestinations name role rest), ih, yields_pure]
          constructor
          · rintro ⟨destination, read, _, between, ⟨others, each, rfl, performed⟩, rfl, rfl⟩
            exact ⟨(outcome, destination) :: others, ⟨(outcome, destination), others, ⟨rfl, read⟩, each, rfl⟩, rfl, performed⟩
          · rintro ⟨_, ⟨⟨_, destination⟩, others, ⟨rfl, read⟩, each, rfl⟩, rfl, performed⟩
            exact ⟨destination, read, _, left, ⟨others, each, rfl, performed⟩, rfl, rfl⟩
      | true =>
          simp only [default, if_true] at ih ⊢
          simp only [Build.yields_bind (Build.grantDestination _ _),
            Build.yields_bind (blueprint.addDestinations name role rest), ih, yields_pure]
          constructor
          · rintro ⟨destination, read, added, between, grant, _, _, ⟨others, each, rfl, performed⟩, rfl, rfl⟩
            refine ⟨(outcome, destination) :: others, ⟨(outcome, destination), others, ⟨rfl, read⟩, each, rfl⟩, rfl, ?_⟩
            exact (yields_performAll_cons _ _ _ _).mpr
              ⟨between, (Build.yields_discard _ _ _).mpr ⟨added, grant⟩, performed⟩
          · rintro ⟨_, ⟨⟨_, destination⟩, others, ⟨rfl, read⟩, each, rfl⟩, rfl, performed⟩
            obtain ⟨between, sent, performed⟩ := (yields_performAll_cons _ _ _ _).mp performed
            obtain ⟨added, grant⟩ := (Build.yields_discard _ _ _).mp sent
            exact ⟨destination, read, added, between, grant, _, left, ⟨others, each, rfl, performed⟩, rfl, rfl⟩

theorem addEventConfig_iff (blueprint : Blueprint) (name : String) (function : FunctionConfig) (role : Role)
    (via : Option TargetAlias) (w left : Workspace) (id : Option String) :
    Yields (blueprint.addEventConfig name function role via) w id left ↔
      ∃ destinations, List.Forall₂ (fun target entry => target.1 = entry.1 ∧
          blueprint.destination name target.2 = .ok entry.2) (EventConfig.targets function) destinations ∧
        id = (if EventConfig.isNeeded function then some (Naming.eventConfig name) else none) ∧
        Yields (performAll (if EventConfig.isNeeded function then Move.sends name role destinations ++
          [.place (Naming.eventConfig name) (EventConfig.resource name function (Plan.entries destinations) via)]
          else [])) w () left := by
  unfold addEventConfig
  cases needed : EventConfig.isNeeded function with
  | false =>
      have none : EventConfig.targets function = [] := by
        simp only [EventConfig.isNeeded, Bool.or_eq_false_iff, Option.isSome_eq_false_iff, Option.isNone_iff_eq_none]
          at needed
        rw [EventConfig.targets, needed.1.1]
      simp only [Bool.false_eq_true, if_false, yields_pure, none, List.forall₂_nil_left_iff, exists_eq_left,
        yields_performAll_nil]
      rw [eq_comm]
  | true =>
      simp only [if_true, Build.yields_bind (blueprint.addDestinations name role _), yields_then, yields_pure,
        addDestinations_iff, yields_performAll_append, yields_performAll_single, Move.perform]
      constructor
      · rintro ⟨_, granted, ⟨destinations, each, rfl, sent⟩, _, placed, rfl, rfl⟩
        exact ⟨destinations, each, rfl, granted, sent, placed⟩
      · rintro ⟨destinations, each, rfl, granted, sent, placed⟩
        exact ⟨_, granted, ⟨destinations, each, rfl, sent⟩, left, placed, rfl, rfl⟩

/-- A function compiles exactly if a plan for it can be made and carried out. -/
theorem compileFunction_iff (blueprint : Blueprint) (name : String) (function : FunctionConfig) (w left : Workspace)
    (compiled : CompiledFunction) :
    Yields (blueprint.compileFunction name function) w compiled left ↔
      ∃ plan : Plan, ∃ middle, plan.name = name ∧ plan.function = function ∧
        blueprint.Makes w.registry middle.graph plan ∧
        Yields (performAll (plan.opening blueprint))
          { w with registry := (blueprint.codeFrom name function w.registry).2 } () middle ∧
        Yields (performAll plan.finishing) middle () left ∧ compiled = plan.record := by
  simp only [compileFunction, yields_ofResult_bind, Build.yields_bind (blueprint.code name function), yields_then,
    Build.yields_bind (blueprint.publish name function _), Build.yields_bind (addUrl name function _),
    Build.yields_bind (blueprint.addEventConfig name function _ _), Prod.exists, code_iff, addCompute_iff, publish_iff,
    addUrl_iff, addEventConfig_iff, yields_pure]
  constructor
  · rintro ⟨⟨⟩, checked, role, resolved, code, _, ⟨found, rfl⟩, middle, ⟨mounted, versioning, placed⟩, _, _, published,
      ⟨digest, versioned, plain, rfl, rfl, version⟩, _, opened, ⟨rfl, url⟩, _, _, ⟨destinations, each, rfl, event⟩, rfl, rfl⟩
    refine ⟨⟨name, function, role, code, digest, destinations⟩, middle, rfl, rfl,
      ⟨checked, resolved, found, mounted, fun needed => ⟨versioning needed, versioned needed⟩, plain, each⟩, placed, ?_, rfl⟩
    exact (yields_performAll_append _ _ _ _).mpr
      ⟨opened, (yields_performAll_append _ _ _ _).mpr ⟨published, version, url⟩, event⟩
  · rintro ⟨plan, middle, rfl, rfl, makes, placed, performed, rfl⟩
    obtain ⟨opened, performed, event⟩ := (yields_performAll_append _ _ _ _).mp performed
    obtain ⟨published, version, url⟩ := (yields_performAll_append _ _ _ _).mp performed
    exact ⟨(), makes.checked, plan.role, makes.role, plan.code, _, ⟨makes.code, rfl⟩, middle,
      ⟨makes.mounted, fun needed => (makes.published needed).1, placed⟩, _, _, published,
      ⟨plan.digest, fun needed => (makes.published needed).2, makes.plain, rfl, rfl, version⟩, _, opened, ⟨rfl, url⟩, _, left,
      ⟨plan.destinations, makes.targets, rfl, event⟩, rfl, rfl⟩

end Blueprint

end FunctionStack
