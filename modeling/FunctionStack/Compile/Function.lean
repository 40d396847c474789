import FunctionStack.Compile.Compute
import FunctionStack.Compile.Url
import FunctionStack.Compile.Workspace
import FunctionStack.Version.Digest

/-!
Compilation of functions, one after another, into one graph. The first function that fails ends it.
-/

namespace FunctionStack

/-- What a compilation reads. Functions and provider may differ from the service's own; packaging is the
service's. -/
structure Blueprint where
  service : ServiceConfig
  functions : Table FunctionConfig
  provider : ProviderConfig
  files : Files
  registry : Registry
  enforce : Bool

namespace Blueprint

def ofService (service : ServiceConfig) (files : Files) (registry : Registry) (enforce : Bool) : Blueprint :=
  ⟨service, service.functions, service.provider, files, registry, enforce⟩

def generation (blueprint : Blueprint) : Generation := Generation.select blueprint.provider blueprint.enforce

def code (blueprint : Blueprint) (name : String) (function : FunctionConfig) : Build Code :=
  match function.imageConfig? with
  | some image =>
    if function.hasImage then do
      let resolved ← Build.resolveImage blueprint.registry blueprint.provider name image
      return Compute.imageCode image resolved
    else Build.ofResult (Compute.archiveCode blueprint.service blueprint.provider name function)
  | none => Build.ofResult (Compute.archiveCode blueprint.service blueprint.provider name function)

def grantSettings (role : Role) (statements : List Value) : Build Unit :=
  if role.isDefault then Build.grantAll statements else return ()

/-- Adds the compute resource, once all its settings are known to fit together. -/
def addCompute (blueprint : Blueprint) (name : String) (function : FunctionConfig) (code : Code)
    (role : Role) : Build Unit := do
  let provider := blueprint.provider
  grantSettings role (Compute.settingStatements function provider)
  Build.ofResult (Compute.checkFileSystem name function provider)
  grantSettings role (Compute.fileSystemStatements function)
  if Compute.isVersioned function provider then
    Build.ofResult (Compute.checkVersioning name function)
  Build.addResource (Naming.function name)
    (Compute.resource blueprint.service provider blueprint.enforce name function code role)

/-- The alias of a function's versions and the properties that are its own. -/
def versionAlias? (name : String) (function : FunctionConfig) : Option (TargetAlias × Fields) :=
  match Settings.nonZero function.provisionedConcurrency with
  | some count => some (.provisioned name, [
      ("ProvisionedConcurrencyConfig", .obj [("ProvisionedConcurrentExecutions", .int count)])])
  | none => if function.snapStart then some (.snapStart name, []) else none

/-- The digest of the properties that the graph holds for a function. -/
def versionDigest (blueprint : Blueprint) (name : String) (code : Code) (graph : Graph) :
    Result VersionDigest :=
  match (graph.find? (Naming.function name)).bind fun r => r.properties.fields? with
  | none => fault .noSuchMember
  | some properties =>
    Version.digest blueprint.files blueprint.generation blueprint.service.layerArtifact properties graph
      code.artifact code.imageDigest

/-- Publishes a version with its output, and the alias that points at it. -/
def addVersion (blueprint : Blueprint) (name : String) (function : FunctionConfig) (code : Code) :
    Build (String × Option TargetAlias) := do
  let digest ← Build.ofResult (blueprint.versionDigest name code (← get).graph)
  let id := Version.id name digest
  Build.addResource id (Version.resource name digest function.description)
  Build.addOutput (Naming.versionOutput name) (Intrinsic.ref id) "Current Lambda function version"
  match versionAlias? name function with
  | none => return (id, none)
  | some (via, extra) =>
    Build.addResource via.id (via.resource name id extra)
    return (id, some via)

def addUrl (name : String) (function : FunctionConfig) (via : Option TargetAlias) :
    Build (Option String) := do
  match function.url >>= Url.ofSetting? with
  | none => return none
  | some url =>
    let id := Naming.url name
    Build.addResource id (Url.resource name url via)
    Build.addOutput (Naming.urlOutput name) (Intrinsic.getAtt id "FunctionUrl") "Lambda Function URL"
    if Url.isPublic url then
      Build.addResource (Naming.urlPermission name) (Url.permission name via)
    return some id

/-- The entries of an event config; each target is granted as soon as it is classified. -/
def addDestinations (blueprint : Blueprint) (name : String) (role : Role) :
    List (String × Value) → Build Fields
  | [] => return []
  | (outcome, target) :: rest => do
    let deployed target function :=
      blueprint.service.deployedName target (some function) (some blueprint.provider.stage)
    let destination ← Build.ofResult
      (Destination.classify target name (Destination.resolver blueprint.functions deployed name))
    if role.isDefault then
      let _ ← Build.grantDestination name destination
    let others ← addDestinations blueprint name role rest
    return (outcome, .obj [("Destination", destination.reference)]) :: others

def addEventConfig (blueprint : Blueprint) (name : String) (function : FunctionConfig) (role : Role)
    (via : Option TargetAlias) : Build (Option String) := do
  if EventConfig.isNeeded function then
    let entries ← addDestinations blueprint name role (EventConfig.targets function)
    let id := Naming.eventConfig name
    Build.addResource id (EventConfig.resource name function entries via)
    return some id
  else return none

def publish (blueprint : Blueprint) (name : String) (function : FunctionConfig) (code : Code) :
    Build (Option String × Option TargetAlias) := do
  if Compute.isVersioned function blueprint.provider then
    let (id, via) ← blueprint.addVersion name function code
    return (some id, via)
  else return (none, none)

def compileFunction (blueprint : Blueprint) (name : String) (function : FunctionConfig) :
    Build CompiledFunction := do
  Build.ofResult (Compute.checkCode name function)
  let role ← Build.ofResult (Role.ofFunction function blueprint.provider)
  let code ← blueprint.code name function
  blueprint.addCompute name function code role
  let (version, via) ← blueprint.publish name function code
  let url ← addUrl name function via
  let eventConfig ← blueprint.addEventConfig name function role via
  return ⟨name, Naming.function name, version, via.map (·.id), url, eventConfig⟩

def compileEach (blueprint : Blueprint) : List (String × FunctionConfig) → Build Unit
  | [] => return ()
  | (name, function) :: rest => do
    let compiled ← Build.forFunction name (blueprint.compileFunction name function)
    modify fun w => { w with compiled := w.compiled ++ [compiled] }
    compileEach blueprint rest

/-- The artifacts that are hashed ahead of the first function. -/
def hashedArtifacts (blueprint : Blueprint) : List String :=
  (blueprint.functions.filter fun (_, function) =>
    function.hasHandler && !function.hasImage && Compute.isVersioned function blueprint.provider).map
    fun (name, function) => blueprint.service.functionArtifact name function

/-- Unreadable artifacts wait for their function; a path that no file can have fails at once. -/
def checkArtifacts (blueprint : Blueprint) : Result Unit :=
  if blueprint.hashedArtifacts.any Files.holdsNul then fault .badValue else .ok ()

def bindPolicy : Build Unit := do
  let (graph, policy) ← Build.ofResult (ExecutionPolicy.ofGraph (← get).graph)
  modify fun w => { w with graph := graph, policy := policy }

def compileAll (blueprint : Blueprint) : Build Unit := do
  bindPolicy
  Build.ofResult blueprint.checkArtifacts
  blueprint.compileEach blueprint.functions
  Build.ofResult (← get).graph.validate

/-- Compiles the functions into a graph. The outcome comes with all that was done until then. -/
def compile (blueprint : Blueprint) (graph : Graph) (session : RegistrySession) :
    Result Unit × Workspace :=
  blueprint.compileAll.run.run ⟨graph, none, [], [], session⟩

/-- Compiles a whole service, from its core resources to the resources kept from an earlier template. -/
def compileService (blueprint : Blueprint) (previous : Option Graph) :
    Result (Graph × List CompiledFunction) × RegistrySession :=
  match Core.graph blueprint.service with
  | .error failure => (.error failure, ⟨[], []⟩)
  | .ok graph => match blueprint.compile graph ⟨[], []⟩ with
    | (.error failure, w) => (.error failure, w.registry)
    | (.ok _, w) =>
      let delivered := previous.elim w.graph fun earlier => w.graph.carryRetained earlier
      (.ok (delivered, w.compiled), w.registry)

end Blueprint

end FunctionStack
