import FunctionStack.Proofs.Compile.Counterpart
import FunctionStack.Proofs.Value.Same

/-!
What the order to hash anew does to a service. Each function with a version gets another description and another version, what
refers to the version refers to the other one, and everything else stays as it is. The generation that a service is pinned to
makes no difference then.
-/

namespace FunctionStack

open Value

namespace Resource

/-- Resources that differ in one property at most. -/
def EqualBut (key : String) (own other : Resource) : Prop :=
  ∃ fields others, own.properties = .obj fields ∧ other = { own with properties := .obj others } ∧
    Table.erase others key = Table.erase fields key

theorem EqualBut.refl (key : String) {resource : Resource} {fields : Fields} (table : resource.properties = .obj fields) :
    resource.EqualBut key resource := by
  refine ⟨fields, fields, table, ?_, rfl⟩
  rw [← table]

end Resource

namespace Compute

/-- A function that is to be hashed anew differs in its description at most. -/
theorem versionSettings_erased (enforce other : Bool) (function : FunctionConfig) (provider : ProviderConfig)
    (properties : Fields) :
    Table.erase (versionSettings other function provider properties) "Description" =
      Table.erase (versionSettings enforce function provider properties) "Description" := by
  have described (enforce : Bool) : Table.erase
      (if enforce then Table.insert properties "Description" (.str enforcedDescription) else properties) "Description" =
        Table.erase properties "Description" := by
    split
    · exact Table.erase_insert_self properties "Description" _
    · rfl
  unfold versionSettings
  dsimp only
  split
  · split
    · rw [Table.erase_append, Table.erase_append, described, described]
    · rw [described, described]
  · rfl

theorem resource_equalBut (service : ServiceConfig) (provider : ProviderConfig) (enforce other : Bool) (name : String)
    (function : FunctionConfig) (code : Code) (role : Role) :
    (resource service provider enforce name function code role).EqualBut "Description"
      (resource service provider other name function code role) := by
  refine ⟨_, _, resource_properties _ _ _ _ _ _ _, ?_, versionSettings_erased enforce other function provider _⟩
  unfold resource withDependencies
  dsimp only
  split
  · rfl
  · rfl

end Compute

namespace Version

variable {name : String} {digest : VersionDigest} {description : Option String} {held own theirs : Resource}

/-- What stands in the place of a version is a version that is kept, and nothing more than that. -/
theorem resource_fits (fits : held.Fits (resource name digest description)) (proper : held.properties.isProper = true) :
    held = { resource name digest description with properties := held.properties, source := held.source } ∧
      held.properties.same (resource name digest description).properties = true := by
  have depends : held.dependsOn = [] := fits.dependsOn fun id member => by cases member
  rcases fits with rfl | equal
  · exact ⟨rfl, same_refl _ proper⟩
  · simp only [Resource.same, Bool.and_eq_true] at equal
    obtain ⟨⟨⟨⟨type, properties⟩, -⟩, condition⟩, policy⟩ := equal
    refine ⟨?_, properties⟩
    obtain ⟨_, _, _, unset, _, _⟩ := held
    cases depends
    cases str_same type
    cases str_same policy
    cases unset with
    | null => rfl
    | _ => cases condition

/-- What stands in the places of two versions of the same code is equal. -/
theorem resource_alike (one : own.Fits (resource name digest description))
    (two : theirs.Fits (resource name digest description)) (proper : own.properties.isProper = true)
    (regular : theirs.properties.isProper = true)
    (whole : (resource name digest description).properties.isProper = true) : own.same theirs = true := by
  obtain ⟨first, alike⟩ := resource_fits one proper
  obtain ⟨second, similar⟩ := resource_fits two regular
  have properties := same_trans alike (same_symm regular whole similar)
  rw [first, second]
  simp only [Resource.same, properties]
  rfl

end Version

/-- An alias of another version differs in the version it refers to. -/
theorem TargetAlias.resource_equalBut (via : TargetAlias) (name version other : String) (extra : Fields) :
    (via.resource name version extra).EqualBut "FunctionVersion" (via.resource name other extra) := by
  refine ⟨_, _, rfl, rfl, ?_⟩
  rw [Table.erase_append, Table.erase_append]
  rfl

/-- What a function with a version is compiled into, in two graphs that have it under two versions. -/
structure Graph.Republishes (graph enforced : Graph) (record : CompiledFunction) (version reissued : String) : Prop where
  compute : ∃ held other, graph.find? record.id = some held ∧ enforced.find? record.id = some other ∧
    held.EqualBut "Description" other ∧
    other.properties.field? "Description" = some (.str Compute.enforcedDescription)
  content : ∃ held other, graph.find? version = some held ∧ enforced.find? reissued = some other ∧ held.same other = true
  targetAlias : ∀ id, record.targetAlias = some id → ∃ held other,
    graph.find? id = some held ∧ enforced.find? id = some other ∧ held.EqualBut "FunctionVersion" other ∧
    held.properties.field? "FunctionVersion" = some (Intrinsic.getAtt version "Version") ∧
    other.properties.field? "FunctionVersion" = some (Intrinsic.getAtt reissued "Version")
  output : ∃ description,
    graph.outputs.field? (Naming.versionOutput record.name) =
      some (.obj [("Description", .str description), ("Value", Intrinsic.ref version)]) ∧
    enforced.outputs.field? (Naming.versionOutput record.name) =
      some (.obj [("Description", .str description), ("Value", Intrinsic.ref reissued)])

/-- A function in two graphs that differ in its version at most. -/
structure Graph.Follows (graph enforced : Graph) (function : FunctionConfig) (record other : CompiledFunction) : Prop where
  recorded : other = { record with version := other.version }
  versioned : other.version.isSome = record.version.isSome
  published : ∀ version reissued, record.version = some version → other.version = some reissued →
    graph.Republishes enforced record version reissued
  kept : ∀ id ∈ record.ids function, id ∉ record.published →
    ∃ held, graph.find? id = some held ∧ enforced.find? id = some held

/-- Whatever a graph has, another one has as well, unless it is published for one of these functions. -/
def Graph.KeptBy (graph other : Graph) (records : List CompiledFunction) : Prop :=
  ∀ id held, graph.find? id = some held → (∀ record ∈ records, id ∉ record.published) → other.find? id = some held

/-- Graphs that differ at most in what is published for functions. -/
structure Graph.AgreesBeyond (graph enforced : Graph) (records reissued : List CompiledFunction) : Prop where
  role : enforced.find? defaultExecutionRole = graph.find? defaultExecutionRole
  resources : ∀ id, (∀ record ∈ records ++ reissued, id ∉ record.published) → enforced.find? id = graph.find? id
  outputs : ∀ key, (∀ record ∈ records, record.version.isSome = true → key ≠ Naming.versionOutput record.name) →
    enforced.outputs.field? key = graph.outputs.field? key

namespace Graph

variable {graph enforced : Graph} {record other : CompiledFunction} (previous : Option Graph)

theorem Republishes.carried {version reissued : String} (republishes : graph.Republishes enforced record version reissued) :
    (previous.elim graph graph.carryRetained).Republishes (previous.elim enforced enforced.carryRetained) record version
      reissued where
  compute := by
    obtain ⟨held, other, found, present, differ⟩ := republishes.compute
    exact ⟨held, other, carried_keeps graph previous _ _ found, carried_keeps enforced previous _ _ present, differ⟩
  content := by
    obtain ⟨held, other, found, present, alike⟩ := republishes.content
    exact ⟨held, other, carried_keeps graph previous _ _ found, carried_keeps enforced previous _ _ present, alike⟩
  targetAlias := by
    intro id recorded
    obtain ⟨held, other, found, present, differ⟩ := republishes.targetAlias id recorded
    exact ⟨held, other, carried_keeps graph previous _ _ found, carried_keeps enforced previous _ _ present, differ⟩
  output := by
    rw [carried_outputs, carried_outputs]
    exact republishes.output

theorem Follows.carried {function : FunctionConfig} (follows : graph.Follows enforced function record other) :
    (previous.elim graph graph.carryRetained).Follows (previous.elim enforced enforced.carryRetained) function record
      other where
  recorded := follows.recorded
  versioned := follows.versioned
  published := fun version reissued own theirs => (follows.published version reissued own theirs).carried previous
  kept := by
    intro id member untouched
    obtain ⟨held, found, present⟩ := follows.kept id member untouched
    exact ⟨held, carried_keeps graph previous _ _ found, carried_keeps enforced previous _ _ present⟩

theorem AgreesBeyond.carried {records reissued : List CompiledFunction}
    (agrees : graph.AgreesBeyond enforced records reissued) :
    (previous.elim graph graph.carryRetained).AgreesBeyond (previous.elim enforced enforced.carryRetained) records
      reissued where
  role := carried_agree graph enforced previous _ agrees.role
  resources := fun id untouched => carried_agree graph enforced previous id (agrees.resources id untouched)
  outputs := by
    intro key untouched
    rw [carried_outputs, carried_outputs]
    exact agrees.outputs key untouched

/-- Graphs that keep what the other one has agree. -/
theorem KeptBy.agree {records reissued : List CompiledFunction} (one : graph.KeptBy enforced records)
    (two : enforced.KeptBy graph reissued) (id : String) (untouched : ∀ record ∈ records ++ reissued, id ∉ record.published) :
    enforced.find? id = graph.find? id := by
  obtain ⟨first, second⟩ := List.forall_mem_append.mp untouched
  apply Option.ext
  intro held
  exact ⟨fun present => two id held present second, fun found => one id held found first⟩

end Graph

namespace Blueprint

/-- A function with a version that is to be hashed anew says so. -/
theorem Took.described {blueprint : Blueprint} {core start : Graph} {session : RegistrySession} {w : Workspace}
    {policy : Option ExecutionPolicy} {plans : List Plan} {plan : Plan}
    (took : blueprint.Took core session w start policy plans) (enforced : blueprint.enforce = true)
    (seeded : Core.graph blueprint.service = .ok core) (proper : blueprint.IsProper)
    (regular : (Value.obj blueprint.service.resources).isProper = true) (planned : plan ∈ plans)
    (published : plan.digest.isSome = true) (held : Resource)
    (found : w.graph.find? (Naming.function plan.name) = some held) :
    held.properties.field? "Description" = some (.str Compute.enforcedDescription) := by
  obtain ⟨_, _, makes⟩ := took.made plan planned
  have versioned := (Plan.digest_isSome makes).mp published
  obtain ⟨own, present, fits, -, known⟩ := took.holds_proper seeded proper regular planned .compute
  cases found.symm.trans present
  refine fits.rigid known _ _ (.str _) ?_
  rw [Plan.compute_properties, Compute.versionSettings_published _ _ _ _ versioned, enforced]
  exact Compute.published_description _ _

section Runs

variable {service : ServiceConfig} {files : Files} {registry : Registry} {enforce : Bool} {core start : Graph}
  {session : RegistrySession} {w left : Workspace} {policy : Option ExecutionPolicy} {plans twins : List Plan}
  (one : (ofService service files registry enforce).Took core session w start policy plans)
  (two : (ofService service files registry true).Took core session left start policy twins)
  (names : Plan.Apart plans) (apart : Plan.Apart twins) {plan twin : Plan} (planned : plan ∈ plans) (twinned : twin ∈ twins)
  (matching : plan.Matches twin) (seeded : Core.graph service = .ok core)
  (proper : (ofService service files registry enforce).IsProper) (regular : (Value.obj service.resources).isProper = true)

include one two names apart planned twinned

/-- What stands under one id for two plans: what stood there before, or what each of them places. -/
theorem Took.held_either {kind : Plan.Kind} {id key : String} {resource counterpart : Resource}
    (places : plan.Places (ofService service files registry enforce) kind id resource)
    (placesToo : twin.Places (ofService service files registry true) kind id counterpart)
    (differ : resource.EqualBut key counterpart) : ∃ held other,
      w.graph.find? id = some held ∧ left.graph.find? id = some other ∧ held.EqualBut key other := by
  have found := course_held names one.grows planned places
  have present := course_held apart two.grows twinned placesToo
  refine ⟨_, _, found, present, ?_⟩
  -- What is declared under the id stands there in both graphs, instead of what the plans place.
  cases before : start.find? id with
  | none => exact differ
  | some held =>
      obtain ⟨own, there, fits⟩ :=
        one.grows.fits id resource ((course_placed _ plans id resource).mpr ⟨plan, planned, kind, places⟩)
      rw [before, Option.getD_some] at found
      cases found.symm.trans there
      obtain ⟨fields, _, table, -⟩ := differ
      obtain ⟨others, known⟩ := fits.table fields table
      exact .refl key known

include matching

theorem Took.compute_differs : ∃ held other, w.graph.find? plan.record.id = some held ∧
    left.graph.find? plan.record.id = some other ∧ held.EqualBut "Description" other := by
  have places : twin.Places (ofService service files registry true) .compute (Naming.function plan.name)
      (Compute.resource service service.provider true plan.name plan.function plan.code plan.role) := by
    rw [matching.whole]
    exact .compute
  exact one.held_either two names apart planned twinned .compute places
    (Compute.resource_equalBut service service.provider enforce true plan.name plan.function plan.code plan.role)

theorem Took.alias_differs (own : TargetAlias) (called : plan.via = some own) : ∃ held other,
    w.graph.find? own.id = some held ∧ left.graph.find? own.id = some other ∧ held.EqualBut "FunctionVersion" other := by
  obtain ⟨digest, first, chosen⟩ := Option.bind_eq_some_iff.mp called
  obtain ⟨again, second, -⟩ := Option.bind_eq_some_iff.mp (matching.via.trans called)
  obtain ⟨⟨_, extra⟩, settings, rfl⟩ := Option.map_eq_some_iff.mp chosen
  have settingsToo := settings
  rw [← matching.name, ← matching.function] at settingsToo
  refine one.held_either two names apart planned twinned (.targetAlias digest _ extra first settings)
    (.targetAlias again _ extra second settingsToo) ?_
  rw [matching.name]
  exact TargetAlias.resource_equalBut _ plan.name _ _ extra

include seeded proper regular

omit names apart in
/-- The versions of one function are of the same code, so that they differ in nothing but their ids. -/
theorem Took.version_alike (digest again : VersionDigest) (first : plan.digest = some digest)
    (second : twin.digest = some again) : ∃ held other, w.graph.find? (Version.id plan.name digest) = some held ∧
      left.graph.find? (Version.id twin.name again) = some other ∧ held.same other = true := by
  obtain ⟨held, found, fits, -, known⟩ := one.holds_proper seeded proper regular planned (.version digest first)
  obtain ⟨other, present, alike, -, settled⟩ := two.holds_proper seeded proper.either regular twinned (.version again second)
  obtain ⟨_, _, makes⟩ := one.made plan planned
  have places : plan.Places (ofService service files registry enforce) .version _ _ := .version digest first
  have made := places.isProper makes (proper.functions _ _ (one.declared plan planned)) proper.provider
  have same : Version.resource twin.name again twin.function.description =
      Version.resource plan.name digest plan.function.description := by
    rw [Version.resource, Version.resource, matching.name, matching.function, matching.codeHash digest again first second]
  rw [same] at alike
  exact ⟨held, other, found, present, Version.resource_alike fits alike known settled made.properties⟩

theorem Took.republishes (version reissued : String) (published : plan.record.version = some version)
    (publishedToo : twin.record.version = some reissued) :
    w.graph.Republishes left.graph plan.record version reissued where
  compute := by
    obtain ⟨held, other, found, present, differ⟩ := one.compute_differs two names apart planned twinned matching
    refine ⟨held, other, found, present, differ, ?_⟩
    refine two.described rfl seeded proper.either regular twinned ?_ other (matching.name ▸ present)
    rw [← Option.isSome_map, show twin.digest.map (Version.id twin.name) = some reissued from publishedToo, Option.isSome_some]
  content := by
    obtain ⟨digest, first, rfl⟩ := Option.map_eq_some_iff.mp published
    obtain ⟨again, second, rfl⟩ := Option.map_eq_some_iff.mp publishedToo
    exact one.version_alike two planned twinned matching seeded proper regular digest again first second
  targetAlias := by
    intro id recorded
    obtain ⟨own, called, rfl⟩ := Option.map_eq_some_iff.mp recorded
    obtain ⟨held, other, found, present, differ⟩ := one.alias_differs two names apart planned twinned matching own called
    obtain ⟨_, _, issued, there, -, -, points, -⟩ := one.aliased seeded proper regular planned own called
    obtain ⟨_, _, renewed, here, -, -, pointsToo, -⟩ :=
      two.aliased seeded proper.either regular twinned own (matching.via.trans called)
    have version := Option.some.inj (published.symm.trans issued)
    have reissue := Option.some.inj (publishedToo.symm.trans renewed)
    subst version reissue
    cases found.symm.trans there
    cases present.symm.trans here
    exact ⟨held, other, found, present, differ, points, pointsToo⟩
  output := by
    obtain ⟨digest, first, rfl⟩ := Option.map_eq_some_iff.mp published
    obtain ⟨again, second, rfl⟩ := Option.map_eq_some_iff.mp publishedToo
    refine ⟨"Current Lambda function version", one.output seeded names planned (.version digest first), ?_⟩
    rw [show plan.record.name = twin.name from matching.name.symm]
    exact two.output seeded apart twinned (.version again second)

theorem Took.follows : w.graph.Follows left.graph plan.function plan.record twin.record where
  recorded := matching.record
  versioned := matching.recorded
  published := one.republishes two names apart planned twinned matching seeded proper regular
  kept := by
    intro id member untouched
    rcases plan.ids_placed (ofService service files registry enforce) id member with ⟨logs, rfl⟩ | ⟨kind, resource, places⟩
    · have own := Naming.logGroup_ne_role plan.name
      obtain ⟨group, found, -⟩ :=
        Core.graph_logs service core seeded regular plan.name plan.function (one.declared plan planned) logs
      exact ⟨group, by rw [one.elsewhere _ own, found, Option.some_or], by rw [two.elsewhere _ own, found, Option.some_or]⟩
    · obtain ⟨_, _, makes⟩ := one.made plan planned
      exact ⟨_, course_held names one.grows planned places,
        course_held apart two.grows twinned (makes.places matching places untouched)⟩

end Runs

end Blueprint

/-- A service that is pinned to another generation, or to none. -/
def ServiceConfig.pinned (service : ServiceConfig) (pin : Option String) : ServiceConfig :=
  { service with provider := { service.provider with hashingVersion := pin } }

namespace Core

variable (service : ServiceConfig) (pin : Option String)

theorem usesDefaultRole_pinned (functions : List (String × FunctionConfig)) :
    usesDefaultRole (service.pinned pin).provider functions = usesDefaultRole service.provider functions := by
  induction functions with
  | nil => rfl
  | cons entry rest ih =>
      rw [usesDefaultRole, usesDefaultRole, ih]
      rfl

theorem addLogGroups_pinned (graph : Graph) (functions : List (String × FunctionConfig)) :
    addLogGroups (service.pinned pin) graph functions = addLogGroups service graph functions := by
  induction functions generalizing graph with
  | nil => rfl
  | cons entry rest ih =>
      simp only [addLogGroups, ih]
      rfl

theorem addLayers_pinned (graph : Graph) (layers : List (String × LayerConfig)) :
    addLayers (service.pinned pin) graph layers = addLayers service graph layers := by
  induction layers generalizing graph with
  | nil => rfl
  | cons entry rest ih =>
      simp only [addLayers, ih]
      rfl

theorem graph_pinned : Core.graph (service.pinned pin) = Core.graph service := by
  have role (graph : Graph) : addRole (service.pinned pin) graph = addRole service graph := by
    rw [addRole, addRole, usesDefaultRole_pinned]
    rfl
  simp only [Core.graph, role, addLogGroups_pinned, addLayers_pinned]
  rfl

end Core

namespace Blueprint

section Pinned

variable (service : ServiceConfig) (pin : Option String) (files : Files) (registry : Registry)

/-- What is to be hashed anew is hashed in the current generation. -/
theorem versionDigest_pinned (name : String) (code : Code) (graph : Graph) :
    (ofService (service.pinned pin) files registry true).versionDigest name code graph =
      (ofService service files registry true).versionDigest name code graph := by
  have current (service : ServiceConfig) : (ofService service files registry true).generation = .current := by
    simp [ofService, generation, Generation.select]
  unfold versionDigest
  rw [current, current]
  rfl

theorem publish_pinned (name : String) (function : FunctionConfig) (code : Code) :
    (ofService (service.pinned pin) files registry true).publish name function code =
      (ofService service files registry true).publish name function code := by
  unfold publish addVersion
  simp only [versionDigest_pinned]
  rfl

theorem addDestinations_pinned (name : String) (role : Role) (targets : List (String × Value)) :
    (ofService (service.pinned pin) files registry true).addDestinations name role targets =
      (ofService service files registry true).addDestinations name role targets := by
  induction targets with
  | nil => rfl
  | cons target rest ih =>
      rw [addDestinations, addDestinations, ih]
      rfl

theorem compileFunction_pinned (name : String) (function : FunctionConfig) :
    (ofService (service.pinned pin) files registry true).compileFunction name function =
      (ofService service files registry true).compileFunction name function := by
  have event (role : Role) (via : Option TargetAlias) :
      (ofService (service.pinned pin) files registry true).addEventConfig name function role via =
        (ofService service files registry true).addEventConfig name function role via := by
    unfold addEventConfig
    rw [addDestinations_pinned]
  unfold compileFunction
  simp only [publish_pinned, event]
  rfl

theorem compileEach_pinned (functions : List (String × FunctionConfig)) :
    (ofService (service.pinned pin) files registry true).compileEach functions =
      (ofService service files registry true).compileEach functions := by
  induction functions with
  | nil => rfl
  | cons entry rest ih => rw [compileEach, compileEach, compileFunction_pinned, ih]

/-- A service that is to be hashed anew compiles to the same, whatever generation it is pinned to. -/
theorem compileService_pinned (previous : Option Graph) :
    (ofService (service.pinned pin) files registry true).compileService previous =
      (ofService service files registry true).compileService previous := by
  have all : (ofService (service.pinned pin) files registry true).compileAll =
      (ofService service files registry true).compileAll := by
    unfold compileAll
    rw [compileEach_pinned]
    rfl
  have core : Core.graph (ofService (service.pinned pin) files registry true).service = Core.graph service :=
    Core.graph_pinned service pin
  rw [compileService, compileService, core]
  unfold compile
  rw [all]
  rfl

end Pinned

section Compared

variable {service : ServiceConfig} {files : Files} {registry : Registry} {enforce other : Bool} {core start : Graph}
  {session : RegistrySession} {w left : Workspace} {policy : Option ExecutionPolicy} {plans twins : List Plan}
  (one : (ofService service files registry enforce).Took core session w start policy plans)
  (two : (ofService service files registry other).Took core session left start policy twins)
  (matching : List.Forall₂ Plan.Matches plans twins)

include one two matching

theorem Took.keptBy (apart : Plan.Apart twins) : w.graph.KeptBy left.graph (plans.map Plan.record) := by
  intro id held found untouched
  exact one.kept two matching apart id held found fun plan planned => untouched _ (List.mem_map_of_mem planned)

theorem Took.agreesBeyond (seeded : Core.graph service = .ok core) (names : Plan.Apart plans) (apart : Plan.Apart twins) :
    w.graph.AgreesBeyond left.graph (plans.map Plan.record) (twins.map Plan.record) where
  role := one.role_agrees two matching
  resources := (one.keptBy two matching apart).agree (two.keptBy one (Plan.Matches.turned matching) names)
  outputs := by
    intro key untouched
    refine one.outputs_kept two matching seeded names key fun plan planned published => ?_
    refine untouched plan.record (List.mem_map_of_mem planned) ?_
    rw [Plan.record, Option.isSome_map, published]

end Compared

/-- The order to hash anew changes the descriptions and the versions of functions that have one, and what refers to these
versions. All else is the same with and without the order, and so is what it comes to for each generation that the service may
be pinned to. -/
theorem compileService_enforced (service : ServiceConfig) (files : Files) (registry : Registry)
    (names : Naming.Distinct service.functions) (proper : (ofService service files registry false).IsProper)
    (regular : (Value.obj service.resources).isProper = true)
    (spared : ∀ enforce, (ofService service files registry enforce).SparesLayers service.functions)
    (previous : Option Graph) (graph enforced : Graph) (records reissued : List CompiledFunction)
    (compiles : ((ofService service files registry false).compileService previous).1 = .ok (graph, records))
    (enforces : ((ofService service files registry true).compileService previous).1 = .ok (enforced, reissued)) :
    records.map (·.name) = service.functions.keys ∧
      List.Forall₂ (fun record other => ∃ function, (record.name, function) ∈ service.functions ∧
        record.version.isSome = Compute.isVersioned function service.provider ∧
        graph.Follows enforced function record other) records reissued ∧
      graph.AgreesBeyond enforced records reissued ∧
      (previous = none → graph.KeptBy enforced records ∧ enforced.KeptBy graph reissued) ∧
      ∀ pin, (ofService (service.pinned pin) files registry true).compileService previous =
        (ofService service files registry true).compileService previous := by
  have shared : (ofService service files registry true).IsProper := proper.either
  obtain ⟨core, w, start, policy, plans, seeded, built, one, rfl, rfl⟩ := compileService_ran proper compiles
  obtain ⟨again, left, begun, rules, twins, seededToo, made, two, rfl, rfl⟩ := compileService_ran shared enforces
  cases seeded.symm.trans seededToo
  cases one.begins.symm.trans two.begins
  have sound := one.sound proper (spared false core seeded w built)
  have soundToo := two.sound shared (spared true core seeded left made)
  have entries : twins.map Plan.entry = plans.map Plan.entry := two.entries.trans one.entries.symm
  have distinct : Plan.Apart plans := (Plan.apart_iff plans).mpr (one.entries.symm ▸ names)
  have apart : Plan.Apart twins := (Plan.apart_iff twins).mpr (two.entries.symm ▸ names)
  have counterpart (plan : Plan) (planned : plan ∈ plans) (twin : Plan) (twinned : twin ∈ twins)
      (same : twin.entry = plan.entry) : plan.Matches twin :=
    (sound.makes plan planned).counterpart (soundToo.makes twin twinned) same
  have matching : List.Forall₂ Plan.Matches plans twins := forall₂_of_map entries counterpart
  refine ⟨?_, ?_, ?_, ?_, fun pin => compileService_pinned service pin files registry previous⟩
  · rw [show service.functions = plans.map Plan.entry from one.entries.symm, Table.keys, List.map_map, List.map_map]
    rfl
  · rw [List.forall₂_map_left_iff, List.forall₂_map_right_iff]
    refine forall₂_of_map entries fun plan planned twin twinned same => ?_
    refine ⟨plan.function, one.declared plan planned, ?_, ?_⟩
    · rw [Plan.record, Option.isSome_map, Bool.eq_iff_iff]
      exact Plan.digest_isSome (sound.makes plan planned)
    · exact (one.follows two.toTook distinct apart planned twinned (counterpart plan planned twin twinned same) seeded proper
        regular).carried previous
  · exact (one.agreesBeyond two.toTook matching seeded distinct apart).carried previous
  · rintro rfl
    exact ⟨one.keptBy two.toTook matching apart, two.keptBy one.toTook (Plan.Matches.turned matching) distinct⟩

/-- The gate, pinned to the legacy generation and with a worker that has no version. -/
def halfPublished : ServiceConfig :=
  { gate.pinned (some "20200924") with
    functions := gate.functions.update "worker" fun function => { function with versionFunction := some false } }

/-- To be hashed anew changes the description of the first function, and nothing about the worker. -/
theorem halfPublished_enforced : ∃ graph records enforced reissued held other own,
    ((packaged halfPublished).compileService none).1 = .ok (graph, records) ∧
      ((ofService halfPublished (packaged halfPublished).files (packaged halfPublished).registry true).compileService none).1 =
        .ok (enforced, reissued) ∧
      graph.find? "ApiLambdaFunction" = some held ∧ enforced.find? "ApiLambdaFunction" = some other ∧
      held.EqualBut "Description" other ∧
      other.properties.field? "Description" = some (.str Compute.enforcedDescription) ∧
      graph.find? "WorkerLambdaFunction" = some own ∧ enforced.find? "WorkerLambdaFunction" = some own := by
  obtain ⟨graph, records, compiles, known⟩ := compileService_any (packaged halfPublished) none
    (fun _ records => (records.any fun record => record.id = "ApiLambdaFunction" && record.version.isSome) &&
      records.any fun record => record.id = "WorkerLambdaFunction" && record.version.isNone) (by decide +kernel)
  obtain ⟨enforced, reissued, enforces, -⟩ := compileService_any
    (ofService halfPublished (packaged halfPublished).files (packaged halfPublished).registry true) none (fun _ _ => true)
    (by decide +kernel)
  obtain ⟨-, each, -, -, -⟩ := compileService_enforced halfPublished (packaged halfPublished).files
    (packaged halfPublished).registry (by decide +kernel) (by decide +kernel) (by decide +kernel)
    (by decide +kernel) none graph enforced records reissued compiles enforces
  rw [Bool.and_eq_true, List.any_eq_true, List.any_eq_true] at known
  obtain ⟨⟨api, first, published⟩, worker, second, plain⟩ := known
  rw [Bool.and_eq_true, decide_eq_true_eq] at published plain
  obtain ⟨version, own⟩ := Option.isSome_iff_exists.mp published.2
  obtain ⟨again, -, function, -, -, follows⟩ := forall₂_mem_left each api first
  obtain ⟨other, -, settings, -, -, kept⟩ := forall₂_mem_left each worker second
  have versioned := follows.versioned
  rw [own, Option.isSome_some] at versioned
  obtain ⟨reissue, theirs⟩ := Option.isSome_iff_exists.mp versioned
  obtain ⟨held, changed, found, present, differ, described⟩ := (follows.published version reissue own theirs).compute
  have untouched : worker.id ∉ worker.published := by
    rw [CompiledFunction.published, Option.isNone_iff_eq_none.mp plain.2]
    exact List.not_mem_nil
  obtain ⟨compute, there, here⟩ := kept.kept worker.id (by simp [CompiledFunction.ids]) untouched
  rw [published.1] at found present
  rw [plain.1] at there here
  exact ⟨graph, records, enforced, reissued, held, changed, compute, compiles, enforces, found, present, differ, described,
    there, here⟩

end Blueprint

end FunctionStack
