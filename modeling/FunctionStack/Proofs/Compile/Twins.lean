import FunctionStack.Proofs.Compile.Whole

/-!
Two compilations whose functions correspond to each other. A version is made of what stands in the place of its function,
and that comes from the core graph or from the first function of that id. As far as these and the layers are the same for
both compilations, so are the versions.
-/

namespace FunctionStack

open Value

namespace Compute

/-- The properties of a function without those that a version adds. -/
def plainProperties (service : ServiceConfig) (provider : ProviderConfig) (name : String) (function : FunctionConfig)
    (code : Code) (role : Role) : Fields :=
  code.properties ++ [("FunctionName", .str (service.deployedName name (some function) (some provider.stage)))] ++
    sizes function provider ++ architectures function provider ++
    Core.optionalText "Description" function.description ++ tags function provider ++
    ephemeralStorage function ++ deadLetter function ++ kms function provider ++
    tracing function provider ++ environment function provider ++ [("Role", role.value)] ++
    vpc function provider ++ fileSystems function ++
    integerField "ReservedConcurrentExecutions" function.reservedConcurrency ++ layers function provider

/-- The properties of a function with those that a version adds. -/
def published (enforce snapStart : Bool) (properties : Fields) : Fields :=
  let described := if enforce then Table.insert properties "Description" (.str enforcedDescription) else properties
  if snapStart then described ++ [("SnapStart", .obj [("ApplyOn", .str "PublishedVersions")])] else described

variable (enforce : Bool) (function : FunctionConfig) (provider : ProviderConfig) (properties : Fields)

theorem published_description (snapStart : Bool) :
    Table.find? (published true snapStart properties) "Description" = some (.str enforcedDescription) := by
  have described := Table.find?_insert properties "Description" "Description" (.str enforcedDescription)
  rw [if_pos rfl] at described
  unfold published
  cases snapStart with
  | false => exact described
  | true =>
      simp only [if_true, Table.find?_append, described]
      rfl

theorem versionSettings_published (versioned : isVersioned function provider = true) :
    versionSettings enforce function provider properties = published enforce function.snapStart properties := if_pos versioned

/-- Properties that look published are, whether there is a version or not: SnapStart always makes one. -/
theorem versionSettings_described (described : enforce = true →
      Table.find? (versionSettings enforce function provider properties) "Description" = some (.str enforcedDescription)) :
    versionSettings enforce function provider properties = published enforce function.snapStart properties := by
  cases versioned : isVersioned function provider with
  | true => exact versionSettings_published enforce function provider properties versioned
  | false =>
      have plain : versionSettings enforce function provider properties = properties := if_neg (by simp [versioned])
      have snapStart : function.snapStart = false := by
        simp only [isVersioned, Bool.or_eq_false_iff] at versioned
        exact versioned.2
      rw [plain] at described ⊢
      rw [published, snapStart]
      cases enforce with
      | false => rfl
      | true => exact (Table.insert_present properties _ _ (described rfl)).symm

theorem canonical_published (snapStart isImage : Bool) :
    Version.canonicalProperties (published enforce snapStart properties) isImage =
      published enforce snapStart (Version.canonicalProperties properties isImage) := by
  have last : Version.canonicalProperties [("SnapStart", .obj [("ApplyOn", .str "PublishedVersions")])] isImage =
      [("SnapStart", .obj [("ApplyOn", .str "PublishedVersions")])] := by cases isImage <;> rfl
  cases enforce <;> cases snapStart <;>
    simp [published, Version.canonicalProperties_append, Version.canonicalProperties_insert, Version.globalProperties, last]

end Compute

namespace Resource

variable {held resource : Resource}

theorem Fits.type_iff (fits : held.Fits resource) (text : String) : held.type = .str text ↔ resource.type = .str text := by
  rcases fits with rfl | equal
  · rfl
  · simp only [same, Bool.and_eq_true] at equal
    have type := equal.1.1.1.1
    constructor
    · intro known
      rw [known] at type
      exact same_str type
    · intro known
      rw [known] at type
      exact str_same type

theorem Fits.table (fits : held.Fits resource) (fields : Fields) (table : resource.properties = .obj fields) :
    ∃ others, held.properties = .obj others := by
  rcases fits with rfl | equal
  · exact ⟨fields, table⟩
  · simp only [same, Bool.and_eq_true] at equal
    have properties := equal.1.1.1.2
    rw [table] at properties
    cases known : held.properties with
    | obj others => exact ⟨others, rfl⟩
    | _ => simp [known, Value.same] at properties

/-- What is held has all the parts of what it fits, or equal ones. -/
theorem Fits.part (fits : held.Fits resource) (proper : held.properties.isProper = true) (key : String) (part : Value)
    (found : resource.properties.field? key = some part) :
    ∃ own, held.properties.field? key = some own ∧ own.same part = true := by
  rcases fits with rfl | equal
  · exact ⟨part, found, same_refl part (field?_isProper proper key found)⟩
  · simp only [same, Bool.and_eq_true] at equal
    exact field?_same proper equal.1.1.1.2 key found

theorem Fits.rigid (fits : held.Fits resource) (proper : held.properties.isProper = true) (key : String) (part : Value)
    (rigid : Value.Rigid part) (found : resource.properties.field? key = some part) :
    held.properties.field? key = some part := by
  obtain ⟨own, present, alike⟩ := fits.part proper key part found
  rw [present, rigid.eq_of_same own alike]

end Resource

namespace Plan

def plainProperties (plan : Plan) (blueprint : Blueprint) : Fields :=
  Compute.plainProperties blueprint.service blueprint.provider plan.name plan.function plan.code plan.role

def published (plan : Plan) (blueprint : Blueprint) : Fields :=
  Compute.published blueprint.enforce plan.function.snapStart (plan.plainProperties blueprint)

theorem compute_properties (plan : Plan) (blueprint : Blueprint) : (plan.compute blueprint).properties =
    .obj (Compute.versionSettings blueprint.enforce plan.function blueprint.provider (plan.plainProperties blueprint)) :=
  Compute.resource_properties _ _ _ _ _ _ _

/-- What fits a published function is published itself. -/
theorem compute_published {plan source : Plan} {blueprint : Blueprint}
    (versioned : Compute.isVersioned plan.function blueprint.provider = true)
    (fits : (source.compute blueprint).Fits (plan.compute blueprint))
    (proper : (source.compute blueprint).properties.isProper = true) :
    (source.compute blueprint).properties = .obj (source.published blueprint) := by
  rw [compute_properties, Value.obj.injEq]
  refine Compute.versionSettings_described _ _ _ _ fun enforced => ?_
  have described : (plan.compute blueprint).properties.field? "Description" = some (.str Compute.enforcedDescription) := by
    rw [compute_properties, Compute.versionSettings_published _ _ _ _ versioned, enforced]
    exact Compute.published_description _ _
  have held := fits.rigid proper "Description" _ (.str _) described
  rwa [compute_properties] at held

end Plan

namespace Blueprint

variable {blueprint : Blueprint}

/-- Where only functions are placed under an id, it is the first one that counts. -/
theorem course_first (plans : List Plan) (id : String) (functions : ∀ resource,
      (id, resource) ∈ (blueprint.course plans).flatMap Move.placed → resource.type = .str "AWS::Lambda::Function") :
    Table.find? ((blueprint.course plans).flatMap Move.placed) id =
      (plans.find? fun plan => Naming.function plan.name = id).map (·.compute blueprint) := by
  induction plans with
  | nil => rfl
  | cons plan rest ih =>
      have whole : (blueprint.course (plan :: rest)).flatMap Move.placed =
          (plan.moves blueprint).flatMap Move.placed ++ (blueprint.course rest).flatMap Move.placed := by
        simp [course]
      rw [whole] at functions ⊢
      have own (resource : Resource) (member : (id, resource) ∈ (plan.moves blueprint).flatMap Move.placed) :
          Naming.function plan.name = id ∧ resource = plan.compute blueprint := by
        obtain ⟨kind, places⟩ := (plan.places_iff blueprint id resource).mp member
        have type := functions resource (List.mem_append_left _ member)
        rw [places.type] at type
        have compute : kind = .compute := Plan.Kind.type_injective kind .compute (Value.str.inj type)
        subst compute
        cases places
        exact ⟨rfl, rfl⟩
      rw [Table.find?_append, ih fun resource member => functions resource (List.mem_append_right _ member)]
      by_cases here : Naming.function plan.name = id
      · have placed : (id, plan.compute blueprint) ∈ (plan.moves blueprint).flatMap Move.placed :=
          (plan.places_iff blueprint _ _).mpr ⟨.compute, here ▸ .compute⟩
        obtain ⟨resource, found⟩ := Option.isSome_iff_exists.mp ((Table.has_iff_mem _ id).mpr ⟨_, placed⟩)
        rw [found, (own resource (Table.find?_some_mem _ _ _ found)).2, List.find?_cons_of_pos (by simpa using here)]
        rfl
      · have none : Table.find? ((plan.moves blueprint).flatMap Move.placed) id = none := by
          rw [Table.find?_none_iff]
          intro member
          obtain ⟨⟨_, resource⟩, listed, rfl⟩ := List.mem_map.mp member
          exact here (own resource listed).1
        rw [none, Option.none_or, List.find?_cons_of_neg (by simpa using here)]

section Held

variable {core start : Graph} {session : RegistrySession} {w : Workspace} {policy : Option ExecutionPolicy}
  {plans : List Plan} (took : blueprint.Took core session w start policy plans) {plan : Plan} (planned : plan ∈ plans)

include took

theorem Took.elsewhere (id : String) (apart : id ≠ defaultExecutionRole) :
    w.graph.find? id = (core.find? id).or (Table.find? ((blueprint.course plans).flatMap Move.placed) id) := by
  rw [took.grows.lookup id apart, Table.find?_append, ← ExecutionPolicy.ofGraph_elsewhere core start policy took.begins id apart]
  rfl

/-- The layers of a function stay what they are in the core graph. -/
theorem Took.layers_kept (plan : Plan) (spared : blueprint.LayersApart core w.graph [plan.entry]) :
    ∀ id ∈ layerIds plan.function blueprint.provider, w.graph.find? id = core.find? id := by
  intro id listed
  obtain ⟨apart, known⟩ := spared.completed took.begins plan.name plan.function (List.mem_singleton.mpr rfl) id listed
  rw [← (Graph.Grows.refl start).between took.grows id apart known]
  exact ExecutionPolicy.ofGraph_elsewhere core start policy took.begins id apart

include planned

/-- What stands in the place of a function comes from the core graph or from the first function of that id. -/
theorem Took.holds : ∃ held, w.graph.find? (Naming.function plan.name) = some held ∧ held.Fits (plan.compute blueprint) ∧
    some held = (core.find? (Naming.function plan.name)).or
      ((plans.find? fun other => Naming.function other.name = Naming.function plan.name).map (·.compute blueprint)) := by
  obtain ⟨held, found, fits⟩ := course_compute took.grows plan planned
  have places : plan.Places blueprint .compute (Naming.function plan.name) (plan.compute blueprint) := .compute
  refine ⟨held, found, fits, ?_⟩
  rw [← course_first plans (Naming.function plan.name) fun resource member => ?_, ← took.elsewhere _ places.ne_role, found]
  obtain ⟨other, same, alike⟩ := took.grows.fits _ resource member
  rw [found] at same
  cases same
  exact (alike.type_iff _).mp ((fits.type_iff _).mpr (plan.compute_type blueprint))

/-- The properties of a function without one in the core graph are those of the first function of that id. -/
theorem Took.published (proper : blueprint.IsProper) (versioned : Compute.isVersioned plan.function blueprint.provider = true)
    (free : core.find? (Naming.function plan.name) = none) : ∃ source held,
      plans.find? (fun other => Naming.function other.name = Naming.function plan.name) = some source ∧
        w.graph.find? (Naming.function plan.name) = some held ∧ held.properties = .obj (source.published blueprint) := by
  obtain ⟨held, found, fits, whole⟩ := took.holds planned
  rw [free, Option.none_or, eq_comm, Option.map_eq_some_iff] at whole
  obtain ⟨source, first, rfl⟩ := whole
  have listed : source ∈ plans := List.mem_of_find?_eq_some first
  obtain ⟨_, _, makes⟩ := took.made source listed
  have own := proper.functions source.name source.function (took.declared source listed)
  exact ⟨source, _, first, found, Plan.compute_published versioned fits
    (Plan.compute_isProper makes own proper.provider).properties⟩

end Held

/-- Blueprints that hash in the same way. -/
structure HashesLike (first second : Blueprint) : Prop where
  files : second.files = first.files
  generation : second.generation = first.generation
  enforce : second.enforce = first.enforce
  artifacts : second.service.layerArtifact = first.service.layerArtifact

end Blueprint

/-- Plans of two compilations that differ in nothing that counts for a version. -/
structure Plan.Resembles (first second : Blueprint) (isImage : Bool) (plan twin : Plan) : Prop where
  name : twin.name = plan.name
  snapStart : twin.function.snapStart = plan.function.snapStart
  properties : Version.canonicalProperties (twin.plainProperties second) isImage =
    Version.canonicalProperties (plan.plainProperties first) isImage
  artifact : twin.code.artifact = plan.code.artifact
  imageDigest : twin.code.imageDigest = plan.code.imageDigest
  layers : Blueprint.layerIds twin.function second.provider = Blueprint.layerIds plan.function first.provider

theorem forall₂_of_map {α β γ : Type} {related : α → β → Prop} {f : α → γ} {g : β → γ} {first : List α} {second : List β}
    (same : second.map g = first.map f) (each : ∀ a ∈ first, ∀ b ∈ second, g b = f a → related a b) :
    List.Forall₂ related first second := by
  induction first generalizing second with
  | nil =>
      rw [List.map_nil, List.map_eq_nil_iff] at same
      exact same ▸ .nil
  | cons a first ih =>
      cases second with
      | nil => cases same
      | cons b second =>
          obtain ⟨here, rest⟩ := List.cons.inj same
          refine .cons (each a (List.mem_cons_self ..) b (List.mem_cons_self ..) here) (ih rest fun a one b two => ?_)
          exact each a (List.mem_cons_of_mem _ one) b (List.mem_cons_of_mem _ two)

theorem forall₂_find? {α β : Type} {related : α → β → Prop} {first : List α} {second : List β}
    (all : List.Forall₂ related first second) (p : α → Bool) (q : β → Bool) (agree : ∀ a b, related a b → p a = q b) :
    Option.Rel related (first.find? p) (second.find? q) := by
  induction all with
  | nil => exact .none
  | cons head _ ih =>
      rw [List.find?_cons, List.find?_cons, ← agree _ _ head]
      split
      · exact .some head
      · exact ih

namespace Blueprint

section Agree

variable {first second : Blueprint} {core start other begun : Graph} {w left : Workspace}
  {policy rules : Option ExecutionPolicy} {plans twins : List Plan} {isImage : Bool}
  (one : first.Ran core ⟨[], []⟩ w start policy plans) (two : second.Ran other ⟨[], []⟩ left begun rules twins)
  (hashes : first.HashesLike second) (resembling : List.Forall₂ (Plan.Resembles first second isImage) plans twins)
  (proper : first.IsProper) (regular : second.IsProper)
  {plan twin : Plan} (planned : plan ∈ plans) (twinned : twin ∈ twins) (alike : plan.Resembles first second isImage twin)
  (versioned : Compute.isVersioned plan.function first.provider = true)
  (also : Compute.isVersioned twin.function second.provider = true)
  (seeded : other.find? (Naming.function plan.name) = core.find? (Naming.function plan.name))

include one two hashes resembling proper regular planned twinned alike versioned also seeded

/-- What stands in the place of a published function differs in nothing that counts for its version. -/
theorem Ran.held_agree : ∃ held fields others,
    w.graph.find? (Naming.function plan.name) = some held ∧ held.Fits (plan.compute first) ∧ held.properties = .obj fields ∧
      ((left.graph.find? (Naming.function twin.name)).bind fun resource => resource.properties.fields?) = some others ∧
      Version.canonicalProperties others isImage = Version.canonicalProperties fields isImage := by
  obtain ⟨held, found, fits, whole⟩ := one.holds planned
  obtain ⟨target, present, _, rest⟩ := two.holds twinned
  rw [alike.name, seeded] at rest
  cases known : core.find? (Naming.function plan.name) with
  | some resource =>
      rw [known, Option.some_or, Option.some.injEq] at whole rest
      subst whole rest
      obtain ⟨fields, table⟩ := fits.table _ (plan.compute_properties first)
      exact ⟨_, fields, fields, found, fits, table, by rw [present, Option.bind_some, table]; rfl, rfl⟩
  | none =>
      obtain ⟨source, _, listed, same, properties⟩ := one.published planned proper versioned known
      rw [found] at same
      cases same
      obtain ⟨origin, _, chosen, same, others⟩ := two.published twinned regular also (by rw [alike.name, seeded, known])
      rw [present] at same
      cases same
      have related := forall₂_find? resembling (fun other => Naming.function other.name = Naming.function plan.name)
        (fun other => Naming.function other.name = Naming.function twin.name) fun a b resembles => by
          rw [resembles.name, alike.name]
      rw [listed, chosen] at related
      cases related with
      | some resembles =>
          refine ⟨held, _, _, found, fits, properties, by rw [present, Option.bind_some, others]; rfl, ?_⟩
          rw [Plan.published, Plan.published, Compute.canonical_published, Compute.canonical_published, hashes.enforce,
            resembles.snapStart, resembles.properties]

/-- Functions that correspond to each other have one version if what their layers refer to is the same for it. -/
theorem Ran.versions_agree (image : plan.code.imageDigest.isSome = isImage)
    (spared : first.LayersApart core w.graph [plan.entry]) (sparedToo : second.LayersApart other left.graph [twin.entry])
    (layers : ∀ id ∈ layerIds plan.function first.provider,
      (core.find? id).map (Version.layerSnapshot first.service.layerArtifact id) =
        (other.find? id).map (Version.layerSnapshot first.service.layerArtifact id)) :
    ∃ digest, plan.digest = some digest ∧ twin.digest = some digest := by
  have makes := one.makes plan planned spared
  obtain ⟨-, digest, chosen, made⟩ := makes.published versioned
  obtain ⟨-, version, taken, again⟩ := (two.makes twin twinned sparedToo).published also
  obtain ⟨held, fields, others, found, fits, table, present, canonical⟩ :=
    one.held_agree two hashes resembling proper regular planned twinned alike versioned also seeded
  have digests : Version.digest first.files first.generation first.service.layerArtifact fields w.graph plan.code.artifact
      plan.code.imageDigest = Version.digest first.files first.generation first.service.layerArtifact others left.graph
        plan.code.artifact plan.code.imageDigest := by
    refine Version.digest_congr _ _ _ _ _ _ _ _ _ (image.symm ▸ canonical.symm) fun entries listed entry member id refers => ?_
    have own := proper.functions plan.name plan.function (one.declared plan planned)
    have layer := Plan.fits_layers makes own proper.provider held fits fields table entries listed entry member id refers
    rw [one.layers_kept plan spared id layer, two.layers_kept twin sparedToo id (alike.layers.symm ▸ layer)]
    exact layers id layer
  rw [versionDigest, found, Option.bind_some, table] at made
  rw [versionDigest, present, hashes.files, hashes.generation, hashes.artifacts, alike.artifact, alike.imageDigest] at again
  have same : version = digest := Except.ok.inj (again.symm.trans (digests.symm.trans made))
  exact ⟨digest, chosen, same ▸ taken⟩

end Agree

end Blueprint

/-- The version that a compilation has published for a function. -/
def publishedVersion (compiled : List CompiledFunction) (name : String) : Option String :=
  (compiled.find? fun record => record.name = name) >>= CompiledFunction.version

theorem publishedVersion_plan (plans : List Plan) (name : String) (plan : Plan)
    (found : (plans.find? fun plan => plan.name = name) = some plan) :
    publishedVersion (plans.map Plan.record) name = plan.record.version := by
  have same : (fun record : CompiledFunction => decide (record.name = name)) ∘ Plan.record =
      fun plan => decide (plan.name = name) := rfl
  rw [publishedVersion, List.find?_map, same, found]
  rfl

/-- The settings under a name are those of the first plan of that name. -/
theorem Plan.find?_entry (plans : List Plan) (name : String) (function : FunctionConfig)
    (found : Table.find? (plans.map Plan.entry) name = some function) :
    ∃ plan, (plans.find? fun plan => plan.name = name) = some plan ∧ plan.function = function := by
  induction plans with
  | nil => cases found
  | cons plan rest ih =>
      rw [List.map_cons, Plan.entry, Table.find?_cons] at found
      by_cases here : plan.name = name
      · rw [if_pos here.symm] at found
        exact ⟨plan, List.find?_cons_of_pos (by simpa using here), Option.some.inj found⟩
      · rw [if_neg (Ne.symm here)] at found
        obtain ⟨other, first, same⟩ := ih found
        exact ⟨other, by rw [List.find?_cons_of_neg (by simpa using here), first], same⟩

namespace Blueprint

variable {first second : Blueprint} {core start other begun : Graph} {w left : Workspace}
  {policy rules : Option ExecutionPolicy} {plans twins : List Plan} {isImage : Bool}

/-- A function of two compilations has one version if all plans resemble each other and what its layers refer to is the same
for it. -/
theorem Ran.publishedVersion_agree (one : first.Ran core ⟨[], []⟩ w start policy plans)
    (two : second.Ran other ⟨[], []⟩ left begun rules twins) (hashes : first.HashesLike second)
    (resembling : List.Forall₂ (Plan.Resembles first second isImage) plans twins)
    (proper : first.IsProper) (regular : second.IsProper)
    (spared : first.LayersApart core w.graph first.functions)
    (sparedToo : second.LayersApart other left.graph second.functions)
    (seeded : ∀ name, other.find? (Naming.function name) = core.find? (Naming.function name))
    (name : String) (function settings : FunctionConfig) (declared : Table.find? first.functions name = some function)
    (also : Table.find? second.functions name = some settings)
    (image : ∀ plan, (plans.find? fun plan => plan.name = name) = some plan → plan.code.imageDigest.isSome = isImage)
    (versioned : Compute.isVersioned function first.provider = true)
    (versionedToo : Compute.isVersioned settings second.provider = true)
    (layers : ∀ id ∈ layerIds function first.provider,
      (core.find? id).map (Version.layerSnapshot first.service.layerArtifact id) =
        (other.find? id).map (Version.layerSnapshot first.service.layerArtifact id)) :
    ∃ id, publishedVersion (plans.map Plan.record) name = some id ∧
      publishedVersion (twins.map Plan.record) name = some id := by
  obtain ⟨plan, found, rfl⟩ := Plan.find?_entry plans name function (one.entries ▸ declared)
  obtain ⟨twin, chosen, rfl⟩ := Plan.find?_entry twins name settings (two.entries ▸ also)
  have related := forall₂_find? resembling (fun plan => plan.name = name) (fun plan => plan.name = name) fun _ _ resembles => by
    rw [resembles.name]
  rw [found, chosen] at related
  cases related with
  | some alike =>
      have planned := List.mem_of_find?_eq_some found
      have twinned := List.mem_of_find?_eq_some chosen
      have within {plan : Plan} {functions : List (String × FunctionConfig)} (member : plan.entry ∈ functions) :
          [plan.entry] ⊆ functions := List.cons_subset.mpr ⟨member, List.nil_subset _⟩
      obtain ⟨digest, published, again⟩ := one.versions_agree two hashes resembling proper regular planned twinned alike
        versioned versionedToo (seeded plan.name) (image plan found) (spared.mono (within (one.declared plan planned)))
        (sparedToo.mono (within (two.declared twin twinned))) layers
      refine ⟨Version.id plan.name digest, ?_, ?_⟩
      · rw [publishedVersion_plan plans name plan found, Plan.record, published]
        rfl
      · rw [publishedVersion_plan twins name twin chosen, Plan.record, again, alike.name]
        rfl

end Blueprint

end FunctionStack
