import FunctionStack.Proofs.Compile.Placed
import FunctionStack.Proofs.Version.Canonical

/-!
The compilation of all functions as one course of moves. The digest of a version reads the graph in the middle of that
course, but nothing there that is still to come: its plan can be made from what the course leaves as well.
-/

namespace FunctionStack

open Value
open Build (Yields performAll performAll_ok performAll_aside yields_performAll_nil yields_performAll_append)

/-- Memories that make no difference to what registries answer. -/
def Registry.Alike (registry : Registry) (first second : RegistrySession) : Prop :=
  registry.available = true ∨ first.clients = second.clients

namespace Registry.Alike

variable {registry : Registry} {first second third : RegistrySession}

theorem refl (session : RegistrySession) : registry.Alike session session := Or.inr rfl

theorem symm (alike : registry.Alike first second) : registry.Alike second first := alike.imp_right Eq.symm

theorem trans (one : registry.Alike first second) (two : registry.Alike second third) : registry.Alike first third := by
  rcases one with available | one
  · exact Or.inl available
  · exact two.imp_right one.trans

end Registry.Alike

namespace Image

variable {registry : Registry}

theorem lookUp_session (function uri : String) (session : RegistrySession) :
    registry.Alike session (lookUp registry function uri session).2 := by
  unfold lookUp
  cases ImageTag.ofUri? uri with
  | none => exact .refl _
  | some image =>
      dsimp only
      unfold connect
      split
      case h_1 => exact .refl _
      case h_2 next connected =>
        split at connected
        · cases connected
          exact Or.inr rfl
        · split at connected
          case isTrue available => exact Or.inl available
          case isFalse => cases connected

theorem connect_alike (region : String) (first second : RegistrySession) (alike : registry.Alike first second) :
    (connect registry region first).map (fun _ => ()) = (connect registry region second).map fun _ => () := by
  have open_ (session : RegistrySession) : (connect registry region session).map (fun _ => ()) =
      if session.clients.contains region || registry.available then .ok () else reject .registryClientMissing := by
    unfold connect
    cases session.clients.contains region <;> cases registry.available <;> rfl
  rw [open_, open_]
  rcases alike with available | same
  · rw [available, Bool.or_true, Bool.or_true]
  · rw [same]

theorem lookUp_alike (function uri : String) (first second : RegistrySession) (alike : registry.Alike first second) :
    (lookUp registry function uri first).1 = (lookUp registry function uri second).1 := by
  unfold lookUp
  cases ImageTag.ofUri? uri with
  | none => rfl
  | some image =>
      have connected := connect_alike image.region first second alike
      dsimp only
      revert connected
      cases connect registry image.region first <;> cases connect registry image.region second <;> intro connected <;>
        cases connected <;> rfl

theorem resolve_session (provider : ProviderConfig) (function : String) (image : ImageConfig)
    (session : RegistrySession) : registry.Alike session (resolve registry provider function image session).2 := by
  unfold resolve
  cases Image.uri function image provider with
  | error _ => exact .refl _
  | ok uri =>
      dsimp only
      unfold resolveUri
      split
      · exact .refl _
      · exact lookUp_session function uri session

theorem resolve_alike (provider : ProviderConfig) (function : String) (image : ImageConfig)
    (first second : RegistrySession) (alike : registry.Alike first second) :
    (resolve registry provider function image first).1 = (resolve registry provider function image second).1 := by
  unfold resolve
  cases Image.uri function image provider with
  | error _ => rfl
  | ok uri =>
      dsimp only
      unfold resolveUri
      split
      · rfl
      · exact lookUp_alike function uri first second alike

end Image

namespace Blueprint

variable (blueprint : Blueprint)

theorem codeFrom_session (name : String) (function : FunctionConfig) (session : RegistrySession) :
    blueprint.registry.Alike session (blueprint.codeFrom name function session).2 := by
  unfold codeFrom
  cases function.imageConfig? with
  | none => exact .refl _
  | some image =>
      dsimp only
      split
      · exact Image.resolve_session _ _ _ _
      · exact .refl _

theorem codeFrom_alike (name : String) (function : FunctionConfig) (first second : RegistrySession)
    (alike : blueprint.registry.Alike first second) :
    (blueprint.codeFrom name function first).1 = (blueprint.codeFrom name function second).1 := by
  unfold codeFrom
  cases function.imageConfig? with
  | none => rfl
  | some image =>
      dsimp only
      split
      · exact congrArg (Except.map _) (Image.resolve_alike _ _ _ first second alike)
      · rfl

/-- The memory of the registries after some functions. -/
def sessionAfter (blueprint : Blueprint) : List (String × FunctionConfig) → RegistrySession → RegistrySession
  | [], session => session
  | (name, function) :: rest, session => sessionAfter blueprint rest (blueprint.codeFrom name function session).2

theorem sessionAfter_alike (functions : List (String × FunctionConfig)) (session : RegistrySession) :
    blueprint.registry.Alike session (blueprint.sessionAfter functions session) := by
  induction functions generalizing session with
  | nil => exact .refl _
  | cons entry rest ih => exact (blueprint.codeFrom_session entry.1 entry.2 session).trans (ih _)

/-- The ids that a function's layer entries refer to. -/
def layerIds (function : FunctionConfig) (provider : ProviderConfig) : List String :=
  ((function.layers <|> provider.layers).getD []).filterMap fun entry => entry.field? "Ref" >>= Value.text?

end Blueprint

namespace Version

/-- An entry counts for the layer it refers to, if that is there. -/
theorem snapshotsOf_ref (layerArtifact : String → Result String) (graph : Graph) (entry : Value) (rest : List Value)
    (id : String) (refers : entry.field? "Ref" = some (.str id)) :
    snapshotsOf layerArtifact graph (entry :: rest) =
      ((graph.find? id).map (layerSnapshot layerArtifact id)).elim (snapshotsOf layerArtifact graph rest) fun snapshot => do
        let own ← snapshot
        let others ← snapshotsOf layerArtifact graph rest
        return own :: others := by
  have here : layerResource? graph entry = .ok ((graph.find? id).map (id, ·)) := by rw [layerResource?, refers]
  rw [snapshotsOf, here]
  cases graph.find? id <;> rfl

/-- An entry that refers to nothing by name is treated alike in all graphs. -/
theorem layerResource?_unnamed (entry : Value) (unnamed : ∀ id, entry.field? "Ref" ≠ some (.str id)) :
    (∀ graph, layerResource? graph entry = .ok none) ∨ ∀ graph, layerResource? graph entry = fault .wrongType := by
  simp only [layerResource?]
  split
  · exact Or.inl fun _ => rfl
  case h_2 id refers => exact absurd refers (unnamed id)
  · split
    · exact Or.inl fun _ => rfl
    · exact Or.inr fun _ => rfl

/-- A graph is read only where layer entries refer to it, and there only for the snapshots. -/
theorem snapshotsOf_congr (layerArtifact : String → Result String) (first second : Graph) (entries : List Value)
    (agree : ∀ entry ∈ entries, ∀ id, entry.field? "Ref" = some (.str id) →
      (first.find? id).map (layerSnapshot layerArtifact id) = (second.find? id).map (layerSnapshot layerArtifact id)) :
    snapshotsOf layerArtifact first entries = snapshotsOf layerArtifact second entries := by
  induction entries with
  | nil => rfl
  | cons entry rest ih =>
      have others := ih fun other member => agree other (List.mem_cons_of_mem _ member)
      by_cases named : ∃ id, entry.field? "Ref" = some (.str id)
      · obtain ⟨id, refers⟩ := named
        rw [snapshotsOf_ref layerArtifact first entry rest id refers,
          snapshotsOf_ref layerArtifact second entry rest id refers, agree entry (List.mem_cons_self ..) id refers, others]
      · rcases layerResource?_unnamed entry (not_exists.mp named) with outside | failed
        · rw [snapshotsOf, snapshotsOf, outside, outside]
          exact others
        · rw [snapshotsOf, snapshotsOf, failed, failed]
          rfl

theorem layerEntries_ok (properties : Fields) (entries : List Value) (read : layerEntries properties = .ok entries) :
    entries = [] ∨ Table.find? properties "Layers" = some (.arr entries) := by
  unfold layerEntries at read
  cases found : Table.find? properties "Layers" with
  | none =>
      rw [found] at read
      cases read
      exact Or.inl rfl
  | some value =>
      rw [found, Option.getD_some, Value.orElse] at read
      by_cases given : value.given = true
      · rw [if_pos given] at read
        cases value with
        | arr items =>
            cases read
            exact Or.inr rfl
        | str _ =>
            cases read
            exact Or.inl rfl
        | obj _ =>
            cases read
            exact Or.inl rfl
        | _ => cases read
      · rw [if_neg given] at read
        cases read
        exact Or.inl rfl

/-- A digest reads properties only for what counts for a version, and a graph only for the layers in them. -/
theorem digest_congr (files : Files) (generation : Generation) (layerArtifact : String → Result String)
    (properties others : Fields) (first second : Graph) (artifact imageDigest : Option String)
    (canonical : canonicalProperties properties imageDigest.isSome = canonicalProperties others imageDigest.isSome)
    (agree : ∀ entries, Table.find? properties "Layers" = some (.arr entries) →
      ∀ entry ∈ entries, ∀ id, entry.field? "Ref" = some (.str id) →
        (first.find? id).map (layerSnapshot layerArtifact id) = (second.find? id).map (layerSnapshot layerArtifact id)) :
    digest files generation layerArtifact properties first artifact imageDigest =
      digest files generation layerArtifact others second artifact imageDigest := by
  have listed : Table.find? others "Layers" = Table.find? properties "Layers" := by
    rw [← canonicalProperties_find? others imageDigest.isSome "Layers" (by decide), ← canonical,
      canonicalProperties_find? properties imageDigest.isSome "Layers" (by decide)]
  have same : layerSnapshots layerArtifact properties first = layerSnapshots layerArtifact others second := by
    have entries : layerEntries others = layerEntries properties := by rw [layerEntries, layerEntries, listed]
    rw [layerSnapshots, layerSnapshots, entries]
    cases read : layerEntries properties with
    | error _ => rfl
    | ok entries =>
        change snapshotsOf layerArtifact first entries = snapshotsOf layerArtifact second entries
        rcases layerEntries_ok properties entries read with rfl | listed
        · rfl
        · exact snapshotsOf_congr layerArtifact first second entries (agree entries listed)
  rw [digest, digest, same, canonical]

end Version

/-- What is held in the place of a function has no layers but those of its settings. -/
theorem Plan.fits_layers {plan : Plan} {blueprint : Blueprint} {session : RegistrySession} {graph : Graph}
    (makes : blueprint.Makes session graph plan) (own : ∀ value ∈ plan.function.written, value.isProper = true)
    (shared : ∀ value ∈ blueprint.provider.written, value.isProper = true) (held : Resource)
    (fits : held.Fits (plan.compute blueprint)) (fields : Fields) (table : held.properties = .obj fields)
    (entries : List Value) (listed : Table.find? fields "Layers" = some (.arr entries)) (entry : Value)
    (member : entry ∈ entries) (id : String) (refers : entry.field? "Ref" = some (.str id)) :
    id ∈ Blueprint.layerIds plan.function blueprint.provider := by
  have runsAs := Role.ofFunction_proper plan.function blueprint.provider plan.role own shared makes.role
  have settings := Compute.properties_layers plan.function blueprint.provider own shared blueprint.service
    blueprint.enforce plan.name plan.code plan.role (Compute.code_tidy _ _ _ _ _ makes.code) runsAs.1
  have whole := Compute.resource_properties blueprint.service blueprint.provider blueprint.enforce plan.name
    plan.function plan.code plan.role
  have declared : ∃ items, (plan.function.layers <|> blueprint.provider.layers) = some items ∧
      ∃ item ∈ items, item.field? "Ref" = some (.str id) := by
    rcases fits with rfl | equal
    · rw [compute, whole] at table
      cases table
      obtain ⟨items, same, given⟩ := settings _ listed
      cases same
      exact ⟨entries, given, entry, member, refers⟩
    · simp only [Resource.same, Bool.and_eq_true] at equal
      have properties := equal.1.1.1.2
      rw [compute, whole, table] at properties
      obtain ⟨other, found, alike⟩ := same_field? properties "Layers" listed
      obtain ⟨items, same, given⟩ := settings other found
      subst same
      obtain ⟨others, same, each⟩ := same_arr alike
      cases same
      obtain ⟨item, inside, equal⟩ := forall₂_mem_left each entry member
      obtain ⟨name, named, text⟩ := same_field? equal "Ref" refers
      rw [same_str text] at named
      exact ⟨items, given, item, inside, named⟩
  obtain ⟨items, given, item, inside, named⟩ := declared
  rw [Blueprint.layerIds, given, Option.getD_some, List.mem_filterMap]
  exact ⟨item, inside, by rw [named]; rfl⟩

namespace Blueprint

variable {blueprint : Blueprint}

/-- A plan can be made from another graph as well, if that holds the same function and the same layers for it. -/
theorem Makes.moved {plan : Plan} {first second : RegistrySession} {graph other : Graph}
    (makes : blueprint.Makes first graph plan) (own : ∀ value ∈ plan.function.written, value.isProper = true)
    (shared : ∀ value ∈ blueprint.provider.written, value.isProper = true)
    (alike : blueprint.registry.Alike first second) (held : Resource)
    (found : graph.find? (Naming.function plan.name) = some held) (fits : held.Fits (plan.compute blueprint))
    (kept : other.find? (Naming.function plan.name) = some held)
    (agree : ∀ id ∈ layerIds plan.function blueprint.provider, graph.find? id = other.find? id) :
    blueprint.Makes second other plan := by
  have digests : blueprint.versionDigest plan.name plan.code graph = blueprint.versionDigest plan.name plan.code other := by
    rw [versionDigest, versionDigest, found, kept]
    cases table : held.properties with
    | obj fields =>
        simp only [Option.bind_some, table, fields?]
        refine Version.digest_congr _ _ _ _ _ _ _ _ _ rfl fun entries listed entry member id refers => ?_
        rw [agree id (Plan.fits_layers makes own shared held fits fields table entries listed entry member id refers)]
    | _ => simp only [Option.bind_some, table, fields?]
  exact {
    checked := makes.checked
    role := makes.role
    code := (blueprint.codeFrom_alike plan.name plan.function first second alike).symm.trans makes.code
    mounted := makes.mounted
    published := fun versioned => by
      rw [← digests]
      exact makes.published versioned
    plain := makes.plain
    targets := makes.targets }

/-- The layers of functions lie outside what is placed between two graphs. -/
def LayersApart (blueprint : Blueprint) (before after : Graph) (functions : List (String × FunctionConfig)) : Prop :=
  ∀ name function, (name, function) ∈ functions → ∀ id ∈ layerIds function blueprint.provider,
    id ≠ defaultExecutionRole ∧ (after.has id = true → before.has id = true)

instance (blueprint : Blueprint) (before after : Graph) (functions : List (String × FunctionConfig)) :
    Decidable (blueprint.LayersApart before after functions) :=
  decidable_of_iff (∀ entry ∈ functions, ∀ id ∈ layerIds entry.2 blueprint.provider,
    id ≠ defaultExecutionRole ∧ (after.has id = true → before.has id = true)) Prod.forall

end Blueprint

namespace Graph

theorem has_false (graph : Graph) (id : String) : graph.has id = false ↔ graph.find? id = none :=
  Option.isSome_eq_false_iff.trans Option.isNone_iff_eq_none

theorem Grows.has {graph after : Graph} {placements : Table Resource} (grows : Grows graph after placements) (id : String)
    (apart : id ≠ defaultExecutionRole) (present : graph.has id = true) : after.find? id = graph.find? id := by
  obtain ⟨held, found⟩ := Option.isSome_iff_exists.mp present
  rw [grows.lookup id apart, Table.find?_append, find?, found]
  rfl

/-- What is in a graph and was there before is the same in between. -/
theorem Grows.between {before graph after : Graph} {earlier later : Table Resource} (one : Grows before graph earlier)
    (two : Grows graph after later) (id : String) (apart : id ≠ defaultExecutionRole)
    (known : after.has id = true → before.has id = true) : graph.find? id = after.find? id := by
  by_cases there : graph.has id = true
  · exact (two.has id apart there).symm
  · by_cases present : after.has id = true
    · have first := one.has id apart (known present)
      rw [has_false _ _ |>.mp (by simpa using there)] at first
      have free := (has_false before id).mpr first.symm
      rw [known present] at free
      cases free
    · rw [(has_false _ _).mp (by simpa using there), (has_false _ _).mp (by simpa using present)]

end Graph

namespace Blueprint

variable {blueprint : Blueprint}

/-- A plan can be made in the middle of a course exactly if it can be made at its end. -/
theorem Makes.middle_iff {plan : Plan} {rest : List Move} {first second : RegistrySession} {w middle left : Workspace}
    (own : ∀ value ∈ plan.function.written, value.isProper = true)
    (shared : ∀ value ∈ blueprint.provider.written, value.isProper = true)
    (regular : ∀ move ∈ rest, move.Regular) (alike : blueprint.registry.Alike first second)
    (opened : Yields (performAll (plan.opening blueprint)) w () middle)
    (finished : Yields (performAll (plan.finishing ++ rest)) middle () left)
    (layers : ∀ id ∈ layerIds plan.function blueprint.provider,
      id ≠ defaultExecutionRole ∧ (left.graph.has id = true → w.graph.has id = true)) :
    blueprint.Makes first middle.graph plan ↔ blueprint.Makes second left.graph plan := by
  have moves := plan.moves_regular blueprint
  have one := performAll_ok _ (fun move member => moves move (List.mem_append_left _ member)) w middle opened
  have two := performAll_ok _ (fun move member => (List.mem_append.mp member).elim
    (fun own => moves move (List.mem_append_right _ own)) (regular move)) middle left finished
  have places : plan.Places blueprint .compute (Naming.function plan.name) (plan.compute blueprint) := .compute
  have placed : (Naming.function plan.name, plan.compute blueprint) ∈ (plan.opening blueprint).flatMap Move.placed := by
    simp [Plan.opening, Move.placed]
  obtain ⟨held, found, fits⟩ := one.grows.fits _ _ placed
  have kept : left.graph.find? (Naming.function plan.name) = some held := by
    rw [two.grows.has _ places.ne_role ((Option.isSome_iff_exists).mpr ⟨held, found⟩), found]
  have agree (id : String) (member : id ∈ layerIds plan.function blueprint.provider) :
      middle.graph.find? id = left.graph.find? id :=
    one.grows.between two.grows id (layers id member).1 (layers id member).2
  constructor
  · intro makes
    exact makes.moved own shared alike held found fits kept agree
  · intro makes
    exact makes.moved own shared alike.symm held kept fits found fun id member => (agree id member).symm

theorem compileEach_cons (blueprint : Blueprint) (name : String) (function : FunctionConfig)
    (rest : List (String × FunctionConfig)) (w left : Workspace) :
    Yields (blueprint.compileEach ((name, function) :: rest)) w () left ↔
      ∃ compiled between, Yields (blueprint.compileFunction name function) w compiled between ∧
        Yields (blueprint.compileEach rest) { between with compiled := between.compiled ++ [compiled] } () left := by
  simp only [compileEach, Build.yields_bind (Build.forFunction name _), Build.yields_modify_bind,
    Build.yields_forFunction]

end Blueprint

def Plan.entry (plan : Plan) : String × FunctionConfig := (plan.name, plan.function)

namespace Blueprint

def course (blueprint : Blueprint) (plans : List Plan) : List Move := plans.flatMap (·.moves blueprint)

theorem course_regular (blueprint : Blueprint) (plans : List Plan) : ∀ move ∈ blueprint.course plans, move.Regular := by
  intro move member
  obtain ⟨plan, _, listed⟩ := List.mem_flatMap.mp member
  exact plan.moves_regular blueprint move listed

theorem LayersApart.mono {blueprint : Blueprint} {before after : Graph} {functions fewer : List (String × FunctionConfig)}
    (layers : blueprint.LayersApart before after functions) (within : fewer ⊆ functions) :
    blueprint.LayersApart before after fewer :=
  fun name function member => layers name function (within member)

/-- What has grown in between keeps the layers apart from what is still to come. -/
theorem LayersApart.later {blueprint : Blueprint} {before between after : Graph} {placements : Table Resource}
    {functions : List (String × FunctionConfig)} (layers : blueprint.LayersApart before after functions)
    (grows : before.Grows between placements) : blueprint.LayersApart between after functions := by
  intro name function member id listed
  obtain ⟨elsewhere, known⟩ := layers name function member id listed
  exact ⟨elsewhere, fun present =>
    (congrArg Option.isSome (grows.has id elsewhere (known present))).trans (known present)⟩

section Course

variable (blueprint : Blueprint) (functions : List (String × FunctionConfig)) (w left : Workspace)

/-- Functions that compile have plans, and their compilation is the course of these plans. Each plan was made on the way; if
what users write is proper, it can be made from what the course leaves behind, unless a layer of its function is placed on the
way. -/
theorem compileEach_plans (compiles : Yields (blueprint.compileEach functions) w () left) :
    ∃ plans : List Plan, plans.map Plan.entry = functions ∧
      (∀ plan ∈ plans, ∃ session graph, blueprint.Makes session graph plan) ∧
      (∀ plan ∈ plans, (∀ value ∈ plan.function.written, value.isProper = true) →
        (∀ value ∈ blueprint.provider.written, value.isProper = true) →
        blueprint.LayersApart w.graph left.graph [plan.entry] → blueprint.Makes left.registry left.graph plan) ∧
      Yields (performAll (blueprint.course plans)) w () (left.aside w.registry w.compiled) ∧
      left.compiled = w.compiled ++ plans.map Plan.record ∧
      left.registry = blueprint.sessionAfter functions w.registry := by
  induction functions generalizing w with
  | nil =>
      obtain ⟨-, rfl⟩ := (Build.yields_pure _ _ _ _).mp compiles
      exact ⟨[], rfl, fun _ member => (by cases member), fun _ member => (by cases member),
        (yields_performAll_nil _ _).mpr rfl, (List.append_nil _).symm, rfl⟩
  | cons entry rest ih =>
      obtain ⟨name, function⟩ := entry
      obtain ⟨compiled, between, first, last⟩ := (compileEach_cons _ _ _ _ _ _).mp compiles
      obtain ⟨plan, middle, rfl, rfl, makes, opened, finished, rfl⟩ :=
        (compileFunction_iff blueprint name function w between compiled).mp first
      have moved := (yields_performAll_append _ _ _ _).mpr ⟨middle, opened, finished⟩
      have done := performAll_ok _ (plan.moves_regular blueprint) _ _ moved
      have registry : between.registry = (blueprint.codeFrom plan.name plan.function w.registry).2 := done.registry
      have compiled : between.compiled = w.compiled := done.compiled
      obtain ⟨plans, rfl, once, made, performed, records, session⟩ :=
        ih { between with compiled := between.compiled ++ [plan.record] } last
      have alike : blueprint.registry.Alike w.registry left.registry := by
        rw [session, registry]
        exact (blueprint.codeFrom_session _ _ _).trans (blueprint.sessionAfter_alike _ _)
      have after : Yields (performAll (blueprint.course plans)) between ()
          (left.aside between.registry between.compiled) :=
        (performAll_aside between.registry between.compiled _ _ _ performed :)
      have whole := (yields_performAll_append _ _ _ _).mpr ⟨between, finished, after⟩
      have step : Yields (performAll (plan.moves blueprint)) w () (between.aside w.registry w.compiled) :=
        (performAll_aside w.registry w.compiled _ _ _ moved :)
      have rest : Yields (performAll (blueprint.course plans)) (between.aside w.registry w.compiled) ()
          (left.aside w.registry w.compiled) := (performAll_aside w.registry w.compiled _ _ _ performed :)
      refine ⟨plan :: plans, rfl, List.forall_mem_cons.mpr ⟨⟨_, _, makes⟩, once⟩,
        List.forall_mem_cons.mpr ⟨fun own shared layers => ?_, fun other member own shared layers => ?_⟩,
        (yields_performAll_append _ _ _ _).mpr ⟨_, step, rest⟩, ?_, ?_⟩
      · exact (Makes.middle_iff own shared (blueprint.course_regular plans) alike opened whole
          (layers plan.name plan.function (List.mem_singleton.mpr rfl))).mp makes
      · exact made other member own shared (layers.later done.grows)
      · rw [records, compiled, List.map_cons, List.append_assoc, List.singleton_append]
      · rw [session, registry, sessionAfter]

variable (own : ∀ name function, (name, function) ∈ functions → ∀ value ∈ function.written, value.isProper = true)
  (shared : ∀ value ∈ blueprint.provider.written, value.isProper = true)

include own shared

/-- Functions compile exactly if there are plans for them that can be made from what the course of their moves leaves
behind, as long as no layer of theirs is placed in between. -/
theorem compileEach_iff (layers : blueprint.LayersApart w.graph left.graph functions) :
    Yields (blueprint.compileEach functions) w () left ↔
      ∃ plans : List Plan, plans.map Plan.entry = functions ∧
        (∀ plan ∈ plans, blueprint.Makes left.registry left.graph plan) ∧
        Yields (performAll (blueprint.course plans)) w () (left.aside w.registry w.compiled) ∧
        left.compiled = w.compiled ++ plans.map Plan.record ∧
        left.registry = blueprint.sessionAfter functions w.registry := by
  constructor
  · intro compiles
    obtain ⟨plans, rfl, -, made, course⟩ := compileEach_plans blueprint functions w left compiles
    have declared (plan : Plan) (member : plan ∈ plans) : plan.entry ∈ plans.map Plan.entry := List.mem_map_of_mem member
    refine ⟨plans, rfl, fun plan member => made plan member (own _ _ (declared plan member)) shared
      (layers.mono fun entry listed => ?_), course⟩
    rw [List.mem_singleton.mp listed]
    exact declared plan member
  rintro ⟨plans, rfl, makes, performed, records, session⟩
  induction plans generalizing w with
  | nil =>
      have compiled : left.compiled = w.compiled := records.trans (List.append_nil _)
      have registry : left.registry = w.registry := session
      have same := (yields_performAll_nil _ _).mp performed
      rw [← compiled, ← registry] at same
      exact (Build.yields_pure _ _ _ _).mpr ⟨rfl, same⟩
  | cons plan plans ih =>
      obtain ⟨made, makes⟩ := List.forall_mem_cons.mp makes
      obtain ⟨between, moved, performed⟩ := (yields_performAll_append _ _ _ _).mp performed
      obtain ⟨middle, opened, finished⟩ := (yields_performAll_append _ _ _ _).mp moved
      have done := performAll_ok _ (plan.moves_regular blueprint) _ _ moved
      have known := blueprint.codeFrom_session plan.name plan.function w.registry
      have alike : blueprint.registry.Alike w.registry left.registry := by
        rw [session]
        exact known.trans (blueprint.sessionAfter_alike _ _)
      have whole := (yields_performAll_append _ _ _ _).mpr ⟨between, finished, performed⟩
      have proper := own plan.name plan.function (List.mem_cons_self ..)
      have apart := layers plan.name plan.function (List.mem_cons_self ..)
      have first := (Makes.middle_iff proper shared (blueprint.course_regular plans) alike opened whole apart).mpr made
      generalize next : (blueprint.codeFrom plan.name plan.function w.registry).2 = asked at known
      have compiles : Yields (blueprint.compileFunction plan.name plan.function) w plan.record
          (between.aside asked w.compiled) := by
        refine (compileFunction_iff blueprint plan.name plan.function w _ _).mpr
          ⟨plan, middle.aside asked w.compiled, rfl, rfl, first, ?_, ?_, rfl⟩
        · rw [next]
          exact performAll_aside asked w.compiled _ _ _ opened
        · exact performAll_aside asked w.compiled _ _ _ finished
      refine (compileEach_cons _ _ _ _ _ _).mpr ⟨plan.record, between.aside asked w.compiled, compiles, ?_⟩
      have others := layers.mono (List.subset_cons_self _ _)
      refine ih (between.aside asked (w.compiled ++ [plan.record])) (fun other settings member => own other settings
        (List.mem_cons_of_mem _ member)) (others.later done.grows) makes ?_ ?_ ?_
      · exact (performAll_aside _ _ _ _ _ performed :)
      · rw [records, List.map_cons, Workspace.aside, List.append_assoc, List.singleton_append]
      · rw [session, ← next]
        rfl

end Course

variable {blueprint : Blueprint}

/-- Only the code of a plan is asked for anew. -/
theorem Makes.recalled {plan : Plan} {first second : RegistrySession} {graph : Graph}
    (makes : blueprint.Makes first graph plan) (alike : blueprint.registry.Alike first second) :
    blueprint.Makes second graph plan :=
  { makes with code := (blueprint.codeFrom_alike plan.name plan.function first second alike).symm.trans makes.code }

/-- The plans of a course with what users write being proper. -/
structure Sound (blueprint : Blueprint) (session : RegistrySession) (graph : Graph) (plans : List Plan) : Prop where
  shared : ∀ value ∈ blueprint.provider.written, value.isProper = true
  makes : ∀ plan ∈ plans, blueprint.Makes session graph plan
  own : ∀ plan ∈ plans, ∀ value ∈ plan.function.written, value.isProper = true

theorem Sound.proper {session : RegistrySession} {graph : Graph} {plans : List Plan}
    (sound : blueprint.Sound session graph plans) : ∀ move ∈ blueprint.course plans, move.Proper := by
  intro move member
  obtain ⟨plan, planned, inside⟩ := List.mem_flatMap.mp member
  exact Plan.moves_proper (sound.makes plan planned) (sound.own plan planned) move inside

theorem Sound.asked {session : RegistrySession} {graph : Graph} {plans : List Plan}
    (sound : blueprint.Sound session graph plans) (granted : List (String × String)) :
    ∀ statement ∈ Move.asked granted (blueprint.course plans), statement.isProper = true := by
  intro statement member
  obtain ⟨move, listed, asks⟩ := Move.asked_mem granted _ statement member
  exact (sound.proper move listed).statement statement asks

theorem course_placed (blueprint : Blueprint) (plans : List Plan) (id : String) (resource : Resource) :
    (id, resource) ∈ (blueprint.course plans).flatMap Move.placed ↔
      ∃ plan ∈ plans, ∃ kind, plan.Places blueprint kind id resource := by
  simp only [course, List.flatMap_assoc, List.mem_flatMap (l := plans), Plan.places_iff]

theorem Sound.placed {session : RegistrySession} {graph : Graph} {plans : List Plan}
    (sound : blueprint.Sound session graph plans) (id : String) (resource : Resource)
    (member : (id, resource) ∈ (blueprint.course plans).flatMap Move.placed) : resource.IsProper := by
  obtain ⟨plan, planned, kind, places⟩ := (course_placed blueprint plans id resource).mp member
  exact places.isProper (sound.makes plan planned) (sound.own plan planned) sound.shared

section Elsewhere

variable {session other : RegistrySession} {plans : List Plan} {before after graph : Graph}
  (grows : before.Grows after ((blueprint.course plans).flatMap Move.placed)) (plan : Plan) (planned : plan ∈ plans)

include grows planned

/-- What a function is compiled into stands in its place. -/
theorem course_compute :
    ∃ held, after.find? (Naming.function plan.name) = some held ∧ held.Fits (plan.compute blueprint) :=
  grows.fits _ _ ((course_placed blueprint plans _ _).mpr ⟨plan, planned, .compute, .compute⟩)

/-- A plan of a course can be made from another graph too that holds the same function and layers. -/
theorem Sound.makes_elsewhere (sound : blueprint.Sound session after plans) (alike : blueprint.registry.Alike session other)
    (kept : graph.find? (Naming.function plan.name) = after.find? (Naming.function plan.name))
    (agree : ∀ id ∈ layerIds plan.function blueprint.provider, after.find? id = graph.find? id) :
    blueprint.Makes other graph plan := by
  obtain ⟨held, found, fits⟩ := course_compute grows plan planned
  exact (sound.makes plan planned).moved (sound.own plan planned) sound.shared alike held found fits (kept.trans found) agree

end Elsewhere

end Blueprint

end FunctionStack
