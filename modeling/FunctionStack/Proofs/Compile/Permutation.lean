import FunctionStack.Proofs.Compile.Whole
import FunctionStack.Proofs.Template.Reordering

/-!
Functions declared in another order. They compile into the same resources and outputs, and the default role holds the same
statements in another order.
-/

namespace FunctionStack

open Build (performAll_ok performAll_succeeds)

/-- Each plan is for a function with a normalized name of its own. -/
def Plan.Apart (plans : List Plan) : Prop := (plans.map fun plan => Naming.normalized plan.name).Nodup

theorem Plan.apart_iff (plans : List Plan) : Plan.Apart plans ↔ Naming.Distinct (plans.map Plan.entry) := by
  rw [Plan.Apart, Naming.Distinct, List.map_map]
  rfl

namespace Blueprint

variable {blueprint : Blueprint} {plans turned : List Plan}

/-- A resource that fits another one in its place is that one: both belong to one function and are of one kind. -/
theorem placed_once (names : Plan.Apart plans) (id : String) (held resource : Resource)
    (one : (id, held) ∈ (blueprint.course plans).flatMap Move.placed)
    (two : (id, resource) ∈ (blueprint.course plans).flatMap Move.placed) (fits : held.Fits resource) :
    held = resource := by
  rcases fits with rfl | equal
  · rfl
  · obtain ⟨first, planned, kind, places⟩ := (course_placed blueprint plans id held).mp one
    obtain ⟨second, listed, other, there⟩ := (course_placed blueprint plans id resource).mp two
    have plan := List.inj_on_of_nodup_map names planned listed (places.normalized there equal)
    have kinds := places.kind_eq there equal
    subst plan kinds
    exact (places.unique there).2

theorem exposed_once (names : Plan.Apart plans) (key : String) (output other : Value)
    (one : (key, output) ∈ (blueprint.course plans).flatMap Move.exposed)
    (two : (key, other) ∈ (blueprint.course plans).flatMap Move.exposed) : output = other := by
  have exposed (value : Value) (member : (key, value) ∈ (blueprint.course plans).flatMap Move.exposed) :
      ∃ plan ∈ plans, ∃ own description, plan.Exposes key own description ∧
        value = .obj [("Description", .str description), ("Value", own)] := by
    rw [course, List.flatMap_assoc] at member
    obtain ⟨plan, planned, inside⟩ := List.mem_flatMap.mp member
    obtain ⟨own, description, exposes, same⟩ := plan.exposes_ok blueprint key value inside
    exact ⟨plan, planned, own, description, exposes, same⟩
  obtain ⟨first, planned, value, description, exposes, rfl⟩ := exposed output one
  obtain ⟨second, listed, part, text, there, rfl⟩ := exposed other two
  have apart (a b : String) : Naming.versionOutput a ≠ Naming.urlOutput b :=
    Naming.endings_apart _ _ _ _ 3 (by decide) (by decide)
  cases exposes with
  | version digest published =>
      generalize same : Naming.versionOutput first.name = taken at there
      cases there with
      | version own known =>
          have name := Naming.suffix_cancel _ _ _ (Naming.suffix_cancel _ _ _ same)
          have plan := List.inj_on_of_nodup_map names planned listed name
          subst plan
          rw [published] at known
          cases known
          rfl
      | url => exact absurd same (apart _ _)
  | url =>
      generalize same : Naming.urlOutput first.name = taken at there
      cases there with
      | version => exact absurd same.symm (apart _ _)
      | url =>
          have name := Naming.suffix_cancel _ _ _ (Naming.suffix_cancel _ _ _ same)
          have plan := List.inj_on_of_nodup_map names planned listed name
          subst plan
          rfl

/-- What is held for a plan: what was there before, or else the very resource that the plan places. -/
theorem course_held (names : Plan.Apart plans) {before after : Graph}
    (grows : before.Grows after ((blueprint.course plans).flatMap Move.placed)) {plan : Plan} (planned : plan ∈ plans)
    {kind : Plan.Kind} {id : String} {resource : Resource} (places : plan.Places blueprint kind id resource) :
    after.find? id = some ((before.find? id).getD resource) := by
  have listed := (course_placed blueprint plans id resource).mpr ⟨plan, planned, kind, places⟩
  have lookup := grows.lookup id places.ne_role
  rw [Table.find?_append] at lookup
  cases known : before.find? id with
  | some held =>
      rw [Graph.find?] at known
      rw [lookup, known]
      rfl
  | none =>
      obtain ⟨held, found, fits⟩ := grows.fits id resource listed
      rw [Graph.find?] at known
      rw [lookup, known, Option.none_or] at found
      rw [lookup, known, Option.none_or, found,
        placed_once names id held resource (Table.find?_some_mem _ _ _ found) listed fits]
      rfl

/-- Another order of the plans leads to the same resources. -/
theorem course_lookup (names : Plan.Apart plans) (permuted : turned.Perm plans) (w left : Workspace) (next : Graph)
    (performed : Performed w left (blueprint.course plans)) (agrees : w.graph.Agrees next) (id : String)
    (apart : id ≠ defaultExecutionRole) :
    Table.find? (next.resources ++ (blueprint.course turned).flatMap Move.placed) id = left.graph.find? id := by
  have before := agrees id
  rw [Graph.find?, Graph.find?] at before
  rw [performed.grows.lookup id apart, Table.find?_append, Table.find?_append, before]
  cases known : Table.find? w.graph.resources id with
  | some _ => rfl
  | none =>
      rw [Option.none_or, Option.none_or]
      refine Table.find?_unique _ _ id (fun resource => ?_) fun value other one two => ?_
      · simp only [course_placed, permuted.mem_iff]
      · have held (value : Resource) (member : (id, value) ∈ (blueprint.course plans).flatMap Move.placed) :
            left.graph.find? id = some value := by
          obtain ⟨plan, planned, kind, places⟩ := (course_placed blueprint plans id value).mp member
          rw [course_held names performed.grows planned places, Graph.find?, known]
          rfl
        exact Option.some.inj ((held value one).symm.trans (held other two))

theorem course_outputs (names : Plan.Apart plans) (permuted : turned.Perm plans) (outputs : Fields) (key : String) :
    Table.find? (Table.merge outputs ((blueprint.course turned).flatMap Move.exposed)) key =
      Table.find? (Table.merge outputs ((blueprint.course plans).flatMap Move.exposed)) key := by
  rw [Table.find?_merge, Table.find?_merge]
  congr 1
  refine Table.find?_unique _ _ key (fun value => ?_) fun value other one two => ?_
  · have moves : (blueprint.course turned).Perm (blueprint.course plans) := permuted.flatMap_right _
    rw [List.mem_reverse, List.mem_reverse, (moves.flatMap_right _).mem_iff]
  · exact exposed_once names key value other (List.mem_reverse.mp one) (List.mem_reverse.mp two)

/-- The policy is asked for the same, whatever the order: what is in one list of statements is in the other. -/
theorem course_asked {session : RegistrySession} {graph : Graph} (sound : blueprint.Sound session graph turned)
    (permuted : turned.Perm plans) (known : List Value) (proper : ∀ statement ∈ known, statement.isProper = true) :
    ∀ statement ∈ (Move.asked [] (blueprint.course plans)).foldl Statements.add known,
      statement.isIn ((Move.asked [] (blueprint.course turned)).foldl Statements.add known) = true := by
  intro statement member
  rcases Statements.mem_foldl_add known _ statement member with before | asked
  · refine Statements.foldl_add_isIn known _ statement (List.any_eq_true.mpr ⟨statement, before, ?_⟩)
    exact Value.same_refl statement (proper statement before)
  · obtain ⟨move, listed, asks⟩ := Move.asked_mem [] _ statement asked
    have moves : (blueprint.course turned).Perm (blueprint.course plans) := permuted.flatMap_right _
    exact Move.asked_covers [] _ known sound.proper (fun _ _ granted => by cases granted) move (moves.mem_iff.mpr listed)
      statement asks

/-- Nothing is asked for in one order if nothing is in the other. -/
theorem course_quiet {session : RegistrySession} {graph : Graph} (sound : blueprint.Sound session graph turned)
    (permuted : turned.Perm plans) (quiet : Move.asked [] (blueprint.course turned) = []) :
    Move.asked [] (blueprint.course plans) = [] := by
  have asked := course_asked sound permuted [] (fun _ member => by cases member)
  rw [quiet, List.foldl_nil] at asked
  rw [List.eq_nil_iff_forall_not_mem]
  intro statement member
  obtain ⟨move, listed, asks⟩ := Move.asked_mem [] _ statement member
  have moves : (blueprint.course turned).Perm (blueprint.course plans) := permuted.flatMap_right _
  have there := Move.asked_covers [] _ [] sound.proper (fun _ _ granted => by cases granted) move
    (moves.mem_iff.mpr listed) statement asks
  rw [quiet] at there
  cases there

end Blueprint

/-- A policy that is asked for the same in another order keeps the same. -/
theorem Answered.restated {w left next last : Workspace} {asked others : List Value} (one : Answered w left asked)
    (two : Answered next last others) (policy : next.policy = w.policy)
    (role : next.graph.find? defaultExecutionRole = w.graph.find? defaultExecutionRole) (quiet : others = [] ↔ asked = [])
    (same : asked ≠ [] → ∀ statements, ExecutionPolicy.Keeps w.graph statements →
      (∀ statement ∈ asked.foldl Statements.add statements, statement.isIn (others.foldl Statements.add statements) = true) ∧
      ∀ statement ∈ others.foldl Statements.add statements, statement.isIn (asked.foldl Statements.add statements) = true) :
    Option.Rel Resource.Restated (left.graph.find? defaultExecutionRole) (last.graph.find? defaultExecutionRole) := by
  have equal (kept : left.graph.find? defaultExecutionRole = w.graph.find? defaultExecutionRole)
      (still : last.graph.find? defaultExecutionRole = next.graph.find? defaultExecutionRole) :
      Option.Rel Resource.Restated (left.graph.find? defaultExecutionRole) (last.graph.find? defaultExecutionRole) := by
    rw [still, role, ← kept]
    cases left.graph.find? defaultExecutionRole with
    | none => exact .none
    | some _ => exact .some .same
  cases one.both two policy quiet with
  | kept _ _ kept still => exact equal kept still
  | apart _ _ _ kept still => exact equal kept still
  | inRole statements known own other asks found present held list _ _ changed grown =>
      rw [role, found] at present
      cases present
      rw [held] at list
      cases list
      obtain ⟨here, there⟩ := same asks statements ⟨own, found, held⟩
      rw [changed, grown]
      exact .some (own.restated statements _ _ held here there)

namespace Blueprint

variable {blueprint : Blueprint} {plans turned : List Plan} {session : RegistrySession} {graph : Graph}

theorem Sound.permuted (sound : blueprint.Sound session graph plans) (permuted : turned.Perm plans) :
    blueprint.Sound session graph turned :=
  ⟨sound.shared, fun plan member => sound.makes plan (permuted.mem_iff.mp member),
    fun plan member => sound.own plan (permuted.mem_iff.mp member)⟩

end Blueprint

/-- Two starts of a compilation that differ in the order of the resources only. -/
structure Workspace.Begins (w next : Workspace) (exposed : Fields) : Prop where
  agrees : w.graph.Agrees next.graph
  policy : next.policy = w.policy
  granted : w.granted = [] ∧ next.granted = []
  outputs : w.graph.outputs = .obj exposed ∧ next.graph.outputs = .obj exposed
  keys : (Table.keys exposed).Nodup
  ids : w.graph.ids.Nodup ∧ next.graph.ids.Nodup

namespace Blueprint

variable {blueprint : Blueprint} {plans turned : List Plan} {session : RegistrySession} {graph : Graph}
  {w left next last : Workspace} {exposed : Fields} (sound : blueprint.Sound session graph plans)
  (names : Plan.Apart plans) (permuted : turned.Perm plans) (performed : Performed w left (blueprint.course plans))
  (begins : w.Begins next exposed)

include sound names permuted performed begins

/-- The moves of a course can be made in another order. -/
theorem Sound.performable_permuted : Performable next (blueprint.course turned) where
  answerable := by
    rw [begins.granted.2]
    by_cases quiet : Move.asked [] (blueprint.course plans) = []
    · exact Or.inr (course_quiet sound permuted.symm quiet)
    · refine Or.inl ?_
      have takes := performed.answered.asked_takes (by rwa [begins.granted.1])
      unfold Workspace.TakesStatements ExecutionPolicy.Keeps at takes ⊢
      rwa [begins.policy, begins.agrees]
  outputs := fun _ _ _ _ => ⟨exposed, begins.outputs.2⟩
  fits := by
    intro id resource member held found
    obtain ⟨plan, planned, kind, places⟩ := (course_placed blueprint turned id resource).mp member
    have listed := (course_placed blueprint plans id resource).mpr ⟨plan, permuted.mem_iff.mp planned, kind, places⟩
    rw [course_lookup names permuted w left next.graph performed begins.agrees id places.ne_role] at found
    obtain ⟨kept, present, fits⟩ := performed.grows.fits id resource listed
    rw [found] at present
    cases present
    rcases fits with rfl | equal
    · exact (sound.placed id held listed).same_refl
    · exact equal

/-- Whatever order a course is taken in, it leads to the same but for order. -/
theorem Sound.course_reordered (repeated : Performed next last (blueprint.course turned))
    (known : Move.asked [] (blueprint.course plans) ≠ [] → ∀ statements, ExecutionPolicy.Keeps w.graph statements →
      ∀ statement ∈ statements, statement.isProper = true) : left.graph.Reordered last.graph := by
  have lookup (id : String) (apart : id ≠ defaultExecutionRole) : last.graph.find? id = left.graph.find? id := by
    rw [repeated.grows.lookup id apart, course_lookup names permuted w left next.graph performed begins.agrees id apart]
  have one := performed.answered
  have two := repeated.answered
  rw [begins.granted.1] at one
  rw [begins.granted.2] at two
  have quiet : Move.asked [] (blueprint.course turned) = [] ↔ Move.asked [] (blueprint.course plans) = [] :=
    ⟨course_quiet (sound.permuted permuted) permuted, course_quiet sound permuted.symm⟩
  have role := one.restated two begins.policy (begins.agrees _) quiet fun asks statements keeps =>
    ⟨course_asked (sound.permuted permuted) permuted statements (known asks statements keeps),
      course_asked sound permuted.symm statements (known asks statements keeps)⟩
  have has (id : String) : last.graph.has id = left.graph.has id := by
    have present {first second : Option Resource} (related : Option.Rel Resource.Restated first second) :
        second.isSome = first.isSome := by cases related <;> rfl
    by_cases apart : id = defaultExecutionRole
    · exact apart ▸ present role
    · exact congrArg Option.isSome (lookup id apart)
  refine ⟨?_, lookup, role, ?_⟩
  · refine (List.perm_ext_iff_of_nodup (repeated.grows.distinct begins.ids.2)
      (performed.grows.distinct begins.ids.1)).mpr fun id => ?_
    have same := has id
    rwa [Bool.eq_iff_iff, Graph.has, Graph.has, Table.has_iff_keys, Table.has_iff_keys] at same
  · refine ⟨_, _, by rw [performed.outputs, begins.outputs.1]; rfl, by rw [repeated.outputs, begins.outputs.2]; rfl, ?_⟩
    exact Table.perm_of_find? _ _ (Table.keys_merge_nodup _ _ begins.keys) (Table.keys_merge_nodup _ _ begins.keys)
      (course_outputs names permuted exposed)

end Blueprint

/-- Plans for functions in one order, put into another one. -/
theorem Plan.reorder (plans : List Plan) (others : List (String × FunctionConfig))
    (permuted : others.Perm (plans.map Plan.entry)) :
    ∃ turned : List Plan, turned.Perm plans ∧ turned.map Plan.entry = others := by
  have planned : List.Forall₂ (fun entry plan => Plan.entry plan = entry) (plans.map Plan.entry) plans :=
    List.forall₂_map_left_iff.mpr (List.forall₂_same.mpr fun _ _ => rfl)
  obtain ⟨turned, each, same⟩ := List.perm_comp_forall₂ permuted planned
  refine ⟨turned, same, ?_⟩
  have entries : List.Forall₂ (· = ·) (turned.map Plan.entry) others := List.forall₂_map_left_iff.mpr each.flip
  rwa [List.forall₂_eq_eq_eq] at entries

namespace Blueprint

section

variable (service : ServiceConfig) (files : Files) (registry : Registry) (enforce : Bool) (others : Table FunctionConfig)
  (permuted : others.Perm service.functions) (names : Naming.Distinct service.functions)

include permuted names

/-- A plan can be made in whatever order the functions are declared. -/
theorem Makes.reordered {plan : Plan} {session : RegistrySession} {graph : Graph}
    (makes : (ofService service files registry enforce).Makes session graph plan) :
    (ofService (service.withFunctions others) files registry enforce).Makes session graph plan := by
  have resolver (deployed : String → FunctionConfig → String) (owner : String) :
      Destination.resolver others deployed owner = Destination.resolver service.functions deployed owner := by
    funext target
    rw [Destination.resolver, Destination.resolver, Table.find?_perm service.functions others permuted names.keys]
  have read (owner : String) (target : Value) :
      (ofService (service.withFunctions others) files registry enforce).destination owner target =
        (ofService service files registry enforce).destination owner target :=
    congrArg (Destination.classify target owner) (resolver _ owner)
  exact {
    checked := makes.checked
    role := makes.role
    code := makes.code
    mounted := makes.mounted
    published := makes.published
    plain := makes.plain
    targets := makes.targets.imp fun target entry both => ⟨both.1, (read plan.name target.2).trans both.2⟩ }

omit names in
theorem checkArtifacts_permuted : (ofService (service.withFunctions others) files registry enforce).checkArtifacts =
    (ofService service files registry enforce).checkArtifacts := by
  have artifacts : (ofService (service.withFunctions others) files registry enforce).hashedArtifacts.Perm
      (ofService service files registry enforce).hashedArtifacts := (permuted.filter _).map _
  rw [checkArtifacts, checkArtifacts, artifacts.any_eq]

end

/-- Statements that are in the default role before a function asks for one are those of the log groups. -/
theorem Makes.known_proper {service : ServiceConfig} {blueprint : Blueprint} {session : RegistrySession}
    {graph core completed : Graph} {policy : Option ExecutionPolicy} {plans : List Plan}
    (provider : blueprint.provider = service.provider) (entries : plans.map Plan.entry = service.functions)
    (makes : ∀ plan ∈ plans, blueprint.Makes session graph plan) (seeded : Core.graph service = .ok core)
    (bound : ExecutionPolicy.ofGraph core = .ok (completed, policy))
    (asks : Move.asked [] (blueprint.course plans) ≠ []) (statements : List Value)
    (keeps : ExecutionPolicy.Keeps completed statements) : ∀ statement ∈ statements, statement.isProper = true := by
  obtain ⟨asked, member⟩ := List.exists_mem_of_ne_nil _ asks
  obtain ⟨move, listed, asks⟩ := Move.asked_mem [] _ asked member
  obtain ⟨plan, planned, inside⟩ := List.mem_flatMap.mp listed
  have default := plan.asks_default blueprint move inside asked asks
  have declared : plan.entry ∈ service.functions := entries ▸ List.mem_map_of_mem planned
  have found := Core.graph_role service core seeded plan.name plan.function plan.role declared
    (provider ▸ (makes plan planned).role) default
  have completes := Core.completeRole_executionRole service
  have logs : ∀ statement ∈ Core.logStatements service, statement.isProper = true := by
    intro statement member
    simp only [Core.logStatements, List.mem_cons, List.not_mem_nil, or_false] at member
    rcases member with rfl | rfl <;> rfl
  rcases ExecutionPolicy.ofGraph_ok core completed policy bound with ⟨none, _⟩ | ⟨role, properties, present, done, rfl, _⟩
  · rw [found] at none
    cases none
  · rw [found] at present
    cases present
    rw [completes] at done
    cases done
    obtain ⟨held, there, list⟩ := keeps
    rw [ExecutionPolicy.setProperties_find?, found, Option.map_some, if_pos rfl] at there
    cases there
    rw [Core.statementOf_executionRole] at list
    cases list
    exact logs

/-- The core graphs of the same functions in two orders are two starts that differ in order only. -/
theorem begins_permuted {service turned : ServiceConfig} {core other completed next : Graph}
    {policy : Option ExecutionPolicy} (seeded : Core.graph service = .ok core) (again : Core.graph turned = .ok other)
    (exposed : other.outputs = core.outputs) (bound : ExecutionPolicy.ofGraph core = .ok (completed, policy))
    (rebound : ExecutionPolicy.ofGraph other = .ok (next, policy)) (agrees : completed.Agrees next)
    (session : RegistrySession) :
    ∃ fields, Workspace.Begins (.fresh completed policy session) (.fresh next policy session) fields := by
  obtain ⟨distinct, fields, held⟩ := Core.graph_distinct service core seeded
  obtain ⟨unrepeated, _⟩ := Core.graph_distinct turned other again
  obtain ⟨-, outputs⟩ := ExecutionPolicy.ofGraph_keeps core completed policy bound
  obtain ⟨-, kept⟩ := ExecutionPolicy.ofGraph_keeps other next policy rebound
  exact ⟨fields, {
    agrees := agrees
    policy := rfl
    granted := ⟨rfl, rfl⟩
    outputs := ⟨outputs.trans held, kept.trans (exposed.trans held)⟩
    keys := distinct.outputs fields held
    ids := ⟨(ExecutionPolicy.ofGraph_distinct core completed policy bound distinct).ids,
      (ExecutionPolicy.ofGraph_distinct other next policy rebound unrepeated).ids⟩ }⟩

/-- A service that compiles also compiles with its functions in another order, into the same but for order. -/
theorem compile_permuted (service : ServiceConfig) (files : Files) (registry : Registry) (enforce : Bool)
    (others : Table FunctionConfig) (permuted : others.Perm service.functions) (names : Naming.Distinct service.functions)
    (proper : (ofService service files registry enforce).IsProper) (core : Graph) (seeded : Core.graph service = .ok core)
    (session : RegistrySession) (w : Workspace)
    (layers : (ofService service files registry enforce).LayersApart core w.graph service.functions)
    (compiles : (ofService service files registry enforce).compile core session = (.ok (), w)) :
    ∃ other left, Core.graph (service.withFunctions others) = .ok other ∧
      (ofService (service.withFunctions others) files registry enforce).compile other session = (.ok (), left) ∧
      w.graph.Reordered left.graph ∧ left.compiled.Perm w.compiled := by
  obtain ⟨completed, policy, plans, ran⟩ := compile_ran proper compiles
  have sound := ran.sound proper layers
  have entries : plans.map Plan.entry = service.functions := ran.entries
  have apart : Plan.Apart plans := (Plan.apart_iff plans).mpr (entries.symm ▸ names)
  have known : ∀ entry ∈ service.functions, ∃ role, Role.ofFunction entry.2 service.provider = .ok role := by
    intro entry member
    rw [← entries] at member
    obtain ⟨plan, planned, rfl⟩ := List.mem_map.mp member
    exact ⟨plan.role, (sound.makes plan planned).role⟩
  obtain ⟨turned, same, turnedEntries⟩ := Plan.reorder plans others (entries.symm ▸ permuted)
  obtain ⟨other, turnedCore, agrees, exposed⟩ := Core.graph_permuted service others permuted names known core seeded
  obtain ⟨next, rebound, still⟩ := ExecutionPolicy.ofGraph_agrees core other completed policy agrees ran.begins
  obtain ⟨fields, begins⟩ := begins_permuted seeded turnedCore exposed ran.begins rebound still session
  -- The same moves in another order, from a graph that agrees with the first one.
  have regular := (ofService service files registry enforce).course_regular turned
  obtain ⟨last, repeated⟩ := performAll_succeeds _ regular _ (sound.performable_permuted apart same ran.performed begins)
  have two := performAll_ok _ regular _ last repeated
  have reordered : w.graph.Reordered last.graph := (sound.course_reordered apart same ran.performed begins two
    (Makes.known_proper rfl entries sound.makes seeded ran.begins) :)
  have makes (plan : Plan) (member : plan ∈ turned) :
      (ofService (service.withFunctions others) files registry enforce).Makes session last.graph plan := by
    have planned := same.mem_iff.mp member
    have places : plan.Places (ofService service files registry enforce) .compute (Naming.function plan.name)
      (plan.compute _) := .compute
    have moved := sound.makes_elsewhere ran.performed.grows plan planned (.refl _) (reordered.resources _ places.ne_role)
      fun id listed => (reordered.resources id (layers plan.name plan.function (ran.declared plan planned) id listed).1).symm
    exact moved.reordered service files registry enforce others permuted names
  have spared : (ofService (service.withFunctions others) files registry enforce).LayersApart next last.graph others := by
    intro name function member id listed
    obtain ⟨elsewhere, before⟩ := layers.completed ran.begins name function (permuted.mem_iff.mp member) id listed
    exact ⟨elsewhere, fun present =>
      (congrArg Option.isSome (still id)).trans (before ((reordered.has id).symm.trans present))⟩
  have regular : (ofService (service.withFunctions others) files registry enforce).IsProper :=
    ⟨proper.provider, fun name function member => proper.functions name function (permuted.mem_iff.mp member)⟩
  have readable := ran.readable
  rw [← checkArtifacts_permuted service files registry enforce others permuted] at readable
  have closed := reordered.closed (two.grows.distinct begins.ids.2) ran.closed
  obtain ⟨left, made, graphs, -, records⟩ :=
    compile_of_course regular rebound readable turnedEntries spared makes repeated closed
  refine ⟨other, left, turnedCore, made, graphs.symm ▸ reordered, ?_⟩
  rw [records, ran.records]
  exact same.map Plan.record

section

variable (service : ServiceConfig) (files : Files) (registry : Registry) (enforce : Bool) (others : Table FunctionConfig)
  (permuted : others.Perm service.functions) (names : Naming.Distinct service.functions)
  (proper : (ofService service files registry enforce).IsProper)
  (spared : (ofService service files registry enforce).SparesLayers service.functions) (previous : Option Graph)

include permuted names proper spared

theorem compileService_turned (graph : Graph) (records : List CompiledFunction)
    (compiles : ((ofService service files registry enforce).compileService previous).1 = .ok (graph, records)) :
    ∃ other compiled, ((ofService (service.withFunctions others) files registry enforce).compileService previous).1 =
      .ok (other, compiled) ∧ graph.Reordered other ∧ compiled.Perm records := by
  obtain ⟨core, w, seeded, built, rfl, rfl⟩ := (compileService_ok _ _ _ _).mp compiles
  obtain ⟨other, left, turned, made, reordered, same⟩ := compile_permuted service files registry enforce others permuted
    names proper core seeded ⟨[], []⟩ w (spared core seeded w built) built
  refine ⟨_, left.compiled, (compileService_ok _ _ _ _).mpr ⟨other, left, turned, made, rfl, rfl⟩, ?_, same⟩
  cases previous with
  | none => exact reordered
  | some earlier => exact reordered.carry earlier

/-- Whether a service compiles does not depend on the order in which its functions are declared, and what it compiles into
is the same but for order. -/
theorem compileService_permuted
    (turned : (ofService (service.withFunctions others) files registry enforce).SparesLayers others) :
    ((∃ delivered, ((ofService service files registry enforce).compileService previous).1 = .ok delivered) ↔
      ∃ delivered, ((ofService (service.withFunctions others) files registry enforce).compileService previous).1 =
        .ok delivered) ∧
    ∀ graph records other compiled,
      ((ofService service files registry enforce).compileService previous).1 = .ok (graph, records) →
      ((ofService (service.withFunctions others) files registry enforce).compileService previous).1 =
        .ok (other, compiled) →
      graph.Reordered other ∧ compiled.Perm records := by
  have forth := compileService_turned service files registry enforce others permuted names proper spared previous
  have regular : (ofService (service.withFunctions others) files registry enforce).IsProper :=
    ⟨proper.provider, fun name function member => proper.functions name function (permuted.mem_iff.mp member)⟩
  have back := compileService_turned (service.withFunctions others) files registry enforce service.functions permuted.symm
    (names.permuted permuted) regular turned previous
  refine ⟨⟨?_, ?_⟩, fun graph records other compiled first second => ?_⟩
  · rintro ⟨⟨graph, records⟩, compiles⟩
    obtain ⟨other, compiled, again, _⟩ := forth graph records compiles
    exact ⟨_, again⟩
  · rintro ⟨⟨graph, records⟩, compiles⟩
    obtain ⟨other, compiled, again, _⟩ := back graph records compiles
    exact ⟨_, again⟩
  · obtain ⟨same, listed, again, both⟩ := forth graph records first
    rw [second] at again
    cases again
    exact both

end

/-- Two functions, the one that is sent to declared first. -/
theorem gate_permuted : ∃ graph records other compiled,
    ((packaged gate).compileService none).1 = .ok (graph, records) ∧
      ((packaged (gate.withFunctions gate.functions.reverse)).compileService none).1 = .ok (other, compiled) ∧
      graph.Reordered other ∧ compiled.Perm records ∧ records.length = 2 ∧ other.ids ≠ graph.ids := by
  have whole := compileService_permuted gate (packaged gate).files (packaged gate).registry false gate.functions.reverse
    (List.reverse_perm _) (by decide +kernel) (by decide +kernel) (by decide +kernel) none (by decide +kernel)
  have compiles : ((packaged gate).compileService none).1.toBool = true := by decide +kernel
  have order : ((packaged gate).compileService none).1.toOption.all fun first =>
      ((packaged (gate.withFunctions gate.functions.reverse)).compileService none).1.toOption.all fun second =>
        first.2.length = 2 ∧ second.1.ids ≠ first.1.ids := by decide +kernel
  cases first : ((packaged gate).compileService none).1 with
  | error _ =>
      rw [first] at compiles
      cases compiles
  | ok delivered =>
      obtain ⟨⟨other, compiled⟩, second⟩ := whole.1.mp ⟨delivered, first⟩
      rw [first, show ((packaged _).compileService none).1 = _ from second] at order
      obtain ⟨reordered, same⟩ := whole.2 delivered.1 delivered.2 other compiled first second
      simp only [Except.toOption, Option.all_some, Bool.decide_and, Bool.and_eq_true, decide_eq_true_eq] at order
      exact ⟨delivered.1, delivered.2, other, compiled, rfl, second, reordered, same, order.1, order.2⟩

end Blueprint

end FunctionStack
