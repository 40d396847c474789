import FunctionStack.Proofs.Compile.Declared

/-!
The template of a compiled graph is proper if what users write is: no key is in one of its tables twice. Every move of a
compilation keeps this, and so does what is carried over from an earlier graph that was read from a proper template.
-/

namespace FunctionStack

open Build (Yields performAll)
open Value (Tidy tidy_single tidy_nil obj_isProper field?_isProper)

theorem Resource.optionalField_tidy (key : String) (value : Value) (proper : value.isProper = true) :
    Tidy [key] (optionalField key value) := by
  unfold optionalField
  split
  · exact tidy_single key proper
  · exact tidy_nil

theorem Resource.IsProper.toValue {resource : Resource} (proper : resource.IsProper) : resource.toValue.isProper = true := by
  have dependsOn : (Value.arr resource.dependsOn).isProper = true := Value.arr_isProper _ proper.dependsOn
  have head := ((tidy_single "Type" proper.type).append
    (optionalField_tidy "DeletionPolicy" _ proper.deletionPolicy)).append (optionalField_tidy "Condition" _ proper.condition)
  exact ((head.append (tidy_single "Properties" proper.properties)).append
    (optionalField_tidy "DependsOn" _ dependsOn)).isProper (by decide)

namespace Graph

/-- All that is part of a graph's template is proper. -/
structure IsProper (graph : Graph) : Prop where
  ids : graph.ids.Nodup
  resources : ∀ id resource, (id, resource) ∈ graph.resources → resource.IsProper
  outputs : graph.outputs.isProper = true

variable {graph after : Graph}

theorem IsProper.holds (proper : graph.IsProper) {id : String} {resource : Resource}
    (found : graph.find? id = some resource) : resource.IsProper :=
  proper.resources id resource (Table.find?_some_mem _ _ _ found)

theorem IsProper.toTemplate (proper : graph.IsProper) : graph.toTemplate.isProper = true := by
  have resources : (Value.obj (graph.resources.mapValues Resource.toValue)).isProper = true := by
    rw [obj_isProper]
    refine ⟨?_, fun id value member => ?_⟩
    · rw [Table.mapValues, List.map_map]
      exact proper.ids
    · obtain ⟨⟨id, resource⟩, listed, same⟩ := List.mem_map.mp member
      cases same
      exact (proper.resources _ _ listed).toValue
  exact ((((tidy_single "Outputs" proper.outputs).cons "Resources" resources).cons "Description" rfl).cons
    "AWSTemplateFormatVersion" rfl).isProper (by decide)

theorem IsProper.add (proper : graph.IsProper) (id : String) (resource : Resource) (regular : resource.IsProper)
    (added : graph.add id resource = .ok after) : after.IsProper where
  ids := add_distinct graph after id resource added proper.ids
  resources := by
    rcases add_ok graph after id resource added with ⟨_, rfl⟩ | ⟨_, _, _, rfl⟩
    · intro other held member
      rcases List.mem_append.mp member with before | last
      · exact proper.resources other held before
      · cases List.mem_singleton.mp last
        exact regular
    · exact proper.resources
  outputs := by
    rw [add_outputs graph after id resource added]
    exact proper.outputs

theorem IsProper.addOutput (proper : graph.IsProper) (id description : String) (value : Value)
    (regular : value.isProper = true) (added : graph.addOutput id value description = .ok after) : after.IsProper where
  ids := by
    rw [Graph.ids, addOutput_ok graph after id description value added]
    exact proper.ids
  resources := by
    rw [addOutput_ok graph after id description value added]
    exact proper.resources
  outputs := by
    rw [addOutput_merged graph after id description value added]
    have outputs := proper.outputs
    generalize graph.outputs = before at outputs ⊢
    cases before with
    | obj own =>
        refine Value.merge_isProper own _ outputs fun key output member => ?_
        cases List.mem_singleton.mp member
        exact ((tidy_single "Value" regular).cons "Description" rfl).isProper (by decide)
    | _ => exact outputs

theorem IsProper.setProperties (proper : graph.IsProper) (id : String) (properties : Value)
    (regular : properties.isProper = true) : (ExecutionPolicy.setProperties graph id properties).IsProper where
  ids := by
    rw [ExecutionPolicy.setProperties_ids]
    exact proper.ids
  resources := by
    intro other held member
    obtain ⟨⟨known, own⟩, listed, same⟩ := List.mem_map.mp member
    cases same
    have before := proper.resources _ _ listed
    split
    · exact { before with properties := regular }
    · exact before
  outputs := proper.outputs

/-- What is carried over was there before, under ids that are free. -/
theorem IsProper.carryRetained (proper : graph.IsProper) {previous : Graph} (regular : previous.IsProper) :
    (graph.carryRetained previous).IsProper where
  ids := by
    change (Table.keys (graph.resources ++ graph.carried previous)).Nodup
    rw [Table.keys, List.map_append]
    refine List.nodup_append.mpr ⟨proper.ids, regular.ids.sublist (List.filter_sublist.map Prod.fst), ?_⟩
    rintro id own other carried rfl
    obtain ⟨⟨known, resource⟩, listed, rfl⟩ := List.mem_map.mp carried
    have free := ((carried_mem graph previous _ resource).mp listed).2.2
    rw [has, Bool.eq_false_iff, ne_eq, Table.has_iff_keys] at free
    exact free own
  resources := by
    intro id resource member
    rcases List.mem_append.mp member with own | carried
    · exact proper.resources id resource own
    · exact regular.resources id resource ((carried_mem graph previous id resource).mp carried).1
  outputs := proper.outputs

theorem readResources_isProper (block : Fields) (resources : Table Resource) (read : readResources block = .ok resources)
    (proper : (Value.obj block).isProper = true) :
    resources.keys.Nodup ∧ ∀ id resource, (id, resource) ∈ resources → resource.IsProper := by
  rw [obj_isProper] at proper
  have keys : resources.keys = block.keys := by
    clear proper
    induction block generalizing resources with
    | nil =>
        cases read
        rfl
    | cons entry rest ih =>
        simp only [readResources, Result.bind_ok, Result.pure_ok] at read
        obtain ⟨first, _, others, more, rfl⟩ := read
        rw [Table.keys_cons, Table.keys_cons, ih others more]
  refine ⟨keys ▸ proper.1, fun id resource member => ?_⟩
  have distinct : resources.keys.Nodup := keys ▸ proper.1
  obtain ⟨value, held, reads⟩ := readResources_find? block resources read id resource
    (Table.find?_of_mem resources id resource distinct member)
  exact Resource.ofValue_isProper value resource reads (proper.2 id value (Table.find?_some_mem _ _ _ held))

/-- A graph that is read from a proper template is proper. -/
theorem ofTemplate_isProper {template : Value} (read : ofTemplate template = .ok graph) (proper : template.isProper = true) :
    graph.IsProper := by
  cases template with
  | obj fields =>
      simp only [ofTemplate, Result.bind_ok, Result.pure_ok] at read
      obtain ⟨block, listed, resources, reads, rfl⟩ := read
      obtain ⟨ids, each⟩ := readResources_isProper block resources reads (Fields.entries_isProper "Resources" proper listed)
      exact ⟨ids, each, Value.orElse_isProper _ _ (Value.find?_isProper fields "Outputs" proper) rfl⟩
  | _ => cases read

end Graph

theorem Core.graph_isProper (service : ServiceConfig) (core : Graph) (seeded : Core.graph service = .ok core)
    (regular : (Value.obj service.resources).isProper = true) : core.IsProper where
  ids := (graph_distinct service core seeded).1.ids
  resources := by
    intro id resource member
    have found := Table.find?_of_mem core.resources id resource (graph_distinct service core seeded).1.ids member
    exact graph_holds_proper service core seeded regular id resource found
  outputs := by
    obtain ⟨block, listed, outputs⟩ := graph_outputs service core seeded
    rw [outputs]
    have declared := Fields.entries_isProper "Outputs" regular listed
    refine Value.merge_isProper _ block ?_ ((obj_isProper block).mp declared).2
    unfold bucketOutputs
    split <;> rfl

namespace Value

variable {value whole default : Value}

theorem withDefault_isProper (key : String) (fields : Fields) (given : value.withDefault key default = .ok fields)
    (proper : value.isProper = true) (regular : default.isProper = true) : (Value.obj fields).isProper = true := by
  unfold withDefault at given
  split at given
  case h_1 own =>
    cases given
    split
    · exact proper
    case isFalse free =>
      rw [Table.has_iff_keys] at free
      rw [obj_isProper] at proper ⊢
      refine ⟨?_, fun other part member => ?_⟩
      · rw [List.map_append]
        refine List.nodup_append.mpr ⟨proper.1, List.nodup_singleton _, ?_⟩
        rintro known own other last rfl
        have same : known = key := List.mem_singleton.mp last
        exact free (same ▸ own)
      · rcases List.mem_append.mp member with own | last
        · exact proper.2 other part own
        · cases List.mem_singleton.mp last
          exact regular
  case h_2 => cases given

theorem completeField_isProper (key : String) (complete : Value → Result Value)
    (keeps : ∀ part made, complete part = .ok made → part.isProper = true → made.isProper = true)
    (completed : completeField key default complete value = .ok whole) (proper : value.isProper = true)
    (regular : default.isProper = true) : whole.isProper = true := by
  simp only [completeField, Result.bind_ok, Result.pure_ok] at completed
  obtain ⟨fields, given, part, done, rfl⟩ := completed
  have start := withDefault_isProper key fields given proper regular
  exact insert_isProper fields key part start (keeps _ part done (find?_isProper fields key start))

theorem modifyField_isProper (key : String) (f : Value → Value) (proper : value.isProper = true)
    (keeps : ∀ part, part.isProper = true → (f part).isProper = true) : (modifyField key f value).isProper = true := by
  cases value with
  | obj fields =>
      rw [obj_isProper] at proper
      refine (obj_isProper _).mpr ⟨?_, fun other part member => ?_⟩
      · rw [Table.update, List.map_map]
        exact proper.1
      · obtain ⟨⟨known, own⟩, listed, same⟩ := List.mem_map.mp member
        cases same
        have before := proper.2 _ _ listed
        split
        · exact keeps own before
        · exact before
  | _ => exact proper

theorem modifyFirst_isProper (f : Value → Value) (proper : value.isProper = true)
    (keeps : ∀ part, part.isProper = true → (f part).isProper = true) : (modifyFirst f value).isProper = true := by
  cases value with
  | arr items =>
      cases items with
      | nil => exact proper
      | cons first rest =>
          rw [Value.isProper, areProper_iff] at proper
          obtain ⟨own, others⟩ := List.forall_mem_cons.mp proper
          exact arr_isProper _ (List.forall_mem_cons.mpr ⟨keeps first own, others⟩)
  | _ => exact proper

theorem first?_isProper (item : Value) (found : value.first? = some item) (proper : value.isProper = true) :
    item.isProper = true := by
  cases value with
  | arr items =>
      cases items with
      | nil => cases found
      | cons first rest =>
          cases found
          rw [Value.isProper, areProper_iff] at proper
          exact proper _ (List.mem_cons_self ..)
  | _ => cases found

end Value

namespace ExecutionPolicy

open Value (completeField_isProper withDefault_isProper modifyField_isProper)

theorem completeDocument_isProper (document whole : Value) (completed : completeDocument document = .ok whole)
    (proper : document.isProper = true) : whole.isProper = true := by
  simp only [completeDocument, Result.bind_ok, Result.pure_ok] at completed
  obtain ⟨versioned, first, fields, second, rfl⟩ := completed
  exact withDefault_isProper _ fields second (withDefault_isProper _ versioned first proper rfl) rfl

theorem completePolicy_isProper (policy whole : Value) (completed : completePolicy policy = .ok whole)
    (proper : policy.isProper = true) : whole.isProper = true :=
  completeField_isProper "PolicyDocument" completeDocument completeDocument_isProper completed proper
    (rfl : (Value.obj []).isProper = true)

theorem completePolicies_isProper (policies whole : Value) (completed : completePolicies policies = .ok whole)
    (proper : policies.isProper = true) : whole.isProper = true := by
  obtain ⟨policy, complete, others, done, rfl, empty | same⟩ := completePolicies_ok policies whole completed
  · subst empty
    obtain ⟨own, made, same⟩ := (Result.bind_ok _ _ _).mp completed
    rw [← Value.arr.inj (Except.ok.inj same)]
    exact Value.arr_isProper _ (List.forall_mem_singleton.mpr (completePolicy_isProper _ own made rfl))
  · subst same
    rw [Value.isProper, Value.areProper_iff] at proper
    obtain ⟨own, rest⟩ := List.forall_mem_cons.mp proper
    exact Value.arr_isProper _ (List.forall_mem_cons.mpr ⟨completePolicy_isProper policy complete done own, rest⟩)

theorem completeRole_isProper (properties whole : Value) (completed : completeRole properties = .ok whole)
    (proper : properties.isProper = true) : whole.isProper = true :=
  completeField_isProper "Policies" completePolicies completePolicies_isProper completed proper
    (rfl : (Value.arr []).isProper = true)

theorem statementOf_isProper (properties : Value) (proper : properties.isProper = true) :
    (statementOf properties).isProper = true := by
  unfold statementOf
  cases found : ((properties.field? "Policies" >>= Value.first?) >>= (·.field? "PolicyDocument") >>= (·.field? "Statement")) with
  | none => rfl
  | some statement =>
      obtain ⟨document, found, statements⟩ := Option.bind_eq_some_iff.mp found
      obtain ⟨policy, found, documented⟩ := Option.bind_eq_some_iff.mp found
      obtain ⟨policies, listed, first⟩ := Option.bind_eq_some_iff.mp found
      have list := field?_isProper proper _ listed
      have own := Value.first?_isProper policy first list
      exact field?_isProper (field?_isProper own _ documented) _ statements

theorem withStatement_isProper (statement properties : Value) (proper : properties.isProper = true)
    (regular : statement.isProper = true) : (withStatement statement properties).isProper = true :=
  modifyField_isProper _ _ proper fun _ policies => Value.modifyFirst_isProper _ policies fun _ policy =>
    modifyField_isProper _ _ policy fun _ document => modifyField_isProper _ _ document fun _ _ => regular

theorem ofGraph_isProper {graph after : Graph} {policy : Option ExecutionPolicy}
    (begins : ofGraph graph = .ok (after, policy)) (proper : graph.IsProper) : after.IsProper := by
  rcases ofGraph_ok graph after policy begins with ⟨_, rfl, _⟩ | ⟨role, properties, found, completed, rfl, _⟩
  · exact proper
  · exact proper.setProperties _ _ (completeRole_isProper _ properties completed (proper.holds found).properties)

end ExecutionPolicy

/-- What a move brings into a graph is proper. -/
structure Move.Brings (move : Move) : Prop where
  placed : ∀ id resource, (id, resource) ∈ move.placed → resource.IsProper
  asked : ∀ statement, move.Asks statement → statement.isProper = true
  exposed : ∀ id value description, move = .expose id value description → value.isProper = true

namespace Build

theorem grant_isProper (fields : Fields) (w left : Workspace) (added : Bool)
    (granted : Yields (grant (.obj fields)) w added left) (proper : w.graph.IsProper)
    (regular : (Value.obj fields).isProper = true) : left.graph.IsProper := by
  rcases (grant_iff _ w left added).mp granted with ⟨_, _, rfl⟩ | ⟨policy, graph, kept, _, made, rfl⟩
  · exact proper
  · obtain ⟨statements, listed, ⟨_, _, rfl⟩ | ⟨rfl, _, role, found, rfl⟩⟩ :=
      ExecutionPolicy.add_ok w.graph graph policy kept fields added made
    · exact proper
    · have own := (proper.holds found).properties
      have known := ExecutionPolicy.statementOf_isProper role.properties own
      rw [ExecutionPolicy.statements, found, Option.elim_some] at listed
      rw [listed, Value.isProper, Value.areProper_iff] at known
      refine proper.setProperties _ _ (ExecutionPolicy.withStatement_isProper _ _ own (Value.arr_isProper _ ?_))
      intro statement member
      unfold Statements.add at member
      split at member
      · exact known statement member
      · rcases List.mem_append.mp member with before | last
        · exact known statement before
        · rw [List.mem_singleton.mp last]
          exact regular

end Build

/-- One move keeps a graph proper. -/
theorem Move.perform_isProper (move : Move) (regular : move.Regular) (brings : move.Brings) (w left : Workspace)
    (performed : Yields move.perform w () left) (proper : w.graph.IsProper) : left.graph.IsProper := by
  cases move with
  | allow statement =>
      obtain ⟨fields, rfl⟩ := regular.table statement rfl
      obtain ⟨added, granted⟩ := (Build.yields_discard _ _ _).mp performed
      exact Build.grant_isProper fields w left added granted proper (brings.asked _ (.allow _))
  | send function destination =>
      obtain ⟨added, granted⟩ := (Build.yields_discard _ _ _).mp performed
      rcases (Build.grantDestination_iff function destination w left added).mp granted with
        ⟨_, _, rfl⟩ | ⟨_, _, _, rfl⟩ | ⟨_, _, granted⟩
      · exact proper
      · exact proper
      · exact Build.grant_isProper _ _ left added granted proper (brings.asked _ (.send function destination))
  | place id resource =>
      obtain ⟨graph, added, rfl⟩ := (Build.yields_addResource _ _ _ _ _).mp performed
      exact proper.add id resource (brings.placed id resource (List.mem_singleton.mpr rfl)) added
  | expose id value description =>
      obtain ⟨graph, added, rfl⟩ := (Build.yields_addOutput _ _ _ _ _ _).mp performed
      exact proper.addOutput id description value (brings.exposed id value description rfl) added

/-- And so do all moves of a list. -/
theorem Build.performAll_isProper (moves : List Move) (regular : ∀ move ∈ moves, move.Regular)
    (brings : ∀ move ∈ moves, move.Brings) (w left : Workspace) (performed : Yields (performAll moves) w () left)
    (proper : w.graph.IsProper) : left.graph.IsProper := by
  induction moves generalizing w with
  | nil =>
      rw [← (yields_performAll_nil _ _).mp performed]
      exact proper
  | cons move rest ih =>
      obtain ⟨between, first, others⟩ := (yields_performAll_cons _ _ _ _).mp performed
      obtain ⟨own, later⟩ := List.forall_mem_cons.mp regular
      obtain ⟨here, more⟩ := List.forall_mem_cons.mp brings
      exact ih later more between others (move.perform_isProper own here w between first proper)

namespace Plan

variable {plan : Plan} {blueprint : Blueprint} {session : RegistrySession} {graph : Graph}

theorem Exposes.isProper {key description : String} {value : Value} (exposes : plan.Exposes key value description) :
    value.isProper = true := by
  cases exposes <;> rfl

theorem moves_bring (makes : blueprint.Makes session graph plan) (own : ∀ value ∈ plan.function.written, value.isProper = true)
    (shared : ∀ value ∈ blueprint.provider.written, value.isProper = true) :
    ∀ move ∈ plan.moves blueprint, move.Brings := by
  intro move member
  refine ⟨fun id resource placed => ?_, (moves_proper makes own move member).statement, fun id value description same => ?_⟩
  · obtain ⟨kind, places⟩ := (plan.places_iff blueprint id resource).mp (List.mem_flatMap.mpr ⟨move, member, placed⟩)
    exact places.isProper makes own shared
  · subst same
    cases plan.moves_take blueprint _ member with
    | expose _ _ _ exposes => exact exposes.isProper

end Plan

namespace Blueprint

variable {blueprint : Blueprint}

/-- A graph that is compiled from proper settings, and maybe carries over from a proper graph, is proper. -/
theorem compileService_isProper (proper : blueprint.IsProper) (regular : (Value.obj blueprint.service.resources).isProper = true)
    {previous : Option Graph} (earlier : ∀ graph, previous = some graph → graph.IsProper) {graph : Graph}
    {compiled : List CompiledFunction} (compiles : (blueprint.compileService previous).1 = .ok (graph, compiled)) :
    graph.IsProper := by
  obtain ⟨core, w, start, policy, plans, seeded, took, rfl, -⟩ := compileService_took compiles
  have begun := ExecutionPolicy.ofGraph_isProper took.begins (Core.graph_isProper _ core seeded regular)
  have brings : ∀ move ∈ blueprint.course plans, move.Brings := by
    intro move member
    obtain ⟨plan, planned, inside⟩ := List.mem_flatMap.mp member
    obtain ⟨session, graph, makes⟩ := took.made plan planned
    exact Plan.moves_bring makes (proper.functions _ _ (took.declared plan planned)) proper.provider move inside
  have built : (w.aside ⟨[], []⟩ []).graph.IsProper :=
    Build.performAll_isProper _ (blueprint.course_regular plans) brings (.fresh start policy ⟨[], []⟩) _ took.course begun
  cases previous with
  | none => exact built
  | some graph => exact built.carryRetained (earlier graph rfl)

end Blueprint

end FunctionStack
