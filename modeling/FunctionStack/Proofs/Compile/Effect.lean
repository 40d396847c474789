import FunctionStack.Proofs.Compile.Permissions
import FunctionStack.Proofs.Template.Seeds

/-!
What single steps of a compilation do to the workspace. Resources are placed behind those that are there, the policy keeps
a list that grows, outputs are laid over outputs, and of the resources that are there only the default role changes.
-/

namespace FunctionStack

open Build (Yields)

/-- What is held in the place of a resource: the resource itself, or one that equals it. -/
def Resource.Fits (held resource : Resource) : Prop := held = resource ∨ held.same resource = true

namespace Graph

/-- A graph with some more placements, the first one under an id being the one that counts. The default role may have
changed. -/
structure Grows (graph after : Graph) (placements : Table Resource) : Prop where
  lookup : ∀ id, id ≠ defaultExecutionRole → after.find? id = Table.find? (graph.resources ++ placements) id
  fits : ∀ id resource, (id, resource) ∈ placements → ∃ held, after.find? id = some held ∧ held.Fits resource
  ids : ∃ more, after.ids = graph.ids ++ more
  distinct : graph.ids.Nodup → after.ids.Nodup

theorem Grows.refl (graph : Graph) : Grows graph graph [] where
  lookup := fun id _ => by rw [List.append_nil, find?]
  fits := fun _ _ member => by cases member
  ids := ⟨[], (List.append_nil _).symm⟩
  distinct := id

theorem Grows.trans {first second third : Graph} {earlier later : Table Resource} (one : Grows first second earlier)
    (two : Grows second third later) (spared : ∀ id resource, (id, resource) ∈ earlier → id ≠ defaultExecutionRole) :
    Grows first third (earlier ++ later) where
  lookup := by
    intro id apart
    calc
      third.find? id = (second.find? id).or (later.find? id) := by rw [two.lookup id apart, Table.find?_append, find?]
      _ = Table.find? (first.resources ++ (earlier ++ later)) id := by
        rw [one.lookup id apart, ← Table.find?_append, List.append_assoc]
  fits := by
    intro id resource member
    rcases List.mem_append.mp member with before | after
    · obtain ⟨held, found, fits⟩ := one.fits id resource before
      refine ⟨held, ?_, fits⟩
      rw [two.lookup id (spared id resource before), Table.find?_append]
      rw [find?] at found
      rw [found, Option.some_or]
    · exact two.fits id resource after
  ids := by
    obtain ⟨more, grown⟩ := one.ids
    obtain ⟨others, last⟩ := two.ids
    exact ⟨more ++ others, by rw [last, grown, List.append_assoc]⟩
  distinct := fun unrepeated => two.distinct (one.distinct unrepeated)

theorem add_grows (graph after : Graph) (id : String) (resource : Resource) (added : graph.add id resource = .ok after) :
    Grows graph after [(id, resource)] where
  lookup := fun other _ => add_lookup graph after id resource added other
  fits := by
    intro other placed member
    obtain ⟨rfl, rfl⟩ := Prod.mk.inj (List.mem_singleton.mp member)
    rcases add_ok graph after other placed added with ⟨free, rfl⟩ | ⟨held, taken, equal, rfl⟩
    · refine ⟨placed, ?_, Or.inl rfl⟩
      rw [find?, Table.find?_append, show graph.resources.find? other = none from free, Option.none_or, Table.find?_cons,
        if_pos rfl]
    · exact ⟨held, taken, Or.inr equal⟩
  ids := by
    rcases add_ok graph after id resource added with ⟨_, rfl⟩ | ⟨_, _, _, rfl⟩
    · exact ⟨[id], List.map_append⟩
    · exact ⟨[], (List.append_nil _).symm⟩
  distinct := add_distinct graph after id resource added

theorem add_elsewhere (graph after : Graph) (id other : String) (resource : Resource)
    (added : graph.add id resource = .ok after) (apart : id ≠ other) : after.find? other = graph.find? other := by
  rcases add_ok graph after id resource added with ⟨_, rfl⟩ | ⟨_, _, _, rfl⟩
  · rw [find?, Table.find?_append, Table.find?_cons, if_neg apart.symm, find?]
    exact Option.or_none
  · rfl

theorem setProperties_grows (graph : Graph) (properties : Value) :
    Grows graph (ExecutionPolicy.setProperties graph defaultExecutionRole properties) [] := by
  have keys := ExecutionPolicy.setProperties_ids graph defaultExecutionRole properties
  refine ⟨fun id apart => ?_, fun _ _ member => (by cases member), ⟨[], by rw [keys, List.append_nil]⟩, fun unrepeated => ?_⟩
  · rw [ExecutionPolicy.setProperties_find?, List.append_nil, find?]
    simp [apart]
  · rwa [keys]

theorem Grows.resources {graph after other : Graph} {placements : Table Resource} (grows : Grows graph after placements)
    (same : other.resources = after.resources) : Grows graph other placements := by
  obtain ⟨lookup, fits, ids, distinct⟩ := grows
  refine ⟨?_, ?_, ?_, ?_⟩ <;> simpa only [find?, Graph.ids, same]

end Graph

/-- A workspace after its policy has been asked for statements: without a policy or statements nothing has changed, and
otherwise the list that the policy keeps has grown. -/
inductive Answered (w left : Workspace) (asked : List Value) : Prop
  | idle (nothing : w.policy = none ∨ asked = []) (policy : left.policy = w.policy)
      (role : left.graph.find? defaultExecutionRole = w.graph.find? defaultExecutionRole)
  | apart (statements : List Value) (before : w.policy = some (.apart (.arr statements)))
      (after : left.policy = some (.apart (.arr (asked.foldl Statements.add statements))))
      (role : left.graph.find? defaultExecutionRole = w.graph.find? defaultExecutionRole)
  | inRole (statements : List Value) (role : Resource) (asks : asked ≠ []) (before : w.policy = some .inRole)
      (found : w.graph.find? defaultExecutionRole = some role)
      (held : ExecutionPolicy.statementOf role.properties = .arr statements) (after : left.policy = some .inRole)
      (changed : left.graph.find? defaultExecutionRole = some { role with
        properties := ExecutionPolicy.withStatement (.arr (asked.foldl Statements.add statements)) role.properties })

namespace Answered

theorem trans {w between left : Workspace} {first second : List Value} (one : Answered w between first)
    (two : Answered between left second) : Answered w left (first ++ second) := by
  cases one with
  | idle nothing policy role =>
      rcases nothing with none | rfl
      · cases two with
        | idle _ last same => exact .idle (Or.inl none) (last.trans policy) (same.trans role)
        | apart _ before => simp [policy, none] at before
        | inRole _ _ _ before => simp [policy, none] at before
      · rw [List.nil_append]
        cases two with
        | idle nothing last same =>
            rw [policy] at nothing last
            exact .idle nothing last (same.trans role)
        | apart statements before after same => exact .apart statements (policy ▸ before) after (same.trans role)
        | inRole statements held asks before found list after changed =>
            exact .inRole statements held asks (policy ▸ before) (role ▸ found) list after changed
  | apart statements before after role =>
      cases two with
      | idle nothing last same =>
          have none : second = [] := nothing.resolve_left (by simp [after])
          rw [none, List.append_nil]
          exact .apart statements before (last.trans after) (same.trans role)
      | apart others start final same =>
          rw [after] at start
          simp only [Option.some.injEq, ExecutionPolicy.apart.injEq, Value.arr.injEq] at start
          refine .apart statements before ?_ (same.trans role)
          rw [final, ← start, List.foldl_append]
      | inRole _ _ _ start => simp [after] at start
  | inRole statements role asks before found held after changed =>
      have kept := ExecutionPolicy.statementOf_withStatement role.properties (.arr (first.foldl Statements.add statements))
        statements held
      cases two with
      | idle nothing last same =>
          have none : second = [] := nothing.resolve_left (by simp [after])
          rw [none, List.append_nil]
          exact .inRole statements role asks before found held (last.trans after) (same.trans changed)
      | apart _ start => simp [after] at start
      | inRole others other _ start present list last final =>
          rw [changed] at present
          cases present
          rw [kept] at list
          cases list
          refine .inRole statements role (by simp [asks]) before found held last ?_
          rw [final, List.foldl_append, ExecutionPolicy.withStatement_again]

/-- What else a workspace remembers does not matter. -/
theorem congr {w left before after : Workspace} {asked : List Value} (answered : Answered w left asked)
    (policy : before.policy = w.policy)
    (role : before.graph.find? defaultExecutionRole = w.graph.find? defaultExecutionRole)
    (last : after.policy = left.policy)
    (changed : after.graph.find? defaultExecutionRole = left.graph.find? defaultExecutionRole) :
    Answered before after asked := by
  cases answered with
  | idle nothing same kept =>
      exact .idle (policy ▸ nothing) (last.trans (same.trans policy.symm)) (changed.trans (kept.trans role.symm))
  | apart statements start final kept =>
      exact .apart statements (policy.trans start) (last.trans final) (changed.trans (kept.trans role.symm))
  | inRole statements held asks start found list final grown =>
      exact .inRole statements held asks (policy.trans start) (role.trans found) list (last.trans final) (changed.trans grown)

/-- Two policies, both of which were asked for something or neither was: either both stay as they are, or both grow. -/
inductive Both (w left next last : Workspace) (asked others : List Value) : Prop
  | kept (first : left.policy = w.policy) (second : last.policy = next.policy)
      (role : left.graph.find? defaultExecutionRole = w.graph.find? defaultExecutionRole)
      (same : last.graph.find? defaultExecutionRole = next.graph.find? defaultExecutionRole)
  | apart (statements : List Value) (first : left.policy = some (.apart (.arr (asked.foldl Statements.add statements))))
      (second : last.policy = some (.apart (.arr (others.foldl Statements.add statements))))
      (role : left.graph.find? defaultExecutionRole = w.graph.find? defaultExecutionRole)
      (same : last.graph.find? defaultExecutionRole = next.graph.find? defaultExecutionRole)
  | inRole (statements known : List Value) (own other : Resource) (asks : asked ≠ [])
      (found : w.graph.find? defaultExecutionRole = some own) (present : next.graph.find? defaultExecutionRole = some other)
      (held : ExecutionPolicy.statementOf own.properties = .arr statements)
      (list : ExecutionPolicy.statementOf other.properties = .arr known)
      (first : left.policy = some .inRole) (second : last.policy = some .inRole)
      (changed : left.graph.find? defaultExecutionRole = some { own with
        properties := ExecutionPolicy.withStatement (.arr (asked.foldl Statements.add statements)) own.properties })
      (grown : last.graph.find? defaultExecutionRole = some { other with
        properties := ExecutionPolicy.withStatement (.arr (others.foldl Statements.add known)) other.properties })

theorem both {w left next last : Workspace} {asked others : List Value} (one : Answered w left asked)
    (two : Answered next last others) (policy : next.policy = w.policy) (quiet : others = [] ↔ asked = []) :
    Both w left next last asked others := by
  cases one with
  | idle nothing kept role =>
      cases two with
      | idle _ still same => exact .kept kept still role same
      | apart statements before after same =>
          have none : asked = [] := nothing.resolve_left (by simp [← policy, before])
          rw [quiet.mpr none] at after
          exact .kept kept (after.trans before.symm) role same
      | inRole _ _ asks before =>
          exact absurd (quiet.mpr (nothing.resolve_left (by simp [← policy, before]))) asks
  | apart statements before after role =>
      cases two with
      | idle nothing still same =>
          have none : others = [] := nothing.resolve_left (by simp [policy, before])
          rw [quiet.mp none] at after
          exact .kept (after.trans before.symm) still role same
      | apart known start final same =>
          rw [policy, before] at start
          cases start
          exact .apart statements after final role same
      | inRole _ _ _ start => simp [policy, before] at start
  | inRole statements own asks before found held after changed =>
      cases two with
      | idle nothing _ _ => exact absurd (quiet.mp (nothing.resolve_left (by simp [policy, before]))) asks
      | apart _ start => simp [policy, before] at start
      | inRole known other _ _ present list final grown =>
          exact .inRole statements known own other asks found present held list after final changed grown

end Answered

namespace Build

theorem grant_iff (statement : Value) (w left : Workspace) (added : Bool) :
    Yields (grant statement) w added left ↔
      w.policy = none ∧ added = false ∧ left = w ∨ ∃ policy graph kept, w.policy = some policy ∧
        policy.add w.graph statement = .ok (graph, kept, added) ∧
        left = { w with graph := graph, policy := some kept } := by
  simp only [grant, yields_get]
  split
  case h_1 none =>
    rw [yields_pure]
    constructor
    · rintro ⟨rfl, rfl⟩
      exact Or.inl ⟨none, rfl, rfl⟩
    · rintro (⟨_, rfl, rfl⟩ | ⟨policy, _, _, some, _⟩)
      · exact ⟨rfl, rfl⟩
      · simp [none] at some
  case h_2 policy found =>
    simp only [yields_ofResult_bind, Prod.exists, yields_modify_bind, yields_pure]
    constructor
    · rintro ⟨graph, kept, fresh, made, rfl, rfl⟩
      exact Or.inr ⟨policy, graph, kept, found, made, rfl⟩
    · rintro (⟨none, _⟩ | ⟨other, graph, kept, same, made, rfl⟩)
      · simp [found] at none
      · rw [found] at same
        cases same
        exact ⟨graph, kept, added, made, rfl, rfl⟩

theorem grant_answered (fields : Fields) (w left : Workspace) (added : Bool)
    (granted : Yields (grant (.obj fields)) w added left) : Answered w left [.obj fields] := by
  rcases (grant_iff _ w left added).mp granted with ⟨none, _, rfl⟩ | ⟨policy, graph, kept, bound, made, rfl⟩
  · exact .idle (Or.inl none) rfl rfl
  · obtain ⟨statements, listed, ⟨rfl, rfl, rfl⟩ | ⟨rfl, rfl, role, found, rfl⟩⟩ :=
      ExecutionPolicy.add_ok w.graph graph policy kept fields added made
    · exact .apart statements bound rfl rfl
    · refine .inRole statements role (List.cons_ne_nil _ _) bound found ?_ rfl ?_
      · rwa [ExecutionPolicy.statements, found] at listed
      · rw [ExecutionPolicy.setProperties_find?, found, Option.map_some, if_pos rfl]
        rfl

theorem grant_grows (fields : Fields) (w left : Workspace) (added : Bool)
    (granted : Yields (grant (.obj fields)) w added left) :
    w.graph.Grows left.graph [] ∧ left.graph.outputs = w.graph.outputs ∧ left.granted = w.granted := by
  rcases (grant_iff _ w left added).mp granted with ⟨_, _, rfl⟩ | ⟨policy, graph, kept, _, made, rfl⟩
  · exact ⟨.refl _, rfl, rfl⟩
  · obtain ⟨statements, _, ⟨_, _, rfl⟩ | ⟨_, _, role, _, rfl⟩⟩ :=
      ExecutionPolicy.add_ok w.graph graph policy kept fields added made
    · exact ⟨.refl _, rfl, rfl⟩
    · exact ⟨Graph.setProperties_grows _ _, rfl, rfl⟩

theorem grant_aside (statement : Value) (w left : Workspace) (added : Bool)
    (granted : Yields (grant statement) w added left) : left.registry = w.registry ∧ left.compiled = w.compiled := by
  rcases (grant_iff _ w left added).mp granted with ⟨_, _, rfl⟩ | ⟨_, _, _, _, _, rfl⟩ <;> exact ⟨rfl, rfl⟩

theorem grantDestination_iff (function : String) (destination : Destination) (w left : Workspace) (added : Bool) :
    Yields (grantDestination function destination) w added left ↔
      w.policy = none ∧ added = false ∧ left = w ∨
      w.policy ≠ none ∧ w.granted.contains (function, destination.key) = true ∧ added = false ∧ left = w ∨
      w.policy ≠ none ∧ w.granted.contains (function, destination.key) = false ∧
        Yields (grant (sendPermission function destination))
          { w with granted := w.granted ++ [(function, destination.key)] } added left := by
  simp only [grantDestination, yields_get, Option.isNone_iff_eq_none]
  by_cases unbound : w.policy = none
  · simp [unbound, eq_comm]
  · cases w.granted.contains (function, destination.key) with
    | true =>
        rw [if_neg unbound, if_pos rfl, yields_pure]
        constructor
        · rintro ⟨rfl, rfl⟩
          exact Or.inr (Or.inl ⟨unbound, rfl, rfl, rfl⟩)
        · rintro (⟨none, _⟩ | ⟨_, _, rfl, rfl⟩ | ⟨_, fresh, _⟩)
          · exact absurd none unbound
          · exact ⟨rfl, rfl⟩
          · cases fresh
    | false =>
        rw [if_neg unbound, if_neg Bool.false_ne_true, yields_modify_bind, Blueprint.allow_sendPermission]
        constructor
        · intro granted
          exact Or.inr (Or.inr ⟨unbound, rfl, granted⟩)
        · rintro (⟨none, _⟩ | ⟨_, known, _⟩ | ⟨_, _, granted⟩)
          · exact absurd none unbound
          · cases known
          · exact granted

end Build

/-- Fields laid over a table; anything else stays as it is. -/
def Value.merged (value : Value) (fields : Fields) : Value :=
  match value with
  | .obj own => .obj (Table.merge own fields)
  | other => other

theorem Value.merged_nil (value : Value) : value.merged [] = value := by
  cases value <;> rfl

theorem Value.merged_append (value : Value) (first second : Fields) :
    (value.merged first).merged second = value.merged (first ++ second) := by
  cases value <;> simp [merged, Table.merge]

theorem Value.merged_obj (value : Value) (fields whole : Fields) (merged : value.merged fields = .obj whole) :
    ∃ own, value = .obj own := by
  cases value with
  | obj own => exact ⟨own, rfl⟩
  | _ => cases merged

theorem Graph.addOutput_merged (graph after : Graph) (id description : String) (value : Value)
    (added : graph.addOutput id value description = .ok after) :
    after.outputs = graph.outputs.merged [(id, .obj [("Description", .str description), ("Value", value)])] := by
  unfold addOutput at added
  split at added
  case h_1 outputs held =>
    cases added
    rw [held]
    rfl
  case h_2 => cases added

/-- Moves neither read nor change what a workspace remembers of registries and compiled functions. -/
def Workspace.aside (w : Workspace) (session : RegistrySession) (compiled : List CompiledFunction) : Workspace :=
  { w with registry := session, compiled := compiled }

theorem Build.grant_apart (session : RegistrySession) (compiled : List CompiledFunction) (statement : Value)
    (w left : Workspace) (added : Bool) (granted : Yields (grant statement) w added left) :
    Yields (grant statement) (w.aside session compiled) added (left.aside session compiled) := by
  rw [grant_iff] at granted ⊢
  rcases granted with ⟨none, rfl, rfl⟩ | ⟨policy, graph, kept, bound, made, rfl⟩
  · exact Or.inl ⟨none, rfl, rfl⟩
  · exact Or.inr ⟨policy, graph, kept, bound, made, rfl⟩

/-- There is no policy, or it keeps a list. -/
def Workspace.TakesStatements (w : Workspace) : Prop :=
  w.policy = none ∨ (∃ statements, w.policy = some (.apart (.arr statements))) ∨
    w.policy = some .inRole ∧ ∃ statements, ExecutionPolicy.Keeps w.graph statements

theorem Answered.takesStatements {w left : Workspace} {asked : List Value} (answered : Answered w left asked)
    (takes : w.TakesStatements) : left.TakesStatements := by
  cases answered with
  | idle _ policy role =>
      unfold Workspace.TakesStatements ExecutionPolicy.Keeps
      rwa [policy, role]
  | apart statements _ after _ => exact Or.inr (Or.inl ⟨_, after⟩)
  | inRole statements role _ _ _ held after changed =>
      exact Or.inr (Or.inr ⟨after, _, _, changed, ExecutionPolicy.statementOf_withStatement role.properties _ statements held⟩)

/-- Who has been asked for something takes statements. -/
theorem Answered.asked_takes {w left : Workspace} {asked : List Value} (answered : Answered w left asked)
    (some : asked ≠ []) : w.TakesStatements := by
  cases answered with
  | idle nothing _ _ => exact Or.inl (nothing.resolve_right some)
  | apart statements before _ _ => exact Or.inr (Or.inl ⟨statements, before⟩)
  | inRole statements role _ before found held _ _ => exact Or.inr (Or.inr ⟨before, statements, role, found, held⟩)

namespace Build

theorem grant_succeeds (statement : Value) (w : Workspace) (takes : w.TakesStatements) :
    ∃ added left, Yields (grant statement) w added left := by
  have listed (policy : ExecutionPolicy) (items : List Value) (bound : w.policy = some policy)
      (listed : policy.statements w.graph = .arr items) : ∃ added left, Yields (grant statement) w added left := by
    obtain ⟨graph, kept, made, _⟩ := ExecutionPolicy.add_listed w.graph policy items statement listed
    exact ⟨_, _, (grant_iff ..).mpr (Or.inr ⟨policy, graph, kept, bound, made, rfl⟩)⟩
  rcases takes with none | ⟨statements, apart⟩ | ⟨inRole, statements, role, found, held⟩
  · exact ⟨false, w, (grant_iff ..).mpr (Or.inl ⟨none, rfl, rfl⟩)⟩
  · exact listed _ statements apart rfl
  · exact listed _ statements inRole (by rw [ExecutionPolicy.statements, found, Option.elim_some, held])

theorem grantDestination_succeeds (function : String) (destination : Destination) (w : Workspace)
    (takes : w.TakesStatements) : ∃ added left, Yields (grantDestination function destination) w added left := by
  simp only [grantDestination_iff]
  by_cases none : w.policy = none
  · exact ⟨false, w, Or.inl ⟨none, rfl, rfl⟩⟩
  · cases known : w.granted.contains (function, destination.key) with
    | true => exact ⟨false, w, Or.inr (Or.inl ⟨none, rfl, rfl, rfl⟩)⟩
    | false =>
        obtain ⟨added, left, granted⟩ := grant_succeeds (sendPermission function destination)
          { w with granted := w.granted ++ [(function, destination.key)] } takes
        exact ⟨added, left, Or.inr (Or.inr ⟨none, rfl, granted⟩)⟩

end Build

theorem Graph.add_succeeds (graph : Graph) (id : String) (resource : Resource)
    (fits : ∀ held, graph.find? id = some held → held.same resource = true) :
    ∃ after, graph.add id resource = .ok after := by
  unfold add
  cases found : graph.find? id with
  | none => exact ⟨_, rfl⟩
  | some held => exact ⟨graph, if_pos (fits held found)⟩

end FunctionStack
