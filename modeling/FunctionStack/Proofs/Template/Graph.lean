import FunctionStack.Template.Graph
import Mathlib.Data.List.Nodup

/-!
What adding to a graph leaves alone, and which graphs pass validation: those in which every dependency names a
resource.
-/

namespace FunctionStack

namespace Table

variable {α : Type}

theorem find?_append (table other : Table α) (key : String) :
    find? (table ++ other) key = (table.find? key).or (other.find? key) := by
  induction table with
  | nil => rfl
  | cons entry table ih =>
      obtain ⟨known, value⟩ := entry
      by_cases same : key = known
      · simp [find?, same]
      · have : (key == known) = false := by simpa using same
        simpa [find?, List.lookup_cons, this] using ih

theorem find?_some_mem (table : Table α) (key : String) (value : α) (found : table.find? key = some value) :
    (key, value) ∈ table := by
  induction table with
  | nil => cases found
  | cons entry table ih =>
      obtain ⟨known, first⟩ := entry
      simp only [find?, List.lookup_cons] at found
      by_cases same : key = known
      · simp_all
      · have : (key == known) = false := by simpa using same
        rw [this] at found
        exact List.mem_cons_of_mem _ (ih found)

theorem has_iff_mem (table : Table α) (key : String) : table.has key = true ↔ ∃ value, (key, value) ∈ table := by
  constructor
  · intro present
    obtain ⟨value, found⟩ := Option.isSome_iff_exists.mp present
    exact ⟨value, find?_some_mem table key value found⟩
  · rintro ⟨value, member⟩
    induction table with
    | nil => cases member
    | cons entry table ih =>
        obtain ⟨known, first⟩ := entry
        by_cases same : key = known
        · simp [has, find?, same]
        · have apart : (key == known) = false := by simpa using same
          have tail := ih ((List.mem_cons.mp member).resolve_left fun head => same (congrArg Prod.fst head))
          simpa [has, find?, List.lookup_cons, apart] using tail

theorem find?_of_mem (table : Table α) (key : String) (value : α) (distinct : (table.map Prod.fst).Nodup)
    (member : (key, value) ∈ table) : table.find? key = some value := by
  obtain ⟨found, present⟩ := Option.isSome_iff_exists.mp ((has_iff_mem table key).mpr ⟨value, member⟩)
  have pair := List.inj_on_of_nodup_map distinct (find?_some_mem table key found present) member rfl
  rw [present, (Prod.mk.inj pair).2]

end Table

namespace Graph

theorem has_append (graph : Graph) (more : Table Resource) (id : String) :
    Graph.has { graph with resources := graph.resources ++ more } id = (graph.has id || more.has id) := by
  simp only [has, Table.has, Table.find?_append]
  cases graph.resources.find? id <;> simp

/-- Adding a resource puts it behind the others, or finds an equal one in its place. -/
theorem add_ok (graph after : Graph) (id : String) (resource : Resource)
    (added : graph.add id resource = .ok after) :
    (graph.find? id = none ∧ after = { graph with resources := graph.resources ++ [(id, resource)] }) ∨
      ∃ existing, graph.find? id = some existing ∧ existing.same resource = true ∧ after = graph := by
  unfold add at added
  split at added
  case h_1 free =>
    injection added with same
    exact Or.inl ⟨free, same.symm⟩
  case h_2 existing taken =>
    split at added
    case isTrue equal =>
      injection added with same
      exact Or.inr ⟨existing, taken, equal, same.symm⟩
    case isFalse => cases added

/-- A resource that is there stays as it is. -/
theorem add_find? (graph after : Graph) (id other : String) (resource kept : Resource)
    (added : graph.add id resource = .ok after) (found : graph.find? other = some kept) :
    after.find? other = some kept := by
  rcases add_ok graph after id resource added with ⟨_, rfl⟩ | ⟨_, _, _, rfl⟩
  · unfold find? at *
    rw [Table.find?_append, found]
    rfl
  · exact found

theorem addOutput_ok (graph after : Graph) (id description : String) (value : Value)
    (added : graph.addOutput id value description = .ok after) : after.resources = graph.resources := by
  unfold addOutput at added
  split at added
  · injection added with same
    rw [← same]
  · cases added

/-- Every resource of one graph is in the other, as it is. -/
def Extends (graph after : Graph) : Prop :=
  ∀ id resource, graph.find? id = some resource → after.find? id = some resource

theorem Extends.refl (graph : Graph) : Extends graph graph := fun _ _ found => found

theorem Extends.trans {first second third : Graph} (one : Extends first second) (two : Extends second third) :
    Extends first third := fun id resource found => two id resource (one id resource found)

theorem add_extends (graph after : Graph) (id : String) (resource : Resource)
    (added : graph.add id resource = .ok after) : Extends graph after :=
  fun other kept found => add_find? graph after id other resource kept added found

theorem addOutput_extends (graph after : Graph) (id description : String) (value : Value)
    (added : graph.addOutput id value description = .ok after) : Extends graph after := by
  intro other kept found
  rw [find?, addOutput_ok graph after id description value added]
  exact found

/-- Every dependency of a resource names a resource of the graph. -/
def Closed (graph : Graph) : Prop :=
  ∀ id resource, (id, resource) ∈ graph.resources →
    ∀ dependency ∈ resource.dependsOn, graph.resolves dependency = true

theorem resolves_isKey (graph : Graph) (dependency : Value) (resolves : graph.resolves dependency = true) :
    dependency.isKey = true := by
  cases dependency <;> simp_all [Graph.resolves, Value.isKey]

theorem checkDependencies_ok (graph : Graph) (id : String) (source : Option String) (dependencies : List Value) :
    graph.checkDependencies id source dependencies = .ok () ↔
      ∀ dependency ∈ dependencies, graph.resolves dependency = true := by
  induction dependencies with
  | nil => simp [checkDependencies]
  | cons dependency rest ih =>
      by_cases resolves : graph.resolves dependency = true
      · simp [checkDependencies, resolves, resolves_isKey graph dependency resolves, ih]
      · rw [Bool.not_eq_true] at resolves
        simp only [checkDependencies, resolves]
        split <;> simp [fault, reject, resolves]

theorem checkResources_ok (graph : Graph) (resources : Table Resource) :
    graph.checkResources resources = .ok () ↔
      ∀ id resource, (id, resource) ∈ resources →
        ∀ dependency ∈ resource.dependsOn, graph.resolves dependency = true := by
  induction resources with
  | nil => simp [checkResources]
  | cons entry rest ih =>
      obtain ⟨id, resource⟩ := entry
      have head := checkDependencies_ok graph id resource.source resource.dependsOn
      simp only [checkResources, bind, Except.bind]
      cases checked : graph.checkDependencies id resource.source resource.dependsOn with
      | error failure =>
          rw [checked] at head
          simp only [reduceCtorEq, false_iff] at head ⊢
          exact fun all => head (all id resource (List.mem_cons_self ..))
      | ok _ =>
          rw [checked] at head
          simp only [true_iff] at head
          constructor
          · intro others other found member
            rcases List.mem_cons.mp member with same | member
            · cases same
              exact head
            · exact ih.mp others other found member
          · exact fun all => ih.mpr fun other found member => all other found (List.mem_cons_of_mem _ member)

/-- Validation passes exactly the closed graphs. -/
theorem validate_ok (graph : Graph) : graph.validate = .ok () ↔ graph.Closed :=
  checkResources_ok graph graph.resources

theorem carried_mem (graph previous : Graph) (id : String) (resource : Resource) :
    (id, resource) ∈ graph.carried previous ↔
      (id, resource) ∈ previous.resources ∧ resource.retained = true ∧ graph.has id = false := by
  simp [carried]

/-- A grown graph has its own resources and the retained ones of the earlier graph. -/
theorem carryRetained_has (graph previous : Graph) (id : String) :
    (graph.carryRetained previous).has id = true ↔
      graph.has id = true ∨ ∃ resource, (id, resource) ∈ previous.resources ∧ resource.retained = true := by
  have split : (graph.carryRetained previous).has id = (graph.has id || (graph.carried previous).has id) :=
    has_append graph (graph.carried previous) id
  rw [split, Bool.or_eq_true, Table.has_iff_mem]
  constructor
  · rintro (own | ⟨resource, member⟩)
    · exact Or.inl own
    · obtain ⟨member, retained, _⟩ := (carried_mem graph previous id resource).mp member
      exact Or.inr ⟨resource, member, retained⟩
  · rintro (own | ⟨resource, member, retained⟩)
    · exact Or.inl own
    · by_cases own : graph.has id = true
      · exact Or.inl own
      · exact Or.inr ⟨resource, (carried_mem graph previous id resource).mpr ⟨member, retained, by simpa using own⟩⟩

/-- A dependency that survives a merge: it names a resource of the graph itself or a retained one. -/
def Survives (graph previous : Graph) (dependency : Value) : Prop :=
  graph.resolves dependency = true ∨
    ∃ id resource, dependency = .str id ∧ (id, resource) ∈ previous.resources ∧ resource.retained = true

theorem carryRetained_resolves (graph previous : Graph) (dependency : Value) :
    (graph.carryRetained previous).resolves dependency = true ↔ graph.Survives previous dependency := by
  cases dependency with
  | str id =>
      simp only [Survives, resolves, carryRetained_has, Value.str.injEq]
      constructor
      · rintro (own | ⟨resource, member, retained⟩)
        · exact Or.inl own
        · exact Or.inr ⟨id, resource, rfl, member, retained⟩
      · rintro (own | ⟨_, resource, rfl, member, retained⟩)
        · exact Or.inl own
        · exact Or.inr ⟨resource, member, retained⟩
  | _ => simp [Survives, resolves]

/-- A closed graph stays closed in a merge exactly if what is carried over depends on nothing that is left
behind. -/
theorem carryRetained_closed (graph previous : Graph) (closed : graph.Closed) :
    (graph.carryRetained previous).Closed ↔
      ∀ id resource, (id, resource) ∈ previous.resources → resource.retained = true → graph.has id = false →
        ∀ dependency ∈ resource.dependsOn, graph.Survives previous dependency := by
  constructor
  · intro whole id resource member retained free dependency depends
    have carried := (carried_mem graph previous id resource).mpr ⟨member, retained, free⟩
    exact (carryRetained_resolves graph previous dependency).mp
      (whole id resource (List.mem_append_right _ carried) dependency depends)
  · intro kept id resource member dependency depends
    apply (carryRetained_resolves graph previous dependency).mpr
    rcases List.mem_append.mp member with own | carried
    · exact Or.inl (closed id resource own dependency depends)
    · obtain ⟨member, retained, free⟩ := (carried_mem graph previous id resource).mp carried
      exact kept id resource member retained free dependency depends

end Graph

end FunctionStack
