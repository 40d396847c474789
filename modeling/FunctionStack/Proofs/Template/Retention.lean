import FunctionStack.Proofs.Compile.Build
import FunctionStack.Proofs.Template.Graph
import FunctionStack.Proofs.Value.Table

/-!
What is left of a graph when its template is read again, and what of that is carried into the next graph.
-/

namespace FunctionStack

namespace Value

theorem orElse_again (value other : Value) : (value.orElse other).orElse other = value.orElse other := by
  by_cases given : value.given = true
  · have kept : value.orElse other = value := if_pos given
    rw [kept, kept]
  · have replaced : value.orElse other = other := if_neg given
    rw [replaced]
    exact ite_self other

end Value

namespace Resource

/-- Empty properties are written as an empty table, the way they are read. -/
def Settled (resource : Resource) : Prop := resource.properties.orElse (.obj []) = resource.properties

theorem settled_obj (resource : Resource) (fields : Fields) (table : resource.properties = .obj fields) :
    resource.Settled := by
  rw [Settled, table]
  cases fields <;> rfl

/-- A resource as it is read from its template. -/
def readBack (resource : Resource) : Resource where
  type := resource.type
  properties := resource.properties.orElse (.obj [])
  dependsOn := resource.dependsOn
  condition := resource.condition.orElse .null
  deletionPolicy := resource.deletionPolicy.orElse .null
  source := none

theorem readBack_settled (resource : Resource) : resource.readBack.Settled :=
  Value.orElse_again resource.properties (.obj [])

theorem ofValue_settled (value : Value) (resource : Resource) (read : ofValue value = .ok resource) :
    resource.Settled := by
  cases value with
  | obj data =>
      rw [ofValue] at read
      split at read
      · cases read
      · obtain ⟨_, _, same⟩ := (Result.bind_ok _ _ _).mp read
        rw [← (Result.pure_ok _ _).mp same]
        exact Value.orElse_again _ _
  | _ => cases read

theorem optionalField_orElse (key : String) (value : Value) :
    optionalField key (value.orElse .null) = optionalField key value := by
  unfold Value.orElse
  split
  case isTrue => rfl
  case isFalse absent =>
    rw [optionalField, optionalField, if_neg absent]
    rfl

theorem readBack_toValue (resource : Resource) (settled : resource.Settled) :
    resource.readBack.toValue = resource.toValue := by
  rw [Settled] at settled
  simp only [toValue, readBack, optionalField_orElse, settled]

theorem retained_iff (resource : Resource) : resource.retained = true ↔ resource.deletionPolicy = retainPolicy := by
  rw [retained, retainPolicy]
  cases resource.deletionPolicy <;> simp [Value.same]

theorem readBack_retained (resource : Resource) : resource.readBack.retained = resource.retained := by
  unfold retained readBack Value.orElse
  cases given : resource.deletionPolicy.given with
  | true => rfl
  | false =>
      have other : resource.deletionPolicy.same retainPolicy = false := by
        rw [Bool.eq_false_iff]
        intro same
        rw [(retained_iff resource).mp same] at given
        cases given
      rw [other]
      rfl

theorem find?_optionalField (key other : String) (value : Value) :
    Table.find? (optionalField key value) other = if other = key ∧ value.given = true then some value else none := by
  unfold optionalField
  split
  case isTrue given =>
    rw [Table.find?_cons]
    simp [given, Table.find?]
  case isFalse absent => simp [absent, Table.find?]

theorem find?_toValue (resource : Resource) : ∃ data, resource.toValue = .obj data ∧
    Table.find? data "Type" = some resource.type ∧
    (Table.find? data "DeletionPolicy").getD .null = resource.deletionPolicy.orElse .null ∧
    (Table.find? data "Condition").getD .null = resource.condition.orElse .null ∧
    (Table.find? data "Properties").getD .null = resource.properties ∧
    (Table.find? data "DependsOn").getD .null = (Value.arr resource.dependsOn).orElse .null := by
  have written (value : Value) : (if value.given = true then some value else none).getD .null = value.orElse .null := by
    rw [Value.orElse]
    split <;> rfl
  refine ⟨_, rfl, ?_, ?_, ?_, ?_, ?_⟩ <;>
    simp [Table.find?_append, Table.find?_cons, find?_optionalField, written]

theorem dependencies_arr (items : List Value) :
    dependencies (((Value.arr items).orElse .null).orElse (.arr [])) = .ok items := by
  cases items <;> rfl

/-- The template of a resource reads as that resource. -/
theorem ofValue_toValue (resource : Resource) : ofValue resource.toValue = .ok resource.readBack := by
  obtain ⟨data, written, type, policy, condition, properties, dependsOn⟩ := find?_toValue resource
  simp only [written, ofValue, type, policy, condition, properties, dependsOn, dependencies_arr]
  rfl

end Resource

/-- The first entry under a key stays the first one among those that are kept. -/
theorem Table.find?_filter {α : Type} (table : Table α) (kept : String × α → Bool) (key : String) (value : α)
    (found : table.find? key = some value) (keeps : kept (key, value) = true) :
    find? (table.filter kept) key = some value := by
  induction table with
  | nil => cases found
  | cons entry table ih =>
      obtain ⟨known, first⟩ := entry
      rw [find?_cons] at found
      by_cases same : key = known
      · subst same
        rw [if_pos rfl] at found
        cases found
        rw [List.filter_cons_of_pos keeps, find?_cons, if_pos rfl]
      · rw [if_neg same] at found
        rw [List.filter_cons]
        split
        · rw [find?_cons, if_neg same, ih found]
        · exact ih found

/-- Under a key, all that counts of a filter is what it does to the entries of that key. -/
theorem Table.find?_filter_agree {α : Type} (table : Table α) (first second : String × α → Bool) (key : String)
    (agree : ∀ value, first (key, value) = second (key, value)) :
    find? (table.filter first) key = find? (table.filter second) key := by
  induction table with
  | nil => rfl
  | cons entry table ih =>
      obtain ⟨known, value⟩ := entry
      have skipped (kept : Bool) (apart : known ≠ key) (rest : Table α) :
          find? (if kept then (known, value) :: rest else rest) key = find? rest key := by
        split
        · rw [find?_cons, if_neg (Ne.symm apart)]
        · rfl
      rw [List.filter_cons, List.filter_cons]
      by_cases here : known = key
      · subst here
        rw [agree value]
        split
        · rw [find?_cons, find?_cons, if_pos rfl, if_pos rfl]
        · exact ih
      · rw [skipped _ here, skipped _ here, ih]

namespace Graph

/-- A graph as it is read from its template. -/
def readBack (graph : Graph) : Graph := ⟨graph.resources.mapValues Resource.readBack, graph.outputs.orElse (.obj [])⟩

theorem readResources_toValue (resources : Table Resource) :
    readResources (resources.mapValues Resource.toValue) = .ok (resources.mapValues Resource.readBack) := by
  induction resources with
  | nil => rfl
  | cons entry rest ih =>
      change readResources ((entry.1, entry.2.toValue) :: Table.mapValues Resource.toValue rest) = _
      rw [readResources, Result.bind_ok]
      refine ⟨entry.2.readBack, entry.2.ofValue_toValue, ?_⟩
      rw [Result.bind_ok]
      exact ⟨_, ih, rfl⟩

/-- The template of a graph can always be read. -/
theorem entries_obj (fields block : Fields) (key : String) (found : Table.find? fields key = some (.obj block)) :
    Fields.entries fields key = .ok block := by
  unfold Fields.entries
  rw [found]
  cases block <;> rfl

theorem ofTemplate_toTemplate (graph : Graph) : ofTemplate graph.toTemplate = .ok graph.readBack := by
  have entries : Fields.entries [("AWSTemplateFormatVersion", .str "2010-09-09"),
      ("Description", .str "The AWS CloudFormation template for this Serverless application"),
      ("Resources", .obj (graph.resources.mapValues Resource.toValue)), ("Outputs", graph.outputs)] "Resources" =
        .ok (graph.resources.mapValues Resource.toValue) := entries_obj _ _ _ rfl
  rw [toTemplate, ofTemplate, Result.bind_ok]
  refine ⟨_, entries, ?_⟩
  rw [Result.bind_ok]
  exact ⟨_, readResources_toValue graph.resources, rfl⟩

theorem readBack_find? (graph : Graph) (id : String) : graph.readBack.find? id = (graph.find? id).map Resource.readBack :=
  Table.find?_mapValues graph.resources Resource.readBack id

/-- A graph whose resources read the way they are written. -/
def Settled (graph : Graph) : Prop := ∀ id resource, graph.find? id = some resource → resource.Settled

theorem readResources_settled (fields : Fields) (resources : Table Resource)
    (read : readResources fields = .ok resources) : ∀ id resource, (id, resource) ∈ resources → resource.Settled := by
  induction fields generalizing resources with
  | nil =>
      cases read
      exact fun _ _ member => by cases member
  | cons field rest ih =>
      obtain ⟨known, value⟩ := field
      simp only [readResources, Result.bind_ok, Result.pure_ok] at read
      obtain ⟨first, made, others, read, rfl⟩ := read
      intro id resource member
      rcases List.mem_cons.mp member with same | member
      · obtain ⟨rfl, rfl⟩ := Prod.mk.inj same
        exact Resource.ofValue_settled value resource made
      · exact ih others read id resource member

/-- Whatever is read from a template is settled. -/
theorem ofTemplate_settled (template : Value) (graph : Graph) (read : ofTemplate template = .ok graph) :
    ∀ id resource, (id, resource) ∈ graph.resources → resource.Settled := by
  cases template with
  | obj fields =>
      simp only [ofTemplate, Result.bind_ok, Result.pure_ok] at read
      obtain ⟨listed, _, resources, read, rfl⟩ := read
      exact readResources_settled listed resources read
  | _ => cases read

theorem carryRetained_find? (graph previous : Graph) (id : String) :
    (graph.carryRetained previous).find? id = (graph.find? id).or (Table.find? (graph.carried previous) id) :=
  Table.find?_append graph.resources (graph.carried previous) id

/-- What a graph has by itself stays where it is. -/
theorem carried_keeps (graph : Graph) (previous : Option Graph) (id : String) (resource : Resource)
    (found : graph.find? id = some resource) : (previous.elim graph graph.carryRetained).find? id = some resource := by
  cases previous with
  | none => exact found
  | some previous => rw [Option.elim_some, carryRetained_find?, found, Option.some_or]

theorem carried_origin (graph : Graph) (previous : Option Graph) (id : String) (resource : Resource)
    (found : (previous.elim graph graph.carryRetained).find? id = some resource) :
    graph.find? id = some resource ∨
      ∃ earlier, previous = some earlier ∧ (id, resource) ∈ earlier.resources ∧ resource.retained = true := by
  cases previous with
  | none => exact Or.inl found
  | some previous =>
      rw [Option.elim_some, carryRetained_find?] at found
      rcases Option.or_eq_some_iff.mp found with own | ⟨_, carried⟩
      · exact Or.inl own
      · obtain ⟨member, retained, _⟩ := (carried_mem graph previous id resource).mp (Table.find?_some_mem _ _ _ carried)
        exact Or.inr ⟨previous, rfl, member, retained⟩

/-- Outputs are not carried over. -/
theorem carried_outputs (graph : Graph) (previous : Option Graph) :
    (previous.elim graph graph.carryRetained).outputs = graph.outputs := by
  cases previous <;> rfl

/-- What is retained is carried over unless its id is taken. -/
theorem carryRetained_free (graph previous : Graph) (id : String) (resource : Resource)
    (found : previous.find? id = some resource) (retained : resource.retained = true) (free : graph.find? id = none) :
    (graph.carryRetained previous).find? id = some resource := by
  have absent : graph.has id = false := by
    rw [has, Table.has, ← find?, free]
    rfl
  rw [carryRetained_find?, free, Option.none_or]
  exact Table.find?_filter previous.resources _ id resource found (by simp [retained, absent])

/-- Under an id at which two graphs agree, they agree with what is carried over too. -/
theorem carried_agree (graph other : Graph) (previous : Option Graph) (id : String) (same : other.find? id = graph.find? id) :
    (previous.elim other other.carryRetained).find? id = (previous.elim graph graph.carryRetained).find? id := by
  cases previous with
  | none => exact same
  | some previous =>
      have has : other.has id = graph.has id := congrArg Option.isSome same
      rw [Option.elim_some, Option.elim_some, carryRetained_find?, carryRetained_find?, same]
      congr 1
      refine Table.find?_filter_agree previous.resources _ _ id fun resource => ?_
      dsimp only
      rw [has]

theorem carryRetained_settled (graph previous : Graph) (own : graph.Settled)
    (earlier : ∀ id resource, (id, resource) ∈ previous.resources → resource.Settled) :
    (graph.carryRetained previous).Settled := by
  intro id resource found
  rw [carryRetained_find?] at found
  rcases Option.or_eq_some_iff.mp found with here | ⟨_, carried⟩
  · exact own id resource here
  · exact earlier id resource ((carried_mem graph previous id resource).mp (Table.find?_some_mem _ _ _ carried)).1

end Graph

end FunctionStack
