import FunctionStack.Proofs.Naming
import FunctionStack.Proofs.Template.Policy
import FunctionStack.Proofs.Template.References

/-!
Resources in an order in which they can be created. A resource that mentions anything mentions types that come before
its own, and what users may refer to mentions a bucket at most.
-/

namespace FunctionStack

/-- The place of a type in the order of creation. -/
def creationOrder : String → Nat
  | "AWS::S3::Bucket" => 0
  | "AWS::Logs::LogGroup" => 0
  | "AWS::Lambda::LayerVersion" => 1
  | "AWS::IAM::Role" => 2
  | "AWS::Lambda::Function" => 3
  | "AWS::Lambda::Version" => 4
  | "AWS::Lambda::Alias" => 5
  | _ => 6

/-- What mentions nothing can be created at any time. -/
def Resource.level (resource : Resource) : Nat :=
  if resource.mentions = [] then 0 else (resource.type.text?.map creationOrder).getD 0

/-- A reference that users may write: to one of their own resources or to a pseudo parameter. -/
def IsOwn (own : List String) (id : String) : Prop := id ∈ own ∨ isPseudo id = true

namespace Graph

def Typed (graph : Graph) (id type : String) : Prop :=
  ∃ resource, graph.find? id = some resource ∧ resource.type = .str type

theorem Extends.typed {graph after : Graph} (grown : graph.Extends after) (id type : String)
    (typed : graph.Typed id type) : after.Typed id type := by
  obtain ⟨resource, found, same⟩ := typed
  exact ⟨resource, grown id resource found, same⟩

/-- What has been added has the type that was asked for, also if it was there before. -/
theorem add_typed (graph after : Graph) (id type : String) (resource : Resource) (made : resource.type = .str type)
    (added : graph.add id resource = .ok after) : after.Typed id type := by
  rcases add_ok graph after id resource added with ⟨free, rfl⟩ | ⟨existing, found, same, rfl⟩
  · refine ⟨resource, ?_, made⟩
    rw [find?] at free ⊢
    rw [Table.find?_append, free]
    simp [Table.find?]
  · refine ⟨existing, found, ?_⟩
    simp only [Resource.same, Bool.and_eq_true, made] at same
    have types := same.1.1.1.1
    cases known : existing.type with
    | str text =>
        rw [known, Value.same] at types
        rw [of_decide_eq_true types]
    | _ =>
        rw [known] at types
        simp [Value.same] at types

theorem add_has (graph after : Graph) (id : String) (resource : Resource)
    (added : graph.add id resource = .ok after) : after.has id = true := by
  rcases add_ok graph after id resource added with ⟨free, rfl⟩ | ⟨existing, found, same, rfl⟩
  · rw [has_append]
    simp [Table.has, Table.find?]
  · exact Option.isSome_iff_exists.mpr ⟨existing, found⟩

theorem Extends.has {graph after : Graph} (grown : graph.Extends after) (id : String) (present : graph.has id = true) :
    after.has id = true := by
  obtain ⟨resource, found⟩ := Option.isSome_iff_exists.mp present
  exact Option.isSome_iff_exists.mpr ⟨resource, grown id resource found⟩

/-- What a resource in the given place may mention. A text of one character is what the first character of an
attribute's name may be taken for. -/
inductive Earlier (own functions : List String) (graph : Graph) (place : Nat) (id : String) : Prop
  | written (late : 2 ≤ place) (user : IsOwn own id ∨ id.toList.length = 1)
  | made (type : String) (typed : graph.Typed id type) (before : creationOrder type < place)
  | compiled (late : 3 < place) (function : id ∈ functions)

def Sits (own functions : List String) (graph : Graph) (resource : Resource) : Prop :=
  resource.mentions = [] ∨
    ∃ type, resource.type = .str type ∧ resource.Mentions (Earlier own functions graph (creationOrder type))

/-- A graph whose resources all sit in their places. -/
structure Orderly (own functions : List String) (graph : Graph) : Prop where
  sits : ∀ id resource, graph.find? id = some resource → graph.Sits own functions resource
  low : ∀ id resource, id ∈ own → graph.find? id = some resource →
    resource.mentions = [] ∨ resource.type = .str "AWS::Lambda::LayerVersion"
  minted : ∀ id resource, graph.find? id = some resource → id ∈ own ∨ Naming.isMinted id = true

variable {own functions : List String} {graph after : Graph}

theorem Earlier.grow {place : Nat} {id : String} (earlier : Earlier own functions graph place id)
    (kept : ∀ id type, graph.Typed id type → after.Typed id type) : Earlier own functions after place id := by
  cases earlier with
  | written late user => exact .written late user
  | made type typed before => exact .made type (kept id type typed) before
  | compiled late function => exact .compiled late function

theorem Sits.grow {resource : Resource} (sits : graph.Sits own functions resource)
    (kept : ∀ id type, graph.Typed id type → after.Typed id type) : after.Sits own functions resource := by
  rcases sits with none | ⟨type, same, mentions⟩
  · exact Or.inl none
  · exact Or.inr ⟨type, same, fun id member => (mentions id member).grow kept⟩

theorem Orderly.empty : Orderly own functions Graph.empty where
  sits := fun _ _ found => by cases found
  low := fun _ _ _ found => by cases found
  minted := fun _ _ found => by cases found

theorem Orderly.resources (orderly : Orderly own functions graph) (same : after.resources = graph.resources) :
    Orderly own functions after := by
  have find (id : String) : after.find? id = graph.find? id := by rw [Graph.find?, same, Graph.find?]
  have kept : ∀ id type, graph.Typed id type → after.Typed id type := by
    rintro id type ⟨resource, found, typed⟩
    exact ⟨resource, by rw [find, found], typed⟩
  refine ⟨fun id resource found => ?_, fun id resource member found => ?_, fun id resource found => ?_⟩
  · exact (orderly.sits id resource (by rw [← find, found])).grow kept
  · exact orderly.low id resource member (by rw [← find, found])
  · exact orderly.minted id resource (by rw [← find, found])

theorem Orderly.add {id : String} {resource : Resource} (orderly : Orderly own functions graph)
    (added : graph.add id resource = .ok after) (known : id ∈ own ∨ Naming.isMinted id = true)
    (low : id ∈ own → graph.find? id = none →
      resource.mentions = [] ∨ resource.type = .str "AWS::Lambda::LayerVersion")
    (sits : graph.Sits own functions resource) : Orderly own functions after := by
  have grown := add_extends graph after id resource added
  rcases add_ok graph after id resource added with ⟨free, rfl⟩ | ⟨_, _, _, rfl⟩
  case inr => exact orderly
  -- What is found afterwards was there before, or it is the new resource under its id.
  have either (other : String) (found : Resource)
      (present : Graph.find? { graph with resources := graph.resources ++ [(id, resource)] } other = some found) :
      graph.find? other = some found ∨ other = id ∧ found = resource := by
    rw [Graph.find?, Table.find?_append] at present
    cases before : graph.resources.find? other with
    | some kept =>
        rw [before] at present
        exact Or.inl (by rw [Graph.find?, before]; exact present)
    | none =>
        rw [before] at present
        have pair := Table.find?_some_mem _ _ _ present
        have same := List.mem_singleton.mp pair
        exact Or.inr ⟨congrArg Prod.fst same, congrArg Prod.snd same⟩
  refine ⟨fun other found present => ?_, fun other found member present => ?_, fun other found present => ?_⟩
  · rcases either other found present with before | ⟨_, rfl⟩
    · exact (orderly.sits other found before).grow grown.typed
    · exact sits.grow grown.typed
  · rcases either other found present with before | ⟨rfl, rfl⟩
    · exact orderly.low other found member before
    · exact low member free
  · rcases either other found present with before | ⟨rfl, rfl⟩
    · exact orderly.minted other found before
    · exact known

theorem setProperties_typed (id : String) (properties : Value) (other type : String)
    (typed : graph.Typed other type) : (ExecutionPolicy.setProperties graph id properties).Typed other type := by
  obtain ⟨resource, found, same⟩ := typed
  refine ⟨_, by rw [ExecutionPolicy.setProperties_find?, found, Option.map_some], ?_⟩
  split
  · exact same
  · exact same

/-- The properties of one resource may change, as long as the resource stays in its place. -/
theorem Orderly.setProperties (id : String) (properties : Value) (orderly : Orderly own functions graph)
    (low : id ∈ own → ∀ resource, graph.find? id = some resource → resource.mentions = [] →
      properties.references = [])
    (sits : ∀ resource, graph.find? id = some resource →
      graph.Sits own functions { resource with properties := properties }) :
    Orderly own functions (ExecutionPolicy.setProperties graph id properties) := by
  have kept : ∀ other type, graph.Typed other type →
      (ExecutionPolicy.setProperties graph id properties).Typed other type := setProperties_typed id properties
  have either (other : String) (found : Resource)
      (present : (ExecutionPolicy.setProperties graph id properties).find? other = some found) :
      ∃ before, graph.find? other = some before ∧
        (other ≠ id ∧ found = before ∨ other = id ∧ found = { before with properties := properties }) := by
    rw [ExecutionPolicy.setProperties_find?] at present
    obtain ⟨before, known, same⟩ := Option.map_eq_some_iff.mp present
    by_cases here : other = id
    · rw [if_pos here] at same
      exact ⟨before, known, Or.inr ⟨here, same.symm⟩⟩
    · rw [if_neg here] at same
      exact ⟨before, known, Or.inl ⟨here, same.symm⟩⟩
  refine ⟨fun other found present => ?_, fun other found member present => ?_, fun other found present => ?_⟩
  · obtain ⟨before, known, ⟨_, rfl⟩ | ⟨rfl, rfl⟩⟩ := either other found present
    · exact (orderly.sits other _ known).grow kept
    · exact (sits before known).grow kept
  · obtain ⟨before, known, ⟨_, rfl⟩ | ⟨rfl, rfl⟩⟩ := either other found present
    · exact orderly.low other _ member known
    · refine (orderly.low other before member known).imp_left fun none => ?_
      have fresh := low member before known none
      rw [Resource.mentions, List.append_eq_nil_iff] at none ⊢
      exact ⟨none.1, fresh⟩
  · obtain ⟨before, known, _⟩ := either other found present
    exact orderly.minted other before known

theorem level_typed (resource : Resource) (type : String) (same : resource.type = .str type) :
    resource.level ≤ creationOrder type := by
  unfold Resource.level
  split
  · exact Nat.zero_le _
  · rw [same]
    exact Nat.le_refl _

theorem level_low (resource : Resource)
    (low : resource.mentions = [] ∨ resource.type = .str "AWS::Lambda::LayerVersion") : resource.level ≤ 1 := by
  rcases low with none | same
  · simp [Resource.level, none]
  · exact level_typed resource _ same

/-- An id with a colon, or of one character, is nobody's but the user's. -/
theorem Orderly.user {id : String} {resource : Resource} (orderly : Orderly own functions graph)
    (found : graph.find? id = some resource) (user : IsOwn own id ∨ id.toList.length = 1) : id ∈ own := by
  rcases orderly.minted id resource found with member | minted
  · exact member
  · rw [Naming.isMinted, Bool.and_eq_true, decide_eq_true_eq] at minted
    rcases user with (member | pseudo) | short
    · exact member
    · obtain ⟨rest, text⟩ : ['A', 'W', 'S', ':', ':'] <+: id.toList := List.isPrefixOf_iff_prefix.mp pseudo
      rw [← text] at minted
      exact absurd minted.2 (by simp [Naming.isAsciiAlphanumeric])
    · omega

/-- Levels fall along every reference of an orderly graph. -/
theorem Orderly.acyclic (orderly : Orderly own functions graph)
    (compiled : ∀ id ∈ functions, graph.Typed id "AWS::Lambda::Function") : graph.Acyclic := by
  apply acyclic_of_rank graph Resource.level
  intro id other resource found present mentioned target
  have typed (type : String) (typed : graph.Typed other type) : found.level ≤ creationOrder type := by
    obtain ⟨same, known, types⟩ := typed
    rw [target] at known
    cases known
    exact level_typed found type types
  rcases orderly.sits id resource present with none | ⟨type, same, mentions⟩
  · rw [none] at mentioned
    cases mentioned
  · have level : resource.level = creationOrder type := by
      rw [Resource.level, if_neg (List.ne_nil_of_mem mentioned), same]
      rfl
    rw [level]
    cases mentions other mentioned with
    | written late user =>
        have bound := level_low found (orderly.low other found (orderly.user target user) target)
        omega
    | made before known lower => exact Nat.lt_of_le_of_lt (typed before known) lower
    | compiled late function => exact Nat.lt_of_le_of_lt (typed _ (compiled other function)) late

end Graph

end FunctionStack
