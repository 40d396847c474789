import FunctionStack.Proofs.Template.Policy
import FunctionStack.Template.Intrinsic
import FunctionStack.Text.Search
import Mathlib.Logic.Relation

/-!
The references of a template: what a value mentions by an intrinsic function, what a resource is created after, and
the order between resources that follows from both.
-/

namespace FunctionStack

/-- A parameter that every template has. -/
def isPseudo (id : String) : Bool := Text.beginsWith id "AWS::"

/-- The names in placeholders: each dollar sign in front of an opening brace begins one. -/
def placeholders : List Char → List (List Char)
  | [] => []
  | c :: rest =>
    if c = '$' && rest.head? = some (Char.ofNat 123) then
      rest.tail.takeWhile (· ≠ Char.ofNat 125) :: placeholders rest
    else placeholders rest

/-- The id in front of an attribute. -/
def withoutAttribute (name : List Char) : String := .ofList (name.takeWhile (· ≠ '.'))

namespace Value

/-- What a text refers to by placeholders other than pseudo parameters, literals and the text's own variables. -/
def substituted (locals : Fields) (text : String) : List String :=
  ((placeholders text.toList).filter fun name =>
    name.head? ≠ some '!' && !isPseudo (.ofList name) && !Table.has locals (.ofList name)).map withoutAttribute

/-- What a field refers to, if its key is that of an intrinsic function. -/
def fieldReferences (key : String) (value : Value) : List String :=
  if key = "Ref" then value.text?.toList
  else if key = "Fn::GetAtt" then
    match value with
    | .arr (.str id :: _) => [id]
    | .str text => [withoutAttribute text.toList]
    | _ => []
  else if key = "Fn::Sub" then
    match value with
    | .str text => substituted [] text
    | .arr (.str text :: .obj locals :: _) => substituted locals text
    | .arr (.str text :: _) => substituted [] text
    | _ => []
  else []

mutual

/-- Everything that a value refers to, at any depth. -/
def references : Value → List String
  | .arr items => itemReferences items
  | .obj fields => tableReferences fields
  | _ => []

def itemReferences : List Value → List String
  | [] => []
  | item :: items => references item ++ itemReferences items

def tableReferences : List (String × Value) → List String
  | [] => []
  | (key, value) :: fields => fieldReferences key value ++ references value ++ tableReferences fields

end

attribute [local simp] references itemReferences tableReferences

/-- All references of a value are of a kind. -/
def Refers (allowed : String → Prop) (value : Value) : Prop := ∀ id ∈ value.references, allowed id

/-- All references of some fields are of a kind. -/
def FieldsRefer (allowed : String → Prop) (fields : Fields) : Prop :=
  ∀ key value, (key, value) ∈ fields → (∀ id ∈ fieldReferences key value, allowed id) ∧ value.Refers allowed

variable {allowed : String → Prop}

theorem refers_obj (fields : Fields) : (Value.obj fields).Refers allowed ↔ FieldsRefer allowed fields := by
  unfold Refers FieldsRefer
  rw [references]
  induction fields with
  | nil => simp
  | cons field fields ih =>
      obtain ⟨known, first⟩ := field
      simp only [tableReferences, List.mem_append, List.mem_cons, Prod.mk.injEq]
      constructor
      · intro all key value member
        rcases member with ⟨rfl, rfl⟩ | member
        · exact ⟨fun id inside => all id (Or.inl (Or.inl inside)), fun id inside => all id (Or.inl (Or.inr inside))⟩
        · exact ih.mp (fun id inside => all id (Or.inr inside)) key value member
      · intro all id inside
        have head := all known first (Or.inl ⟨rfl, rfl⟩)
        rcases inside with (inside | inside) | inside
        · exact head.1 id inside
        · exact head.2 id inside
        · exact ih.mpr (fun key value member => all key value (Or.inr member)) id inside

theorem refers_arr (items : List Value) : (Value.arr items).Refers allowed ↔ ∀ item ∈ items, item.Refers allowed := by
  unfold Refers
  rw [references]
  induction items with
  | nil => simp
  | cons item items ih =>
      simp only [itemReferences, List.mem_append, List.forall_mem_cons]
      rw [← ih]
      constructor
      · exact fun all => ⟨fun id inside => all id (Or.inl inside), fun id inside => all id (Or.inr inside)⟩
      · rintro ⟨head, tail⟩ id (inside | inside)
        · exact head id inside
        · exact tail id inside

theorem Refers.mono {other : String → Prop} {value : Value} (refers : value.Refers allowed)
    (weaker : ∀ id, allowed id → other id) : value.Refers other := fun id inside => weaker id (refers id inside)

@[simp] theorem refers_str (text : String) : (Value.str text).Refers allowed := by simp [Refers]

@[simp] theorem refers_int (number : Int) : (Value.int number).Refers allowed := by simp [Refers]

@[simp] theorem refers_bool (truth : Bool) : (Value.bool truth).Refers allowed := by simp [Refers]

@[simp] theorem refers_null : Value.null.Refers allowed := by simp [Refers]

theorem refers_texts (items : List String) : (Value.texts items).Refers allowed := by
  rw [Value.texts, refers_arr]
  intro item member
  obtain ⟨text, _, rfl⟩ := List.mem_map.mp member
  exact refers_str text

theorem refers_ref (id : String) : (Intrinsic.ref id).Refers allowed ↔ allowed id := by
  simp [Intrinsic.ref, Refers, fieldReferences, text?]

theorem refers_getAtt (id member : String) : (Intrinsic.getAtt id member).Refers allowed ↔ allowed id := by
  simp [Intrinsic.getAtt, Refers, fieldReferences]

/-- A key that is no intrinsic function. -/
def isPlainKey (key : String) : Bool := key ≠ "Ref" && key ≠ "Fn::GetAtt" && key ≠ "Fn::Sub"

theorem fieldReferences_plain (key : String) (value : Value) (plain : isPlainKey key = true) :
    fieldReferences key value = [] := by
  simp only [isPlainKey, Bool.and_eq_true, decide_eq_true_eq] at plain
  simp [fieldReferences, plain]

theorem refers_join (delimiter : String) (parts : List Value) :
    (Intrinsic.join delimiter parts).Refers allowed ↔ ∀ part ∈ parts, part.Refers allowed := by
  rw [Intrinsic.join, refers_obj]
  simp only [FieldsRefer, List.mem_singleton, Prod.mk.injEq]
  have plain (value : Value) : fieldReferences "Fn::Join" value = [] := fieldReferences_plain _ value rfl
  constructor
  · intro all
    have whole := (all _ _ ⟨rfl, rfl⟩).2
    exact (refers_arr _).mp ((refers_arr _).mp whole _ (by simp))
  · rintro all key value ⟨rfl, rfl⟩
    rw [plain]
    refine ⟨by simp, ?_⟩
    rw [refers_arr]
    intro item member
    simp only [List.mem_cons, List.not_mem_nil, or_false] at member
    rcases member with rfl | rfl
    · exact refers_str delimiter
    · exact (refers_arr parts).mpr all

theorem fieldsRefer_nil : FieldsRefer allowed [] := fun _ _ member => by cases member

theorem fieldsRefer_append (a b : Fields) :
    FieldsRefer allowed (a ++ b) ↔ FieldsRefer allowed a ∧ FieldsRefer allowed b := by
  constructor
  · intro all
    exact ⟨fun key value member => all key value (List.mem_append_left _ member),
      fun key value member => all key value (List.mem_append_right _ member)⟩
  · rintro ⟨first, second⟩ key value member
    exact (List.mem_append.mp member).elim (first key value) (second key value)

theorem fieldsRefer_cons (key : String) (value : Value) (fields : Fields) (plain : isPlainKey key = true) :
    FieldsRefer allowed ((key, value) :: fields) ↔ value.Refers allowed ∧ FieldsRefer allowed fields := by
  constructor
  · intro all
    exact ⟨(all key value (List.mem_cons_self ..)).2,
      fun other found member => all other found (List.mem_cons_of_mem _ member)⟩
  · rintro ⟨head, tail⟩ other found member
    rcases List.mem_cons.mp member with same | member
    · cases same
      rw [fieldReferences_plain key value plain]
      exact ⟨by simp, head⟩
    · exact tail other found member

theorem fieldsRefer_single (key : String) (value : Value) (plain : isPlainKey key = true) :
    FieldsRefer allowed [(key, value)] ↔ value.Refers allowed := by
  rw [fieldsRefer_cons key value [] plain]
  exact ⟨fun both => both.1, fun refers => ⟨refers, fieldsRefer_nil⟩⟩

/-- An optional field, under a key that is no intrinsic function. -/
theorem fieldsRefer_elim {α : Type} (option : Option α) (key : String) (value : α → Value)
    (plain : isPlainKey key = true) (refers : ∀ a, option = some a → (value a).Refers allowed) :
    FieldsRefer allowed (option.elim [] fun a => [(key, value a)]) := by
  cases option with
  | none => exact fieldsRefer_nil
  | some a => exact (fieldsRefer_single key (value a) plain).mpr (refers a rfl)

end Value

namespace Table

variable {α : Type}

theorem mem_insert (table : Table α) (key other : String) (value found : α)
    (member : (other, found) ∈ table.insert key value) : (other, found) = (key, value) ∨ (other, found) ∈ table := by
  induction table with
  | nil => exact Or.inl (List.mem_singleton.mp member)
  | cons entry table ih =>
      obtain ⟨known, first⟩ := entry
      rw [insert] at member
      split at member
      case isTrue same =>
        subst same
        rcases List.mem_cons.mp member with same | member
        · exact Or.inl same
        · exact Or.inr (List.mem_cons_of_mem _ member)
      case isFalse =>
        rcases List.mem_cons.mp member with same | member
        · exact Or.inr (by rw [same]; exact List.mem_cons_self ..)
        · exact (ih member).imp_right (List.mem_cons_of_mem _)

theorem mem_merge (table other : Table α) (key : String) (value : α)
    (member : (key, value) ∈ table.merge other) : (key, value) ∈ table ∨ (key, value) ∈ other := by
  unfold merge at member
  induction other generalizing table with
  | nil => exact Or.inl member
  | cons entry other ih =>
      rw [List.foldl_cons] at member
      rcases ih _ member with member | member
      · exact (mem_insert table entry.1 key entry.2 value member).elim
          (fun same => Or.inr (by rw [same]; exact List.mem_cons_self ..)) Or.inl
      · exact Or.inr (List.mem_cons_of_mem _ member)

end Table

namespace Value

variable {allowed : String → Prop}

theorem fieldsRefer_insert (fields : Fields) (key : String) (value : Value) (plain : isPlainKey key = true)
    (refer : FieldsRefer allowed fields) (refers : value.Refers allowed) :
    FieldsRefer allowed (Table.insert fields key value) := by
  intro other found member
  rcases Table.mem_insert fields key other value found member with same | member
  · cases same
    rw [fieldReferences_plain key value plain]
    exact ⟨by simp, refers⟩
  · exact refer other found member

theorem fieldsRefer_merge (fields other : Fields) (first : FieldsRefer allowed fields)
    (second : FieldsRefer allowed other) : FieldsRefer allowed (Table.merge fields other) := by
  intro key value member
  exact (Table.mem_merge fields other key value member).elim (first key value) (second key value)

end Value

namespace Resource

/-- What a resource is created after or mentions in its properties. -/
def mentions (resource : Resource) : List String :=
  resource.dependsOn.filterMap Value.text? ++ resource.properties.references

def Mentions (allowed : String → Prop) (resource : Resource) : Prop := ∀ id ∈ resource.mentions, allowed id

theorem mentions_iff (allowed : String → Prop) (resource : Resource) :
    resource.Mentions allowed ↔
      (∀ id, .str id ∈ resource.dependsOn → allowed id) ∧ resource.properties.Refers allowed := by
  unfold Mentions mentions Value.Refers
  simp only [List.mem_append, List.mem_filterMap]
  constructor
  · exact fun all => ⟨fun id member => all id (Or.inl ⟨_, member, rfl⟩), fun id member => all id (Or.inr member)⟩
  · rintro ⟨depends, refers⟩ id (⟨value, member, text⟩ | member)
    · cases value <;> simp only [Value.text?, Option.some.injEq, reduceCtorEq] at text
      subst text
      exact depends _ member
    · exact refers id member

end Resource

namespace Graph

/-- One resource of a graph must be created after another. -/
def Needs (graph : Graph) (id other : String) : Prop :=
  ∃ resource, graph.find? id = some resource ∧ other ∈ resource.mentions ∧ graph.has other = true

/-- No resource must be created after itself, over any number of steps. -/
def Acyclic (graph : Graph) : Prop := ∀ id, ¬ Relation.TransGen graph.Needs id id

/-- Ranks that fall along every reference exclude cycles. -/
theorem acyclic_of_rank (graph : Graph) (rank : Resource → Nat)
    (falls : ∀ id other resource found, graph.find? id = some resource → other ∈ resource.mentions →
      graph.find? other = some found → rank found < rank resource) : graph.Acyclic := by
  have descends (id other : String) (path : Relation.TransGen graph.Needs id other) :
      ∃ resource found, graph.find? id = some resource ∧ graph.find? other = some found ∧
        rank found < rank resource := by
    induction path with
    | single needs =>
        obtain ⟨resource, present, mentioned, has⟩ := needs
        obtain ⟨found, target⟩ := Option.isSome_iff_exists.mp has
        exact ⟨resource, found, present, target, falls _ _ resource found present mentioned target⟩
    | tail _ needs ih =>
        obtain ⟨resource, between, first, second, lower⟩ := ih
        obtain ⟨same, present, mentioned, has⟩ := needs
        obtain ⟨found, target⟩ := Option.isSome_iff_exists.mp has
        rw [second] at present
        cases present
        exact ⟨resource, found, first, target, (falls _ _ between found second mentioned target).trans lower⟩
  intro id cycle
  obtain ⟨resource, found, first, second, lower⟩ := descends id id cycle
  rw [first] at second
  cases second
  exact Nat.lt_irrefl _ lower

end Graph

end FunctionStack
