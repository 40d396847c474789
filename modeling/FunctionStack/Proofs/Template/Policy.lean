import FunctionStack.Proofs.Compile.Build
import FunctionStack.Proofs.Template.Graph
import FunctionStack.Proofs.Value.Sort
import FunctionStack.Template.Policy

/-!
Statements of the execution policy: a list that grows by what it does not hold yet, kept in a role.
-/

namespace FunctionStack

theorem Table.find?_update {α : Type} (table : Table α) (key other : String) (f : α → α) :
    (table.update key f).find? other = (table.find? other).map fun a => if other = key then f a else a := by
  induction table with
  | nil => rfl
  | cons entry table ih =>
      obtain ⟨known, value⟩ := entry
      by_cases same : other = known
      · simp [update, find?, same]
      · have apart : (other == known) = false := by simpa using same
        simpa [update, find?, List.lookup_cons, apart] using ih

namespace Value

theorem same_refl (value : Value) (proper : value.isProper = true) : value.same value = true := by
  induction value using nested with
  | null => rfl
  | bool truth => simp [same]
  | int number => simp [same]
  | float number => cases number <;> simp [same, Double.equals, Double.units?]
  | str text => simp [same]
  | arr items ih =>
      rw [isProper, areProper_iff] at proper
      rw [same, sameItems_forall, List.forall₂_same]
      exact fun item member => ih item member (proper item member)
  | obj fields ih =>
      rw [obj_isProper] at proper
      rw [same, Bool.and_eq_true, sameFields_iff]
      refine ⟨by simp, fun key value member => ?_⟩
      exact ⟨value, Table.find?_of_mem fields key value proper.1 member, ih key value member (proper.2 key value member)⟩

theorem field?_modifyField (key : String) (f : Value → Value) (value : Value) :
    (modifyField key f value).field? key = (value.field? key).map f := by
  cases value with
  | obj fields =>
      have updated := Table.find?_update fields key key f
      simpa [modifyField, field?, fields?] using updated
  | _ => rfl

theorem first?_modifyFirst (f : Value → Value) (value : Value) :
    (modifyFirst f value).first? = value.first?.map f := by
  cases value with
  | arr items => cases items <;> rfl
  | _ => rfl

theorem modifyField_again (key : String) (f g : Value → Value) (value : Value) :
    modifyField key g (modifyField key f value) = modifyField key (fun part => g (f part)) value := by
  cases value with
  | obj fields =>
      simp only [modifyField, Table.update, List.map_map]
      congr 2
      funext entry
      by_cases same : entry.1 = key <;> simp [same]
  | _ => rfl

theorem modifyFirst_again (f g : Value → Value) (value : Value) :
    modifyFirst g (modifyFirst f value) = modifyFirst (fun part => g (f part)) value := by
  cases value with
  | arr items => cases items <;> rfl
  | _ => rfl

/-- A table can only be added to a list. -/
theorem addStatement_table (container grown : Value) (fields : Fields) (added : Bool)
    (made : container.addStatement (.obj fields) = .ok (grown, added)) :
    ∃ items, container = .arr items ∧ grown = .arr (Statements.add items (.obj fields)) := by
  simp only [addStatement, Result.bind_ok] at made
  obtain ⟨present, contained, made⟩ := made
  cases container with
  | arr items =>
      refine ⟨items, rfl, ?_⟩
      cases contained
      rw [Statements.add]
      split at made
      case isTrue known =>
        rw [if_pos known]
        exact (congrArg Prod.fst ((Result.pure_ok _ _).mp made)).symm
      case isFalse fresh =>
        rw [if_neg fresh]
        exact (congrArg Prod.fst ((Result.pure_ok _ _).mp made)).symm
  | _ => cases contained

end Value

namespace Statements

/-- The first occurrences among some values, leaving out what is known already. -/
def firstOccurrences (known : List Value) : List Value → List Value
  | [] => []
  | value :: rest =>
    if value.isIn known then firstOccurrences known rest
    else value :: firstOccurrences (known ++ [value]) rest

theorem foldl_add (known values : List Value) :
    values.foldl add known = known ++ firstOccurrences known values := by
  induction values generalizing known with
  | nil => simp [firstOccurrences]
  | cons value rest ih =>
      rw [List.foldl_cons, ih, firstOccurrences, add]
      split
      · rfl
      · rw [List.append_assoc, List.singleton_append]

theorem isIn_add (known : List Value) (statement other : Value) (present : statement.isIn known = true) :
    statement.isIn (add known other) = true := by
  unfold add
  split
  · exact present
  · simp only [Value.isIn, List.any_append, Bool.or_eq_true] at present ⊢
    exact Or.inl present

theorem isIn_added (known : List Value) (statement : Value) (proper : statement.isProper = true) :
    statement.isIn (add known statement) = true := by
  unfold add
  split
  case isTrue present => exact present
  case isFalse =>
    simp only [Value.isIn, List.any_append, Bool.or_eq_true, List.any_cons, List.any_nil, Bool.or_false]
    exact Or.inr (Value.same_refl statement proper)

theorem foldl_add_isIn (known values : List Value) (statement : Value) (present : statement.isIn known = true) :
    statement.isIn (values.foldl add known) = true := by
  induction values generalizing known with
  | nil => exact present
  | cons value rest ih => exact ih _ (isIn_add known statement value present)

theorem mem_foldl_add (known values : List Value) (statement : Value) (member : statement ∈ values.foldl add known) :
    statement ∈ known ∨ statement ∈ values := by
  induction values generalizing known with
  | nil => exact Or.inl member
  | cons value rest ih =>
      rcases ih _ member with before | later
      · unfold add at before
        split at before
        · exact Or.inl before
        · rcases List.mem_append.mp before with before | own
          · exact Or.inl before
          · exact Or.inr (List.mem_cons.mpr (Or.inl (List.mem_singleton.mp own)))
      · exact Or.inr (List.mem_cons_of_mem _ later)

theorem foldl_add_added (known values : List Value) (proper : ∀ value ∈ values, value.isProper = true) :
    ∀ value ∈ values, value.isIn (values.foldl add known) = true := by
  induction values generalizing known with
  | nil => exact fun _ member => by cases member
  | cons first rest ih =>
      obtain ⟨regular, others⟩ := List.forall_mem_cons.mp proper
      exact List.forall_mem_cons.mpr ⟨foldl_add_isIn _ rest first (isIn_added known first regular), ih _ others⟩

theorem foldl_add_present (known values : List Value) (present : ∀ value ∈ values, value.isIn known = true) :
    values.foldl add known = known := by
  induction values with
  | nil => rfl
  | cons first rest ih =>
      obtain ⟨here, others⟩ := List.forall_mem_cons.mp present
      rw [List.foldl_cons, add, if_pos here, ih others]

theorem foldl_add_again (known values : List Value) (proper : ∀ value ∈ values, value.isProper = true) :
    values.foldl add (values.foldl add known) = values.foldl add known :=
  foldl_add_present _ values (foldl_add_added known values proper)

theorem isIn_sorted (known : List Value) (a b : Value) (sorted : a.sortKeys = b.sortKeys)
    (present : a.isIn known = true) : b.isIn known = true := by
  obtain ⟨found, member, equal⟩ := List.any_eq_true.mp present
  exact List.any_eq_true.mpr ⟨found, member, Value.same_sorted a b found sorted equal⟩

end Statements

namespace ExecutionPolicy

def statement? (properties : Value) : Option Value :=
  (properties.field? "Policies" >>= Value.first?) >>= (·.field? "PolicyDocument") >>= (·.field? "Statement")

theorem statementOf_getD (properties : Value) : statementOf properties = (statement? properties).getD .null := rfl

theorem statement?_withStatement (statement properties : Value) :
    statement? (withStatement statement properties) = (statement? properties).map fun _ => statement := by
  unfold statement? withStatement
  rw [Value.field?_modifyField]
  cases properties.field? "Policies" with
  | none => rfl
  | some policies =>
      simp only [Option.map_some, Option.bind_eq_bind, Option.bind_some, Value.first?_modifyFirst]
      cases policies.first? with
      | none => rfl
      | some policy =>
          simp only [Option.map_some, Option.bind_some, Value.field?_modifyField]
          cases policy.field? "PolicyDocument" with
          | none => rfl
          | some document => simp only [Option.map_some, Option.bind_some, Value.field?_modifyField]

theorem statementOf_withStatement (properties statement : Value) (statements : List Value)
    (held : statementOf properties = .arr statements) :
    statementOf (withStatement statement properties) = statement := by
  rw [statementOf_getD] at held ⊢
  rw [statement?_withStatement]
  cases found : statement? properties with
  | none =>
      rw [found] at held
      cases held
  | some _ => rfl

theorem withStatement_again (properties first second : Value) :
    withStatement second (withStatement first properties) = withStatement second properties := by
  simp only [withStatement, Value.modifyField_again, Value.modifyFirst_again]

/-- The default role of a graph keeps a list of statements. -/
def Keeps (graph : Graph) (statements : List Value) : Prop :=
  ∃ role, graph.find? defaultExecutionRole = some role ∧ statementOf role.properties = .arr statements

theorem setProperties_ids (graph : Graph) (id : String) (properties : Value) :
    (setProperties graph id properties).ids = graph.ids := by
  simp [Graph.ids, setProperties, Table.keys, Table.update]

theorem setProperties_find? (graph : Graph) (id other : String) (properties : Value) :
    (setProperties graph id properties).find? other =
      (graph.find? other).map fun r => if other = id then { r with properties := properties } else r :=
  Table.find?_update graph.resources id other fun r => { r with properties := properties }

/-- The policy in the role grows like a list without repetitions. -/
theorem add_inRole (graph : Graph) (statements : List Value) (statement : Value) (keeps : Keeps graph statements) :
    ∃ properties, add graph .inRole statement =
        .ok (setProperties graph defaultExecutionRole properties, .inRole, !statement.isIn statements) ∧
      Keeps (setProperties graph defaultExecutionRole properties) (Statements.add statements statement) := by
  obtain ⟨role, found, held⟩ := keeps
  refine ⟨withStatement (.arr (Statements.add statements statement)) role.properties, ?_, ?_⟩
  · have listed : ExecutionPolicy.inRole.statements graph = .arr statements := by
      rw [ExecutionPolicy.statements, found, Option.elim_some, held]
    unfold add
    rw [listed]
    by_cases present : statement.isIn statements = true
    · simp [Value.addStatement, Value.contains, Statements.add, present, found, bind, Except.bind, pure, Except.pure]
    · simp [Value.addStatement, Value.contains, Statements.add, present, found, bind, Except.bind, pure, Except.pure]
  · refine ⟨_, by rw [setProperties_find?, found, Option.map_some, if_pos rfl], ?_⟩
    exact statementOf_withStatement role.properties _ statements held

/-- A policy that keeps a list takes every statement: into the list, unless it is there. -/
theorem add_listed (graph : Graph) (policy : ExecutionPolicy) (items : List Value) (statement : Value)
    (listed : policy.statements graph = .arr items) :
    ∃ after left, policy.add graph statement = .ok (after, left, !statement.isIn items) ∧
      left.statements after = .arr (Statements.add items statement) := by
  cases policy with
  | apart statements =>
      cases (show statements = .arr items from listed)
      by_cases present : statement.isIn items = true <;>
        simp [ExecutionPolicy.add, ExecutionPolicy.statements, Value.addStatement, Value.contains, Statements.add, present,
          bind, Except.bind, pure, Except.pure]
  | inRole =>
      cases found : graph.find? defaultExecutionRole with
      | none =>
          rw [ExecutionPolicy.statements, found] at listed
          cases listed
      | some role =>
          rw [ExecutionPolicy.statements, found] at listed
          obtain ⟨properties, added, role, kept, held⟩ := add_inRole graph items statement ⟨role, found, listed⟩
          exact ⟨_, _, added, by rw [ExecutionPolicy.statements, kept, Option.elim_some, held]⟩

/-- A table goes into the list that the policy keeps, apart or in the role. -/
theorem add_ok (graph after : Graph) (policy left : ExecutionPolicy) (fields : Fields) (added : Bool)
    (made : policy.add graph (.obj fields) = .ok (after, left, added)) :
    ∃ statements, policy.statements graph = .arr statements ∧
      (policy = .apart (.arr statements) ∧ left = .apart (.arr (Statements.add statements (.obj fields))) ∧
          after = graph ∨
        policy = .inRole ∧ left = .inRole ∧ ∃ role, graph.find? defaultExecutionRole = some role ∧
          after = setProperties graph defaultExecutionRole
            (withStatement (.arr (Statements.add statements (.obj fields))) role.properties)) := by
  rw [add, Result.bind_ok] at made
  obtain ⟨⟨grown, fresh⟩, statements, made⟩ := made
  obtain ⟨items, listed, rfl⟩ := Value.addStatement_table _ _ fields fresh statements
  refine ⟨items, listed, ?_⟩
  cases policy with
  | apart _ =>
      cases made
      rw [ExecutionPolicy.statements] at listed
      exact Or.inl ⟨by rw [listed], rfl, rfl⟩
  | inRole =>
      cases made
      cases found : graph.find? defaultExecutionRole with
      | none =>
          rw [ExecutionPolicy.statements, found] at listed
          cases listed
      | some role => exact Or.inr ⟨rfl, rfl, role, rfl, rfl⟩

end ExecutionPolicy

end FunctionStack
