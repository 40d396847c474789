import FunctionStack.Proofs.Compile.Build
import FunctionStack.Proofs.Template.References

/-!
What a role refers to after a change of its policy: completing the policy adds no reference, and a statement adds its
own.
-/

namespace FunctionStack

namespace Value

variable {allowed : String → Prop}

theorem Refers.find? {fields : Fields} (refer : FieldsRefer allowed fields) (key : String) (value : Value)
    (found : Table.find? fields key = some value) : value.Refers allowed :=
  (refer key value (Table.find?_some_mem fields key value found)).2

theorem Refers.field? {value : Value} (refers : value.Refers allowed) (key : String) (part : Value)
    (found : value.field? key = some part) : part.Refers allowed := by
  cases value with
  | obj fields => exact Refers.find? ((refers_obj fields).mp refers) key part found
  | _ => cases found

theorem Refers.first? {value : Value} (refers : value.Refers allowed) (part : Value)
    (found : value.first? = some part) : part.Refers allowed := by
  cases value with
  | arr items =>
      cases items with
      | nil => cases found
      | cons item items =>
          cases found
          exact (refers_arr _).mp refers part (List.mem_cons_self ..)
  | _ => cases found

theorem Refers.modifyField {value : Value} (refers : value.Refers allowed) (key : String) (f : Value → Value)
    (plain : isPlainKey key = true) (changed : ∀ part, part.Refers allowed → (f part).Refers allowed) :
    (Value.modifyField key f value).Refers allowed := by
  cases value with
  | obj fields =>
      rw [Value.modifyField, refers_obj]
      intro other part member
      obtain ⟨⟨known, before⟩, listed, same⟩ := List.mem_map.mp member
      have entry := (refers_obj fields).mp refers known before listed
      by_cases here : known = key
      · simp only [here, if_true, Prod.mk.injEq] at same
        obtain ⟨rfl, rfl⟩ := same
        rw [fieldReferences_plain key _ plain]
        exact ⟨by simp, changed before entry.2⟩
      · simp only [here, if_false, Prod.mk.injEq] at same
        obtain ⟨rfl, rfl⟩ := same
        exact entry
  | _ => exact refers

theorem Refers.modifyFirst {value : Value} (refers : value.Refers allowed) (f : Value → Value)
    (changed : ∀ part, part.Refers allowed → (f part).Refers allowed) :
    (Value.modifyFirst f value).Refers allowed := by
  cases value with
  | arr items =>
      cases items with
      | nil => exact refers
      | cons item items =>
          have each := (refers_arr _).mp refers
          rw [Value.modifyFirst, refers_arr, List.forall_mem_cons]
          exact ⟨changed item (each item (List.mem_cons_self ..)),
            fun other member => each other (List.mem_cons_of_mem _ member)⟩
  | _ => exact refers

theorem Refers.withDefault {value : Value} (refers : value.Refers allowed) (key : String) (default : Value)
    (fields : Fields) (plain : isPlainKey key = true) (given : default.Refers allowed)
    (made : value.withDefault key default = .ok fields) : FieldsRefer allowed fields := by
  cases value with
  | obj before =>
      rw [Value.withDefault] at made
      rw [← Except.ok.inj made]
      have refer := (refers_obj before).mp refers
      split
      · exact refer
      · rw [fieldsRefer_append, fieldsRefer_cons _ _ _ plain]
        exact ⟨refer, given, fieldsRefer_nil⟩
  | _ => cases made

theorem Refers.getD {fields : Fields} (refer : FieldsRefer allowed fields) (key : String) :
    ((Table.find? fields key).getD .null).Refers allowed := by
  cases found : Table.find? fields key with
  | none => exact refers_null
  | some value => exact Refers.find? refer key value found

theorem Refers.addStatement {container statement grown : Value} {added : Bool} (refers : container.Refers allowed)
    (asked : statement.Refers allowed) (made : container.addStatement statement = .ok (grown, added)) :
    grown.Refers allowed := by
  unfold Value.addStatement at made
  rw [Result.bind_ok] at made
  obtain ⟨present, _, made⟩ := made
  by_cases known : present = true
  · rw [if_pos known] at made
    cases made
    exact refers
  · rw [if_neg known] at made
    cases container with
    | arr items =>
        cases made
        rw [refers_arr] at refers ⊢
        rw [List.forall_mem_append, List.forall_mem_singleton]
        exact ⟨refers, asked⟩
    | _ => cases made

end Value

namespace ExecutionPolicy

open Value

variable {allowed : String → Prop}

theorem completeDocument_refers (document completed : Value) (refers : document.Refers allowed)
    (made : completeDocument document = .ok completed) : completed.Refers allowed := by
  simp only [completeDocument, Result.bind_ok, Result.pure_ok] at made
  obtain ⟨versioned, first, fields, second, rfl⟩ := made
  have version := refers.withDefault "Version" _ versioned rfl (refers_str _) first
  rw [refers_obj]
  exact ((refers_obj versioned).mpr version).withDefault "Statement" _ fields rfl ((refers_arr _).mpr (by simp)) second

theorem completePolicy_refers (policy completed : Value) (refers : policy.Refers allowed)
    (made : completePolicy policy = .ok completed) : completed.Refers allowed := by
  simp only [completePolicy, Result.bind_ok, Result.pure_ok] at made
  obtain ⟨fields, first, document, second, rfl⟩ := made
  have refer := refers.withDefault "PolicyDocument" _ fields rfl ((refers_obj _).mpr fieldsRefer_nil) first
  exact (refers_obj _).mpr
    (fieldsRefer_insert _ _ document rfl refer (completeDocument_refers _ document (Refers.getD refer _) second))

theorem completePolicies_refers (policies completed : Value) (refers : policies.Refers allowed)
    (made : completePolicies policies = .ok completed) : completed.Refers allowed := by
  unfold completePolicies at made
  split at made
  · rw [Result.bind_ok] at made
    obtain ⟨policy, complete, made⟩ := made
    cases made
    have empty : emptyPolicy.Refers allowed := by
      rw [emptyPolicy, refers_obj, fieldsRefer_cons _ _ _ rfl, fieldsRefer_cons _ _ _ rfl, refers_obj]
      exact ⟨refers_str _, fieldsRefer_nil, fieldsRefer_nil⟩
    rw [refers_arr, List.forall_mem_singleton]
    exact completePolicy_refers _ policy empty complete
  · rw [Result.bind_ok] at made
    obtain ⟨policy, complete, made⟩ := made
    cases made
    rw [refers_arr, List.forall_mem_cons] at refers ⊢
    exact ⟨completePolicy_refers _ policy refers.1 complete, refers.2⟩
  · split at made
    · cases made
    · split at made <;> cases made

theorem completeRole_refers (properties completed : Value) (refers : properties.Refers allowed)
    (made : completeRole properties = .ok completed) : completed.Refers allowed := by
  simp only [completeRole, Result.bind_ok, Result.pure_ok] at made
  obtain ⟨fields, first, policies, second, rfl⟩ := made
  have refer := refers.withDefault "Policies" _ fields rfl ((refers_arr _).mpr (by simp)) first
  exact (refers_obj _).mpr
    (fieldsRefer_insert _ _ policies rfl refer (completePolicies_refers _ policies (Refers.getD refer _) second))

theorem statementOf_refers (properties : Value) (refers : properties.Refers allowed) :
    (statementOf properties).Refers allowed := by
  rw [statementOf_getD]
  cases found : statement? properties with
  | none => exact refers_null
  | some statement =>
      simp only [statement?, Option.bind_eq_bind, Option.bind_eq_some_iff] at found
      obtain ⟨document, ⟨policy, ⟨policies, first, second⟩, third⟩, fourth⟩ := found
      have one := refers.field? "Policies" policies first
      have two := (one.first? policy second).field? "PolicyDocument" document third
      exact two.field? "Statement" statement fourth

theorem withStatement_refers (statement properties : Value) (asked : statement.Refers allowed)
    (refers : properties.Refers allowed) : (withStatement statement properties).Refers allowed := by
  refine refers.modifyField _ _ rfl fun policies one => one.modifyFirst _ fun policy two => ?_
  exact two.modifyField _ _ rfl fun document three => three.modifyField _ _ rfl fun _ _ => asked

/-- A grant leaves the graph alone, or it adds to the role what the statement refers to. -/
theorem add_refers (graph after : Graph) (policy left : ExecutionPolicy) (statement : Value) (added : Bool)
    (role : Resource) (found : graph.find? defaultExecutionRole = some role)
    (refers : role.properties.Refers allowed) (asked : statement.Refers allowed)
    (made : policy.add graph statement = .ok (after, left, added)) :
    after = graph ∨ ∃ properties, after = setProperties graph defaultExecutionRole properties ∧
      properties.Refers allowed := by
  rw [add, Result.bind_ok] at made
  obtain ⟨⟨grown, fresh⟩, statements, made⟩ := made
  cases policy with
  | apart _ =>
      cases made
      exact Or.inl rfl
  | inRole =>
      cases made
      refine Or.inr ⟨_, rfl, ?_⟩
      rw [ExecutionPolicy.statements, found, Option.elim_some] at statements
      rw [found, Option.elim_some]
      exact withStatement_refers grown role.properties
        ((statementOf_refers role.properties refers).addStatement asked statements) refers

end ExecutionPolicy

end FunctionStack
