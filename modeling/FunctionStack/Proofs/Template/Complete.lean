import FunctionStack.Proofs.Template.Policy
import FunctionStack.Proofs.Value.Table

/-!
Completion of the default role: it happens once. A complete role stays complete when its statements change, and the
policy of a graph is found again as it was.
-/

namespace FunctionStack

namespace Value

/-- A table in which a key has at least a default, with a complete value under that key. -/
def completeField (key : String) (default : Value) (complete : Value → Result Value) (value : Value) : Result Value := do
  let fields ← value.withDefault key default
  let part ← complete ((Table.find? fields key).getD .null)
  return .obj (Table.insert fields key part)

/-- What is complete already: the value under the key is there and is complete itself. -/
theorem completeField_iff (key : String) (default : Value) (complete : Value → Result Value) (value : Value) :
    completeField key default complete value = .ok value ↔
      ∃ part, value.field? key = some part ∧ complete part = .ok part := by
  cases value with
  | obj fields =>
      have start : (Value.obj fields).withDefault key default =
          .ok (if Table.has fields key then fields else fields ++ [(key, default)]) := rfl
      simp only [completeField, start, Result.bind_ok, Result.pure_ok, Except.ok.injEq, exists_eq_left',
        Value.obj.injEq, field?, fields?, Option.bind_eq_bind, Option.bind_some]
      constructor
      · rintro ⟨part, completed, same⟩
        have found : Table.find? fields key = some part := by
          rw [← same, Table.find?_insert, if_pos rfl]
        have present : Table.has fields key = true := by rw [Table.has, found, Option.isSome_some]
        rw [if_pos present, found, Option.getD_some] at completed
        exact ⟨part, found, completed⟩
      · rintro ⟨part, found, completed⟩
        have present : Table.has fields key = true := by rw [Table.has, found, Option.isSome_some]
        rw [if_pos present, found, Option.getD_some]
        exact ⟨part, completed, Table.insert_present fields key part found⟩
  | _ => simp [completeField, withDefault, FunctionStack.fault, bind, Except.bind, field?, fields?]

theorem completeField_again (key : String) (default : Value) (complete : Value → Result Value)
    (again : ∀ part whole, complete part = .ok whole → complete whole = .ok whole) (value whole : Value)
    (completed : completeField key default complete value = .ok whole) :
    completeField key default complete whole = .ok whole := by
  simp only [completeField, Result.bind_ok, Result.pure_ok] at completed
  obtain ⟨fields, _, part, done, rfl⟩ := completed
  refine (completeField_iff key default complete _).mpr ⟨part, ?_, again _ part done⟩
  change Table.find? (Table.insert fields key part) key = some part
  rw [Table.find?_insert, if_pos rfl]

/-- A change of the value under the key that leaves it complete leaves the table complete. -/
theorem completeField_modify (key : String) (default : Value) (complete : Value → Result Value) (f : Value → Value)
    (keeps : ∀ part, complete part = .ok part → complete (f part) = .ok (f part)) (value : Value)
    (completed : completeField key default complete value = .ok value) :
    completeField key default complete (modifyField key f value) = .ok (modifyField key f value) := by
  rw [completeField_iff] at completed ⊢
  obtain ⟨part, found, done⟩ := completed
  exact ⟨f part, by rw [field?_modifyField, found, Option.map_some], keeps part done⟩

end Value

namespace ExecutionPolicy

theorem completeDocument_iff (document : Value) : completeDocument document = .ok document ↔
    (document.field? "Version").isSome = true ∧ (document.field? "Statement").isSome = true := by
  cases document with
  | obj fields =>
      have start (fields : Fields) (key : String) (default : Value) : (Value.obj fields).withDefault key default =
          .ok (if Table.has fields key then fields else fields ++ [(key, default)]) := rfl
      simp only [completeDocument, start, Result.bind_ok, Result.pure_ok, Except.ok.injEq, exists_eq_left',
        Value.obj.injEq, Value.field?, Value.fields?, Option.bind_eq_bind, Option.bind_some]
      change _ ↔ Table.has fields "Version" = true ∧ Table.has fields "Statement" = true
      by_cases version : Table.has fields "Version" = true
      · by_cases statement : Table.has fields "Statement" = true <;> simp [version, statement]
      · have longer (table : Fields) : (if Table.has (fields ++ [("Version", Value.str "2012-10-17")]) "Statement" then
            fields ++ [("Version", Value.str "2012-10-17")] else table) = fields → table = fields := by
          split
          · intro same
            simp at same
          · exact id
        simp only [version, Bool.false_eq_true, if_false, false_and, iff_false]
        intro same
        have lengths := congrArg List.length (longer _ same)
        simp at lengths
  | _ => simp [completeDocument, Value.withDefault, FunctionStack.fault, bind, Except.bind, Value.field?, Value.fields?]

theorem completeDocument_again (document whole : Value) (completed : completeDocument document = .ok whole) :
    completeDocument whole = .ok whole := by
  simp only [completeDocument, Result.bind_ok, Result.pure_ok] at completed
  obtain ⟨fields, first, others, second, rfl⟩ := completed
  have grown (value : Value) (key : String) (default : Value) (fields : Fields)
      (made : value.withDefault key default = .ok fields) :
      Table.has fields key = true ∧ ∀ other, (value.field? other).isSome = true → Table.has fields other = true := by
    cases value with
    | obj own =>
        cases made
        by_cases present : Table.has own key = true
        · rw [if_pos present]
          exact ⟨present, fun _ known => known⟩
        · rw [if_neg present]
          refine ⟨?_, fun other known => ?_⟩
          · rw [Table.has_iff_mem]
            exact ⟨default, List.mem_append_right _ (List.mem_singleton.mpr rfl)⟩
          · obtain ⟨value, member⟩ := (Table.has_iff_mem own other).mp known
            exact (Table.has_iff_mem _ other).mpr ⟨value, List.mem_append_left _ member⟩
    | _ => cases made
  obtain ⟨statement, kept⟩ := grown _ _ _ _ second
  exact (completeDocument_iff _).mpr ⟨kept "Version" (grown _ _ _ _ first).1, statement⟩

theorem completeDocument_modify (f : Value → Value) (document : Value) (completed : completeDocument document = .ok document) :
    completeDocument (.modifyField "Statement" f document) = .ok (.modifyField "Statement" f document) := by
  rw [completeDocument_iff] at completed ⊢
  obtain ⟨version, statement⟩ := completed
  rw [Value.field?_modifyField]
  refine ⟨?_, by rwa [Option.isSome_map]⟩
  cases document with
  | obj fields =>
      change (Table.find? (Table.update fields "Statement" f) "Version").isSome = true
      rw [Table.find?_update, Option.isSome_map]
      exact version
  | _ => cases version

/-- Only a list can be completed; the policy that is completed is its first one, or the empty one. -/
theorem completePolicies_ok (policies whole : Value) (completed : completePolicies policies = .ok whole) :
    ∃ policy complete others, completePolicy policy = .ok complete ∧ whole = .arr (complete :: others) ∧
      (policies = .arr [] ∨ policies = .arr (policy :: others)) := by
  unfold completePolicies at completed
  split at completed
  case h_1 =>
    obtain ⟨complete, done, same⟩ := (Result.bind_ok _ _ _).mp completed
    exact ⟨_, complete, [], done, ((Result.pure_ok _ _).mp same).symm, Or.inl rfl⟩
  case h_2 policy others =>
    obtain ⟨complete, done, same⟩ := (Result.bind_ok _ _ _).mp completed
    exact ⟨policy, complete, others, done, ((Result.pure_ok _ _).mp same).symm, Or.inr rfl⟩
  case h_3 =>
    split at completed
    · cases completed
    · split at completed <;> cases completed

theorem completePolicies_iff (policies : Value) : completePolicies policies = .ok policies ↔
    ∃ policy others, policies = .arr (policy :: others) ∧ completePolicy policy = .ok policy := by
  constructor
  · intro completed
    obtain ⟨policy, complete, others, done, rfl, empty | same⟩ := completePolicies_ok policies policies completed
    · cases empty
    · obtain ⟨rfl, -⟩ := List.cons.inj (Value.arr.inj same)
      exact ⟨complete, others, rfl, done⟩
  · rintro ⟨policy, others, rfl, done⟩
    exact (Result.bind_ok _ _ _).mpr ⟨policy, done, rfl⟩

/-- A role that is complete already. -/
def IsComplete (properties : Value) : Prop := completeRole properties = .ok properties

theorem completePolicy_again (policy whole : Value) (completed : completePolicy policy = .ok whole) :
    completePolicy whole = .ok whole :=
  Value.completeField_again "PolicyDocument" (.obj []) completeDocument completeDocument_again policy whole completed

theorem completePolicies_again (policies whole : Value) (completed : completePolicies policies = .ok whole) :
    completePolicies whole = .ok whole := by
  obtain ⟨policy, complete, others, done, rfl, _⟩ := completePolicies_ok policies whole completed
  exact (completePolicies_iff _).mpr ⟨complete, others, rfl, completePolicy_again policy complete done⟩

theorem completeRole_complete (properties whole : Value) (completed : completeRole properties = .ok whole) :
    IsComplete whole :=
  Value.completeField_again "Policies" (.arr []) completePolicies completePolicies_again properties whole completed

theorem IsComplete.withStatement {properties : Value} (complete : IsComplete properties) (statement : Value) :
    IsComplete (withStatement statement properties) := by
  have policy (f : Value → Value) (part : Value) (done : completePolicy part = .ok part) :
      completePolicy (.modifyField "PolicyDocument" (.modifyField "Statement" f) part) =
        .ok (.modifyField "PolicyDocument" (.modifyField "Statement" f) part) :=
    Value.completeField_modify "PolicyDocument" (.obj []) completeDocument _ (completeDocument_modify f) part done
  refine Value.completeField_modify "Policies" (.arr []) completePolicies _ (fun policies completed => ?_) properties complete
  obtain ⟨first, others, rfl, done⟩ := (completePolicies_iff policies).mp completed
  exact (completePolicies_iff _).mpr ⟨_, others, rfl, policy _ first done⟩

/-- Where a policy keeps its statements when nothing has been asked for yet. -/
def start (properties : Value) : ExecutionPolicy :=
  match statementOf properties with
  | .null => apart (.arr [])
  | _ => inRole

theorem ofGraph_ok (graph after : Graph) (policy : Option ExecutionPolicy)
    (found : ofGraph graph = .ok (after, policy)) :
    graph.find? defaultExecutionRole = none ∧ after = graph ∧ policy = none ∨
      ∃ role properties, graph.find? defaultExecutionRole = some role ∧ completeRole role.properties = .ok properties ∧
        after = setProperties graph defaultExecutionRole properties ∧ policy = some (start properties) := by
  unfold ofGraph at found
  split at found
  case h_1 none =>
    obtain ⟨rfl, rfl⟩ := Prod.mk.inj (Except.ok.inj found)
    exact Or.inl ⟨none, rfl, rfl⟩
  case h_2 role present =>
    obtain ⟨properties, completed, same⟩ := (Result.bind_ok _ _ _).mp found
    obtain ⟨rfl, rfl⟩ := Prod.mk.inj ((Result.pure_ok _ _).mp same)
    exact Or.inr ⟨role, properties, present, completed, rfl, rfl⟩

/-- A complete role is left as it is. -/
theorem ofGraph_complete (graph : Graph) (distinct : graph.ids.Nodup) (role : Resource)
    (found : graph.find? defaultExecutionRole = some role) (complete : IsComplete role.properties) :
    ofGraph graph = .ok (graph, some (start role.properties)) := by
  have still : setProperties graph defaultExecutionRole role.properties = graph := by
    unfold setProperties
    rw [Table.update_present graph.resources defaultExecutionRole _ fun held member => ?_]
    have same := Table.find?_of_mem graph.resources defaultExecutionRole held distinct member
    rw [Graph.find?, same] at found
    cases found
    rfl
  unfold ofGraph
  rw [found]
  refine (Result.bind_ok _ _ _).mpr ⟨role.properties, complete, ?_⟩
  rw [still]
  rfl

end ExecutionPolicy

end FunctionStack
