import FunctionStack.Proofs.Template.Complete

/-!
How the default role grows: what its first policy lacks is filled in, and statements come behind those that are there.
-/

namespace FunctionStack

namespace Value

/-- A table that may have got a key it lacked. What is under the key now has come from what was there, or else from a
default. -/
def Filled (key : String) (default : Value) (part : Value → Value → Prop) (before after : Value) : Prop :=
  ∃ own grown value, before = .obj own ∧ after = .obj grown ∧
    Table.keys grown = (if key ∈ Table.keys own then Table.keys own else Table.keys own ++ [key]) ∧
    (∀ other, other ≠ key → Table.find? grown other = Table.find? own other) ∧
    Table.find? grown key = some value ∧ part ((Table.find? own key).getD default) value

variable {key : String} {default : Value} {part next : Value → Value → Prop} {before after : Value}

theorem withDefault_filled (fields : Fields) (given : before.withDefault key default = .ok fields) :
    Filled key default Eq before (.obj fields) := by
  unfold withDefault at given
  split at given
  case h_1 own =>
    cases given
    refine ⟨own, _, _, rfl, rfl, ?_, fun other apart => ?_, ?_, rfl⟩
    · simp only [Table.has_iff_keys]
      split
      · rfl
      · exact List.map_append
    · split
      · rfl
      · rw [Table.find?_append, Table.find?_cons, if_neg apart, Table.find?_nil, Option.or_none]
    · cases found : Table.find? own key with
      | some value => rw [Table.has, found, Option.isSome_some, if_pos rfl, found, Option.getD_some]
      | none =>
          rw [Table.has, found, Option.isSome_none, if_neg Bool.false_ne_true, Table.find?_append, found, Option.none_or,
            Table.find?_cons, if_pos rfl, Option.getD_none]
  case h_2 => cases given

/-- The value under the key may change further. -/
theorem Filled.modify (filled : Filled key default part before after) (f : Value → Value)
    (changes : ∀ a b, after.field? key = some b → part a b → next a (f b)) :
    Filled key default next before (modifyField key f after) := by
  obtain ⟨own, grown, value, rfl, rfl, keys, others, found, come⟩ := filled
  refine ⟨own, Table.update grown key f, f value, rfl, rfl, ?_, fun other apart => ?_, ?_, changes _ value found come⟩
  · rw [← keys]
    simp [Table.keys, Table.update]
  · rw [Table.find?_update, ← others other apart]
    simp [apart]
  · rw [Table.find?_update, found, Option.map_some, if_pos rfl]

theorem completeField_filled (complete : Value → Result Value) (comes : ∀ a b, complete a = .ok b → part a b)
    (completed : completeField key default complete before = .ok after) : Filled key default part before after := by
  simp only [completeField, Result.bind_ok, Result.pure_ok] at completed
  obtain ⟨fields, given, value, done, rfl⟩ := completed
  obtain ⟨own, _, held, rfl, ⟨⟩, keys, others, found, rfl⟩ := withDefault_filled fields given
  have present : key ∈ Table.keys fields := by
    rw [← Table.has_iff_keys, Table.has, found, Option.isSome_some]
  refine ⟨own, Table.insert fields key value, value, rfl, rfl, ?_, fun other apart => ?_, ?_, ?_⟩
  · rw [Table.keys_insert, if_pos present, keys]
  · rw [Table.find?_insert, if_neg apart, others other apart]
  · rw [Table.find?_insert, if_pos rfl]
  · rw [found] at done
    exact comes _ _ done

end Value

namespace ExecutionPolicy

open Value (Filled)

/-- Statements that may have got more behind them, if they are a list. -/
def StatementsGrow (before after : Value) : Prop :=
  before = after ∨ ∃ statements more, before = .arr statements ∧ after = .arr (statements ++ more)

def DocumentGrows (before after : Value) : Prop :=
  ∃ versioned, Filled "Version" (.str "2012-10-17") Eq before versioned ∧
    Filled "Statement" (.arr []) StatementsGrow versioned after

def PolicyGrows (before after : Value) : Prop := Filled "PolicyDocument" (.obj []) DocumentGrows before after

/-- The first policy grows; where there is none, it grows from the empty one. -/
def PoliciesGrow (before after : Value) : Prop :=
  ∃ policy grown others, (before = .arr (policy :: others) ∨ before = .arr [] ∧ policy = emptyPolicy ∧ others = []) ∧
    after = .arr (grown :: others) ∧ PolicyGrows policy grown

/-- The properties of a role whose first policy grows. -/
def RoleGrows (before after : Value) : Prop := Filled "Policies" (.arr []) PoliciesGrow before after

theorem completeDocument_grows (document whole : Value) (completed : completeDocument document = .ok whole) :
    DocumentGrows document whole := by
  simp only [completeDocument, Result.bind_ok, Result.pure_ok] at completed
  obtain ⟨versioned, first, fields, second, rfl⟩ := completed
  refine ⟨.obj versioned, Value.withDefault_filled versioned first, ?_⟩
  obtain ⟨own, _, value, same, ⟨⟩, keys, others, found, rfl⟩ := Value.withDefault_filled fields second
  exact ⟨own, fields, _, same, rfl, keys, others, found, Or.inl rfl⟩

theorem completePolicy_grows (policy whole : Value) (completed : completePolicy policy = .ok whole) :
    PolicyGrows policy whole :=
  Value.completeField_filled completeDocument completeDocument_grows completed

theorem completePolicies_grow (policies whole : Value) (completed : completePolicies policies = .ok whole) :
    PoliciesGrow policies whole := by
  unfold completePolicies at completed
  split at completed
  case h_1 =>
    obtain ⟨grown, done, same⟩ := (Result.bind_ok _ _ _).mp completed
    cases (Result.pure_ok _ _).mp same
    exact ⟨emptyPolicy, grown, [], Or.inr ⟨rfl, rfl, rfl⟩, rfl, completePolicy_grows _ _ done⟩
  case h_2 policy others =>
    obtain ⟨grown, done, same⟩ := (Result.bind_ok _ _ _).mp completed
    cases (Result.pure_ok _ _).mp same
    exact ⟨policy, grown, others, Or.inl rfl, rfl, completePolicy_grows _ _ done⟩
  case h_3 =>
    split at completed
    · cases completed
    · split at completed <;> cases completed

theorem completeRole_grows (properties whole : Value) (completed : completeRole properties = .ok whole) :
    RoleGrows properties whole :=
  Value.completeField_filled completePolicies completePolicies_grow completed

theorem statementOf_of_field? {properties policies policy document statement : Value}
    (first : properties.field? "Policies" = some policies) (second : policies.first? = some policy)
    (third : policy.field? "PolicyDocument" = some document) (fourth : document.field? "Statement" = some statement) :
    statementOf properties = statement := by
  simp only [statementOf, first, Option.bind_eq_bind, Option.bind_some, second, third, fourth, Option.getD_some]

/-- A role that has grown grows on when statements come behind its own. -/
theorem RoleGrows.withStatement {before after : Value} (grows : RoleGrows before after) {statements : List Value}
    (held : statementOf after = .arr statements) (more : List Value) :
    RoleGrows before (withStatement (.arr (statements ++ more)) after) := by
  refine Value.Filled.modify grows _ fun _ policies first grown => ?_
  obtain ⟨policy, whole, others, start, rfl, document⟩ := grown
  refine ⟨policy, _, others, start, rfl, ?_⟩
  refine Value.Filled.modify document _ fun _ body third bodies => ?_
  obtain ⟨versioned, version, filled⟩ := bodies
  refine ⟨versioned, version, ?_⟩
  refine Value.Filled.modify filled _ fun known statement fourth come => ?_
  have same : statement = .arr statements := (statementOf_of_field? first rfl third fourth).symm.trans held
  rcases come with rfl | ⟨earlier, later, rfl, rfl⟩
  · exact Or.inr ⟨statements, more, same, rfl⟩
  · cases same
    exact Or.inr ⟨earlier, later ++ more, rfl, by rw [List.append_assoc]⟩

end ExecutionPolicy

end FunctionStack
