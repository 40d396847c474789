import FunctionStack.Proofs.Value.Alike
import FunctionStack.Storage.Document

/-!
What is read from a JSON text has no key twice in a table, and every number in its one form.
-/

namespace FunctionStack

namespace JsonReader

open Text (StandIns)

theorem readMagnitude_proper (negative : Bool) (input rest : List Char) (value : Value)
    (reads : readMagnitude negative input = .ok (value, rest)) : value.isProper = true := by
  unfold readMagnitude at reads
  dsimp only at reads
  generalize (if (input.takeWhile Char.isDigit).head? = some '0' then ['0'] else input.takeWhile Char.isDigit) = whole
    at reads
  split at reads
  · cases reads
  · split at reads
    · split at reads
      · cases reads
      · cases reads
        rfl
    · cases reads
      rw [Value.isProper]
      exact Double.ofDigits_canonical ..

theorem readScalar_proper (input rest : List Char) (value : Value) (reads : readScalar input = .ok (value, rest)) :
    value.isProper = true := by
  unfold readScalar at reads
  split at reads
  case h_1 found word =>
    cases reads
    obtain ⟨⟨spelling, known⟩, listed, taken⟩ := List.exists_of_findSome?_eq_some word
    simp only [Option.map_eq_some_iff, Prod.mk.injEq] at taken
    obtain ⟨_, -, rfl, -⟩ := taken
    simp only [words, List.mem_cons, Prod.mk.injEq, List.not_mem_nil, or_false] at listed
    rcases listed with ⟨-, rfl⟩ | ⟨-, rfl⟩ | ⟨-, rfl⟩ | ⟨-, rfl⟩ | ⟨-, rfl⟩ | ⟨-, rfl⟩ <;> rfl
  case h_2 =>
    split at reads <;> exact readMagnitude_proper _ _ _ _ reads

theorem map_ok {α β : Type} (f : α → β) (check : Except JsonFlaw α) (b : β) (done : check.map f = .ok b) :
    ∃ a, check = .ok a ∧ f a = b := by
  cases check with
  | error flaw => cases done
  | ok a => exact ⟨a, rfl, Except.ok.inj done⟩

theorem bind_ok {α β : Type} (f : α → Except JsonFlaw β) (check : Except JsonFlaw α) (b : β)
    (done : (check >>= f) = .ok b) : ∃ a, check = .ok a ∧ f a = .ok b := by
  cases check with
  | error flaw => cases done
  | ok a => exact ⟨a, rfl, done⟩

/-- What is read with so much fuel is proper, and so are the parts of a list and of a table. -/
structure ReadsProper (halves : StandIns) (fuel : Nat) : Prop where
  value : ∀ input value rest, readValue halves fuel input = .ok (value, rest) → value.isProper = true
  items : ∀ input items rest, readItems halves fuel input = .ok (items, rest) → ∀ item ∈ items, item.isProper = true
  fields : ∀ input known fields rest, (Value.obj known).isProper = true →
    readFields halves fuel input known = .ok (fields, rest) → (Value.obj fields).isProper = true

variable {halves : StandIns} {fuel : Nat}

theorem ReadsProper.next_value (inside : ReadsProper halves fuel) (input : List Char) (value : Value) (rest : List Char)
    (reads : readValue halves (fuel + 1) input = .ok (value, rest)) : value.isProper = true := by
  rw [readValue] at reads
  split at reads
  · obtain ⟨_, -, same⟩ := map_ok _ _ _ reads
    cases same
    rfl
  · split at reads
    · cases reads
      rfl
    · obtain ⟨⟨items, _⟩, found, same⟩ := map_ok _ _ _ reads
      cases same
      rw [Value.isProper, Value.areProper_iff]
      exact inside.items _ items _ found
  · split at reads
    · split at reads
      · split at reads
        · cases reads
          rfl
        · obtain ⟨⟨fields, _⟩, found, same⟩ := map_ok _ _ _ reads
          cases same
          exact inside.fields _ [] fields _ rfl found
      · cases reads
    · exact readScalar_proper _ _ _ reads
  · cases reads

theorem ReadsProper.next_items (inside : ReadsProper halves fuel) (input : List Char) (items : List Value) (rest : List Char)
    (reads : readItems halves (fuel + 1) input = .ok (items, rest)) : ∀ item ∈ items, item.isProper = true := by
  rw [readItems] at reads
  obtain ⟨⟨first, after⟩, found, reads⟩ := bind_ok _ _ _ reads
  have proper := inside.value _ first _ found
  dsimp only at reads
  split at reads
  · obtain ⟨⟨others, _⟩, more, same⟩ := bind_ok _ _ _ reads
    cases same
    intro item member
    rcases List.mem_cons.mp member with rfl | later
    · exact proper
    · exact inside.items _ others _ more item later
  · cases reads
    intro item member
    rw [List.mem_singleton.mp member]
    exact proper
  · cases reads

theorem ReadsProper.next_fields (inside : ReadsProper halves fuel) (input : List Char) (known fields : Fields)
    (rest : List Char) (proper : (Value.obj known).isProper = true)
    (reads : readFields halves (fuel + 1) input known = .ok (fields, rest)) : (Value.obj fields).isProper = true := by
  rw [readFields] at reads
  split at reads
  · obtain ⟨⟨key, _⟩, -, reads⟩ := bind_ok _ _ _ reads
    dsimp only at reads
    split at reads
    · obtain ⟨⟨value, _⟩, found, reads⟩ := bind_ok _ _ _ reads
      have more := Value.insert_isProper known (.ofList key) value proper (inside.value _ value _ found)
      dsimp only at reads
      split at reads
      · exact inside.fields _ _ fields _ more reads
      · split at reads
        · cases reads
          exact more
        · cases reads
      · cases reads
    · cases reads
  · cases reads

/-- One more unit of fuel reads what is made of parts that less fuel reads. -/
theorem readsProper (halves : StandIns) (fuel : Nat) : ReadsProper halves fuel := by
  induction fuel with
  | zero =>
      constructor
      · intro input value rest reads
        rw [readValue] at reads
        cases reads
      · intro input items rest reads
        rw [readItems] at reads
        cases reads
      · intro input known fields rest proper reads
        rw [readFields] at reads
        cases reads
  | succ fuel ih => exact ⟨ih.next_value, ih.next_items, ih.next_fields⟩

end JsonReader

namespace Value

theorem ofJson_isProper (halves : Text.StandIns) (text : String) (value : Value) (reads : ofJson halves text = .ok value) :
    value.isProper = true := by
  unfold ofJson at reads
  obtain ⟨⟨found, rest⟩, held, reads⟩ := JsonReader.bind_ok _ _ _ reads
  dsimp only at reads
  split at reads
  · cases reads
    exact (JsonReader.readsProper halves _).value _ _ _ held
  · cases reads

theorem readJson_isProper (halves : Text.StandIns) (text : String) (value : Value)
    (reads : readJson halves text = .ok value) : value.isProper = true := by
  unfold readJson at reads
  split at reads
  · rename_i outcome
    cases reads
    exact ofJson_isProper halves text _ outcome
  · cases reads
  · cases reads

end Value

/-- What a file reads as is proper, unless it is known by a value that is not. -/
theorem FileContent.toValue_isProper (content : FileContent)
    (known : ∀ value, content = .document (some value) → value.isProper = true) (value : Value)
    (reads : content.toValue = .ok value) : value.isProper = true := by
  cases content with
  | document held =>
      cases held with
      | none => cases reads
      | some own =>
          cases reads
          exact known _ rfl
  | bytes blob =>
      rw [toValue] at reads
      obtain ⟨text, -, reads⟩ := (Result.bind_ok _ _ _).mp reads
      split at reads
      · cases reads
        rfl
      · split at reads
        · rename_i own held
          cases reads
          rw [Value.ofJson?] at held
          cases outcome : Value.ofJson .empty text with
          | error flaw =>
              rw [outcome] at held
              cases held
          | ok read =>
              rw [outcome] at held
              cases held
              exact Value.ofJson_isProper .empty text _ outcome
        · split at reads
          · cases reads
            rfl
          · cases reads

end FunctionStack
