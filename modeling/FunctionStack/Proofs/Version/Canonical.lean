import FunctionStack.Proofs.Value.Table
import FunctionStack.Version.Digest

/-!
The properties that count for a version, piece by piece: those of a list of fields are those of its parts, and a field
that no version holds leaves no trace.
-/

namespace FunctionStack

namespace Table

variable {α : Type}

theorem erase_append (table other : Table α) (key : String) :
    erase (table ++ other) key = table.erase key ++ other.erase key := List.filter_append ..

theorem erase_insert (table : Table α) (key other : String) (value : α) (apart : key ≠ other) :
    (table.insert key value).erase other = (table.erase other).insert key value := by
  induction table with
  | nil => simp [insert, erase, apart]
  | cons entry table ih =>
      obtain ⟨known, first⟩ := entry
      rw [erase] at ih ⊢
      by_cases here : known = key
      · subst here
        simp [insert, erase, apart]
      · by_cases gone : known = other
        · simpa [insert, erase, here, gone, apart.symm] using ih
        · simpa [insert, erase, here, gone] using ih

theorem erase_insert_self (table : Table α) (key : String) (value : α) : (table.insert key value).erase key = table.erase key := by
  induction table with
  | nil => simp [insert, erase]
  | cons entry table ih =>
      obtain ⟨known, first⟩ := entry
      rw [erase, erase] at ih
      by_cases here : known = key
      · subst here
        simp [insert, erase]
      · simpa [insert, erase, here] using ih

end Table

namespace Version

variable (properties others : Fields) (isImage : Bool)

theorem canonicalProperties_append :
    canonicalProperties (properties ++ others) isImage =
      canonicalProperties properties isImage ++ canonicalProperties others isImage := by
  cases isImage <;> simp [canonicalProperties, globalProperties, Table.erase_append]

theorem canonicalProperties_find? (key : String) (counts : key ∉ "Code" :: globalProperties) :
    Table.find? (canonicalProperties properties isImage) key = Table.find? properties key := by
  simp only [globalProperties, List.mem_cons, List.not_mem_nil, or_false, not_or] at counts
  obtain ⟨code, reserved, tags⟩ := counts
  cases isImage <;> simp [canonicalProperties, globalProperties, Table.find?_erase, code, reserved, tags]

theorem canonicalProperties_insert (key : String) (value : Value) (counts : key ∉ "Code" :: globalProperties) :
    canonicalProperties (Table.insert properties key value) isImage =
      Table.insert (canonicalProperties properties isImage) key value := by
  simp only [globalProperties, List.mem_cons, List.not_mem_nil, or_false, not_or] at counts
  obtain ⟨code, reserved, tags⟩ := counts
  cases isImage <;> simp [canonicalProperties, globalProperties, Table.erase_insert, code, reserved, tags]

theorem canonicalProperties_drop (key : String) (value : Value) (dropped : key ∈ globalProperties) :
    canonicalProperties ((key, value) :: properties) isImage = canonicalProperties properties isImage := by
  simp only [globalProperties, List.mem_cons, List.not_mem_nil, or_false] at dropped
  rcases dropped with rfl | rfl <;> cases isImage <;> simp [canonicalProperties, globalProperties, Table.erase]

/-- Where code is stored counts for images only. -/
theorem canonicalProperties_code (value : Value) :
    canonicalProperties (("Code", value) :: properties) false = canonicalProperties properties false := by
  simp [canonicalProperties, globalProperties, Table.erase]

end Version

end FunctionStack
