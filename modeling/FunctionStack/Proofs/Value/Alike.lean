import FunctionStack.Proofs.Template.References
import FunctionStack.Proofs.Value.Sort

/-!
Tables that are alike: under each key both hold a value, and the values are alike, or neither does.
-/

namespace FunctionStack

namespace Table

variable {α : Type}

theorem find?_cons (table : Table α) (known other : String) (value : α) :
    find? ((known, value) :: table) other = if other = known then some value else table.find? other := by
  rw [find?, List.lookup_cons]
  by_cases same : other = known
  · simp [same]
  · have apart : (other == known) = false := by simpa using same
    simp [apart, same, find?]

theorem find?_insert (table : Table α) (key other : String) (value : α) :
    (table.insert key value).find? other = if other = key then some value else table.find? other := by
  induction table with
  | nil => exact find?_cons [] key other value
  | cons entry table ih =>
      obtain ⟨known, first⟩ := entry
      rw [insert]
      by_cases here : known = key
      · rw [if_pos here, find?_cons, find?_cons, here]
        split <;> rfl
      · rw [if_neg here, find?_cons, find?_cons, ih]
        by_cases same : other = known
        · rw [if_pos same, if_pos same, if_neg fun equal => here (same.symm.trans equal)]
        · rw [if_neg same, if_neg same]

theorem find?_erase (table : Table α) (key other : String) :
    (table.erase key).find? other = if other = key then none else table.find? other := by
  induction table with
  | nil => simp [erase, find?]
  | cons entry table ih =>
      obtain ⟨known, first⟩ := entry
      rw [erase] at ih ⊢
      by_cases here : known = key
      · rw [List.filter_cons_of_neg (by simp [here]), ih, find?_cons, here]
        split <;> rfl
      · rw [List.filter_cons_of_pos (by simp [here]), find?_cons, find?_cons, ih]
        by_cases same : other = known
        · rw [if_pos same, if_pos same, if_neg fun equal => here (same.symm.trans equal)]
        · rw [if_neg same, if_neg same]

theorem keys_erase_nodup (table : Table α) (key : String) (distinct : (table.map Prod.fst).Nodup) :
    ((table.erase key).map Prod.fst).Nodup :=
  distinct.sublist (List.filter_sublist.map Prod.fst)

theorem keys_insert_nodup (table : Table α) (key : String) (value : α) (distinct : (table.map Prod.fst).Nodup) :
    ((table.insert key value).map Prod.fst).Nodup := by
  induction table with
  | nil => simp [insert]
  | cons entry table ih =>
      obtain ⟨known, first⟩ := entry
      rw [List.map_cons, List.nodup_cons] at distinct
      rw [insert]
      by_cases here : known = key
      · rw [if_pos here, List.map_cons, List.nodup_cons]
        exact distinct
      · rw [if_neg here, List.map_cons, List.nodup_cons]
        refine ⟨fun member => ?_, ih distinct.2⟩
        obtain ⟨⟨other, found⟩, listed, same⟩ := List.mem_map.mp member
        rcases mem_insert table key other value found listed with pair | before
        · exact here (same.symm.trans (congrArg Prod.fst pair))
        · exact distinct.1 (List.mem_map.mpr ⟨_, before, same⟩)

end Table

namespace Value

theorem erase_isProper (fields : Fields) (key : String) (proper : (Value.obj fields).isProper = true) :
    (Value.obj (Table.erase fields key)).isProper = true := by
  rw [obj_isProper] at proper ⊢
  refine ⟨Table.keys_erase_nodup fields key proper.1, fun other value member => ?_⟩
  exact proper.2 other value (List.mem_filter.mp member).1

theorem insert_isProper (fields : Fields) (key : String) (value : Value) (proper : (Value.obj fields).isProper = true)
    (regular : value.isProper = true) : (Value.obj (Table.insert fields key value)).isProper = true := by
  rw [obj_isProper] at proper ⊢
  refine ⟨Table.keys_insert_nodup fields key value proper.1, fun other found member => ?_⟩
  rcases Table.mem_insert fields key other value found member with same | member
  · rw [(Prod.mk.inj same).2]
    exact regular
  · exact proper.2 other found member

theorem keys_length (a b : Fields) (distinct : (a.map Prod.fst).Nodup) (subset : a.map Prod.fst ⊆ b.map Prod.fst) :
    a.length ≤ b.length := by
  have bound := (List.subperm_of_subset distinct subset).length_le
  rwa [List.length_map, List.length_map] at bound

/-- If the keys of one table are keys of another one of the same size, there are no others. -/
theorem keys_all (a b : Fields) (distinct : (a.map Prod.fst).Nodup) (size : a.length = b.length)
    (subset : a.map Prod.fst ⊆ b.map Prod.fst) (key : String) (member : key ∈ b.map Prod.fst) : key ∈ a.map Prod.fst :=
  ((List.subperm_of_subset distinct subset).perm_of_length_le (by simp [size])).mem_iff.mpr member

/-- Tables are alike exactly if they hold alike values, or none, under each key. -/
theorem alike_obj_iff (a b : Fields) (distinct : (a.map Prod.fst).Nodup) (unrepeated : (b.map Prod.fst).Nodup) :
    alike (.obj a) (.obj b) = true ↔
      ∀ key, Option.Rel (fun x y => alike x y = true) (Table.find? a key) (Table.find? b key) := by
  rw [alike, Bool.and_eq_true, decide_eq_true_eq, alikeFields_iff]
  constructor
  · rintro ⟨size, each⟩ key
    cases found : Table.find? a key with
    | some value =>
        obtain ⟨other, present, equal⟩ := each key value (Table.find?_some_mem a key value found)
        rw [show Table.find? b key = some other from present]
        exact .some equal
    | none =>
        cases present : Table.find? b key with
        | none => exact .none
        | some other =>
            have subset : a.map Prod.fst ⊆ b.map Prod.fst := by
              intro known member
              obtain ⟨⟨_, value⟩, listed, rfl⟩ := List.mem_map.mp member
              obtain ⟨target, inside, _⟩ := each _ value listed
              exact List.mem_map.mpr ⟨_, Table.find?_some_mem b _ target inside, rfl⟩
            have member : key ∈ a.map Prod.fst := keys_all a b distinct size subset key
              (List.mem_map.mpr ⟨_, Table.find?_some_mem b key other present, rfl⟩)
            obtain ⟨⟨_, value⟩, listed, rfl⟩ := List.mem_map.mp member
            rw [Table.find?_of_mem a _ value distinct listed] at found
            cases found
  · intro related
    have forward (key : String) (value : Value) (member : (key, value) ∈ a) :
        ∃ found, Table.find? b key = some found ∧ alike value found = true := by
      have here := related key
      rw [Table.find?_of_mem a key value distinct member] at here
      cases other : Table.find? b key with
      | none =>
          rw [other] at here
          cases here
      | some found =>
          rw [other] at here
          cases here with
          | some equal => exact ⟨found, rfl, equal⟩
    have backward (key : String) (value : Value) (member : (key, value) ∈ b) : key ∈ a.map Prod.fst := by
      have here := related key
      rw [Table.find?_of_mem b key value unrepeated member] at here
      cases other : Table.find? a key with
      | none =>
          rw [other] at here
          cases here
      | some found => exact List.mem_map.mpr ⟨_, Table.find?_some_mem a key found other, rfl⟩
    refine ⟨Nat.le_antisymm (keys_length a b distinct fun known member => ?_)
      (keys_length b a unrepeated fun known member => ?_), forward⟩
    · obtain ⟨⟨_, value⟩, listed, rfl⟩ := List.mem_map.mp member
      obtain ⟨found, present, _⟩ := forward _ value listed
      exact List.mem_map.mpr ⟨_, Table.find?_some_mem b _ found present, rfl⟩
    · obtain ⟨⟨_, value⟩, listed, rfl⟩ := List.mem_map.mp member
      exact backward _ value listed

/-- Tables with values of their own under one key are alike exactly if the values are and the rest is. -/
theorem alike_insert_iff (a b : Fields) (key : String) (x y : Value) (distinct : (a.map Prod.fst).Nodup)
    (unrepeated : (b.map Prod.fst).Nodup) :
    alike (.obj (Table.insert a key x)) (.obj (Table.insert b key y)) = true ↔
      alike (.obj (Table.erase a key)) (.obj (Table.erase b key)) = true ∧ alike x y = true := by
  rw [alike_obj_iff _ _ (Table.keys_insert_nodup a key x distinct) (Table.keys_insert_nodup b key y unrepeated),
    alike_obj_iff _ _ (Table.keys_erase_nodup a key distinct) (Table.keys_erase_nodup b key unrepeated)]
  simp only [Table.find?_insert, Table.find?_erase]
  constructor
  · intro related
    refine ⟨fun other => ?_, ?_⟩
    · have here := related other
      by_cases same : other = key
      · rw [if_pos same, if_pos same]
        exact .none
      · rwa [if_neg same, if_neg same] at here ⊢
    · have here := related key
      rw [if_pos rfl, if_pos rfl] at here
      cases here with
      | some equal => exact equal
  · rintro ⟨rest, equal⟩ other
    by_cases same : other = key
    · rw [if_pos same, if_pos same]
      exact .some equal
    · have here := rest other
      rwa [if_neg same, if_neg same] at here ⊢

end Value

end FunctionStack
