import FunctionStack.Text.Listing
import Mathlib.Data.String.Basic
import Mathlib.Tactic

/-!
Lists of texts: the first occurrences hold every text once, and the order of texts does not depend on how they were listed.
-/

namespace FunctionStack.Text

theorem mem_distinct (texts : List String) (text : String) : text ∈ distinct texts ↔ text ∈ texts := by
  induction texts with
  | nil => rfl
  | cons first rest ih =>
      rw [distinct, List.mem_cons, List.mem_cons, List.mem_filter, ih, decide_eq_true_eq]
      by_cases same : text = first <;> simp [same]

theorem distinct_append_single (texts : List String) (text : String) :
    distinct (texts ++ [text]) = if text ∈ texts then distinct texts else distinct texts ++ [text] := by
  induction texts with
  | nil => rfl
  | cons first rest ih =>
      rw [List.cons_append, distinct, ih, distinct]
      by_cases same : text = first
      · subst same
        by_cases later : text ∈ rest <;> simp [later]
      · by_cases later : text ∈ rest <;> simp [same, later]

theorem distinct_nodup (texts : List String) : (distinct texts).Nodup := by
  induction texts with
  | nil => exact List.nodup_nil
  | cons first rest ih =>
      rw [distinct, List.nodup_cons]
      exact ⟨fun member => by simpa using (List.mem_filter.mp member).2, ih.sublist List.filter_sublist⟩

/-- The texts of a list once each, in the order in which they first occur. -/
structure FirstOccurrences (texts firsts : List String) : Prop where
  listed : ∀ text, text ∈ firsts ↔ text ∈ texts
  distinct : firsts.Nodup
  ordered : firsts.Pairwise fun one two => texts.idxOf one < texts.idxOf two

theorem distinct_ordered (texts : List String) :
    (distinct texts).Pairwise fun one two => texts.idxOf one < texts.idxOf two := by
  induction texts with
  | nil => exact List.Pairwise.nil
  | cons first rest ih =>
      have later (text : String) (kept : text ∈ (distinct rest).filter (· ≠ first)) :
          (first :: rest).idxOf text = rest.idxOf text + 1 := by
        have other : text ≠ first := by simpa using (List.mem_filter.mp kept).2
        exact List.idxOf_cons_ne rest (Ne.symm other)
      rw [distinct, List.pairwise_cons]
      constructor
      · intro text kept
        rw [List.idxOf_cons_self, later text kept]
        exact Nat.succ_pos _
      · apply (ih.filter _).imp_of_mem
        intro one two first second before
        rw [later one first, later two second]
        exact Nat.succ_lt_succ before

theorem distinct_first (texts : List String) : FirstOccurrences texts (distinct texts) :=
  ⟨mem_distinct texts, distinct_nodup texts, distinct_ordered texts⟩

theorem sorted_listed (texts : List String) : (sorted texts).Perm texts := List.mergeSort_perm ..

theorem sorted_ordered (texts : List String) : (sorted texts).Pairwise (· ≤ ·) := by
  have trans (a b c : String) (first : decide (a ≤ b) = true) (second : decide (b ≤ c) = true) : decide (a ≤ c) = true := by
    rw [decide_eq_true_eq] at first second ⊢
    exact le_trans first second
  have total (a b : String) : (decide (a ≤ b) || decide (b ≤ a)) = true := by
    rw [Bool.or_eq_true, decide_eq_true_eq, decide_eq_true_eq]
    exact le_total a b
  have pairs : (sorted texts).Pairwise fun a b => decide (a ≤ b) = true := List.pairwise_mergeSort trans total texts
  simpa only [decide_eq_true_eq] using pairs

/-- The order of texts forgets in which order they came. -/
theorem sorted_perm (first second : List String) (same : first.Perm second) : sorted first = sorted second := by
  have perm : (sorted first).Perm (sorted second) := (sorted_listed first).trans (same.trans (sorted_listed second).symm)
  exact perm.eq_of_pairwise (fun a b _ _ => le_antisymm) (sorted_ordered first) (sorted_ordered second)

theorem mem_sorted_distinct (texts : List String) (text : String) : text ∈ sorted (distinct texts) ↔ text ∈ texts :=
  (sorted_listed _).mem_iff.trans (mem_distinct texts text)

theorem sorted_distinct_nodup (texts : List String) : (sorted (distinct texts)).Nodup :=
  (sorted_listed _).nodup_iff.mpr (distinct_nodup texts)

end FunctionStack.Text
