import FunctionStack.Proofs.Storage.Path

/-!
Searching a text for a piece between separators. Such a search does not look across the segments of the text: a piece with
a separator on either side is found exactly if it is one of the inner segments, and a piece behind a separator exactly if a
segment other than the first begins with it.
-/

namespace FunctionStack.Text

variable {separator : Char} {piece : List Char}

theorem pieces_ne_nil (separator : Char) (text : List Char) : pieces separator text ≠ [] := by
  rw [pieces_eq_splitOn]
  exact List.splitOn_ne_nil separator text

theorem pieces_append (before after : List Char) (spared : separator ∉ before) :
    pieces separator (before ++ separator :: after) = before :: pieces separator after := by
  induction before with
  | nil => simp [pieces]
  | cons c before ih =>
      have other : c ≠ separator := Ne.symm (List.ne_of_not_mem_cons spared)
      have rest := ih (List.not_mem_of_not_mem_cons spared)
      simp [pieces, other, rest]

/-- A text is a single segment, or its first segment ends at a separator. -/
theorem pieces_cases (separator : Char) (text : List Char) : separator ∉ text ∧ pieces separator text = [text] ∨
    ∃ before after, separator ∉ before ∧ text = before ++ separator :: after ∧
      pieces separator text = before :: pieces separator after := by
  by_cases present : separator ∈ text
  · obtain ⟨before, after, rfl, spared⟩ := List.eq_append_cons_of_mem present
    exact Or.inr ⟨before, after, spared, rfl, pieces_append before after spared⟩
  · exact Or.inl ⟨present, pieces_single separator text present⟩

/-- A piece without a separator begins a text exactly if it begins its first segment. -/
theorem isPrefixOf_iff (text : List Char) (spared : separator ∉ piece) :
    piece.isPrefixOf text = true ↔ ∃ first others, pieces separator text = first :: others ∧ piece <+: first := by
  rw [List.isPrefixOf_iff_prefix]
  rcases pieces_cases separator text with ⟨-, single⟩ | ⟨before, after, -, rfl, split⟩
  · simp [single]
  · simp only [split, List.cons.injEq, exists_and_right]
    constructor
    · intro begins
      refine ⟨before, ⟨_, rfl, rfl⟩, ?_⟩
      rcases List.prefix_or_prefix_of_prefix begins (List.prefix_append before _) with inside | ⟨more, same⟩
      · exact inside
      · -- What goes on behind the first segment would have to begin with the separator.
        subst same
        cases more with
        | nil => simp
        | cons c more =>
            have next := (List.prefix_append_right_inj before).mp begins
            obtain ⟨rfl, -⟩ := List.cons_prefix_cons.mp next
            simp at spared
    · rintro ⟨first, ⟨_, same, -⟩, inside⟩
      exact inside.trans (same ▸ List.prefix_append before _)

/-- With the separator behind it, a piece begins a text exactly if it is a first segment that others follow. -/
theorem isPrefixOf_ended_iff (text : List Char) (spared : separator ∉ piece) :
    (piece ++ [separator]).isPrefixOf text = true ↔ ∃ second others, pieces separator text = piece :: second :: others := by
  rw [List.isPrefixOf_iff_prefix]
  rcases pieces_cases separator text with ⟨absent, single⟩ | ⟨before, after, free, rfl, split⟩
  · rw [single]
    constructor
    · intro begins
      exact absurd (begins.subset (by simp)) absent
    · rintro ⟨second, others, same⟩
      simp at same
  · obtain ⟨second, others, following⟩ := List.exists_cons_of_ne_nil (pieces_ne_nil separator after)
    rw [split, following]
    constructor
    · rintro ⟨more, same⟩
      have firsts := congrArg (pieces separator) same
      rw [List.append_assoc, List.singleton_append, pieces_append _ _ spared, split] at firsts
      rw [(List.cons.inj firsts).1]
      exact ⟨second, others, rfl⟩
    · rintro ⟨_, _, same⟩
      rw [(List.cons.inj same).1]
      simp

/-- A piece behind a separator is found where a segment other than the first begins with it. -/
theorem occursIn_iff (text : List Char) (spared : separator ∉ piece) : occursIn (separator :: piece) text = true ↔
    ∃ segment ∈ (pieces separator text).tail, piece <+: segment := by
  induction text with
  | nil => simp [occursIn, pieces]
  | cons c rest ih =>
      rw [occursIn, Bool.or_eq_true, ih, List.isPrefixOf_cons_cons, Bool.and_eq_true, beq_iff_eq, isPrefixOf_iff rest spared]
      obtain ⟨first, others, split⟩ := List.exists_cons_of_ne_nil (pieces_ne_nil separator rest)
      by_cases here : c = separator
      · simp [pieces, here, split]
      · simp [pieces, here, split, Ne.symm here]

/-- A piece between separators is found where it is a segment that is neither the first nor the last. -/
theorem occursIn_between_iff (text : List Char) (spared : separator ∉ piece) :
    occursIn (separator :: (piece ++ [separator])) text = true ↔ piece ∈ (pieces separator text).tail.dropLast := by
  induction text with
  | nil => simp [occursIn, pieces]
  | cons c rest ih =>
      rw [occursIn, Bool.or_eq_true, ih, List.isPrefixOf_cons_cons, Bool.and_eq_true, beq_iff_eq, isPrefixOf_ended_iff rest spared]
      obtain ⟨first, others, split⟩ := List.exists_cons_of_ne_nil (pieces_ne_nil separator rest)
      by_cases here : c = separator
      · cases others with
        | nil => simp [pieces, here, split]
        | cons second others => simp [pieces, here, split, eq_comm]
      · simp [pieces, here, split, Ne.symm here]

end FunctionStack.Text
