import FunctionStack.Text.Search
import Mathlib.Data.List.Infix

/-!
Patterns of names, in which a star stands for any characters, and the texts that they admit.
-/

namespace FunctionStack

namespace Pattern

def admits : List Char → List Char → Bool
  | [], text => text.isEmpty
  | sign :: pattern, text =>
    if sign = '*' then text.tails.any (admits pattern) else text.head? == some sign && admits pattern text.tail

theorem admits_nil (text : List Char) : admits [] text = true ↔ text = [] := by
  rw [admits, List.isEmpty_iff]

theorem admits_star (pattern text : List Char) :
    admits ('*' :: pattern) text = true ↔ ∃ skipped rest, text = skipped ++ rest ∧ admits pattern rest = true := by
  rw [admits, if_pos rfl, List.any_eq_true]
  constructor
  · rintro ⟨rest, tail, admitted⟩
    obtain ⟨skipped, rfl⟩ := (List.mem_tails rest text).mp tail
    exact ⟨skipped, rest, rfl, admitted⟩
  · rintro ⟨skipped, rest, rfl, admitted⟩
    exact ⟨rest, (List.mem_tails rest _).mpr (List.suffix_append skipped rest), admitted⟩

theorem admits_sign (sign : Char) (pattern text : List Char) (plain : sign ≠ '*') :
    admits (sign :: pattern) text = true ↔ ∃ rest, text = sign :: rest ∧ admits pattern rest = true := by
  rw [admits, if_neg plain, Bool.and_eq_true, beq_iff_eq]
  cases text with
  | nil => simp
  | cons first rest => simp [and_comm]

/-- A pattern in two parts admits what its parts admit, one after the other. -/
theorem admits_append (pattern more text : List Char) :
    admits (pattern ++ more) text = true ↔
      ∃ first rest, text = first ++ rest ∧ admits pattern first = true ∧ admits more rest = true := by
  induction pattern generalizing text with
  | nil => simp [admits_nil]
  | cons sign pattern ih =>
      by_cases star : sign = '*'
      · subst star
        simp only [List.cons_append, admits_star, ih]
        constructor
        · rintro ⟨skipped, _, rfl, first, rest, rfl, own, others⟩
          exact ⟨skipped ++ first, rest, (List.append_assoc ..).symm, ⟨skipped, first, rfl, own⟩, others⟩
        · rintro ⟨_, rest, rfl, ⟨skipped, first, rfl, own⟩, others⟩
          exact ⟨skipped, first ++ rest, List.append_assoc .., first, rest, rfl, own, others⟩
      · simp only [List.cons_append, admits_sign _ _ _ star, ih]
        constructor
        · rintro ⟨_, rfl, first, rest, rfl, own, others⟩
          exact ⟨sign :: first, rest, rfl, ⟨first, rfl, own⟩, others⟩
        · rintro ⟨_, rest, rfl, ⟨first, rfl, own⟩, others⟩
          exact ⟨first ++ rest, rfl, first, rest, rfl, own, others⟩

/-- A pattern admits itself, its stars included. -/
theorem admits_self (pattern : List Char) : admits pattern pattern = true := by
  induction pattern with
  | nil => rfl
  | cons sign pattern ih =>
      by_cases star : sign = '*'
      · subst star
        exact (admits_star pattern _).mpr ⟨['*'], pattern, rfl, ih⟩
      · exact (admits_sign sign pattern _ star).mpr ⟨pattern, rfl, ih⟩

/-- Without a star, a pattern admits nothing but itself. -/
theorem admits_plain (pattern text : List Char) (plain : '*' ∉ pattern) :
    admits pattern text = true ↔ text = pattern := by
  induction pattern generalizing text with
  | nil => exact admits_nil text
  | cons sign pattern ih =>
      rw [List.mem_cons, not_or] at plain
      rw [admits_sign sign pattern text (Ne.symm plain.1)]
      constructor
      · rintro ⟨rest, rfl, admitted⟩
        rw [(ih rest plain.2).mp admitted]
      · rintro rfl
        exact ⟨pattern, rfl, (ih pattern plain.2).mpr rfl⟩

/-- Behind a beginning without a star, that beginning is read off. -/
theorem admits_plain_append (head pattern text : List Char) (plain : '*' ∉ head) :
    admits (head ++ pattern) (head ++ text) = true ↔ admits pattern text = true := by
  rw [admits_append]
  constructor
  · rintro ⟨first, rest, equal, own, admitted⟩
    obtain rfl := (admits_plain head first plain).mp own
    rwa [List.append_cancel_left equal]
  · exact fun admitted => ⟨head, text, rfl, admits_self head, admitted⟩

/-- What stands behind an open end does not matter. -/
theorem admits_open_append (pattern text more : List Char) (admitted : admits (pattern ++ ['*']) text = true) :
    admits (pattern ++ ['*']) (text ++ more) = true := by
  obtain ⟨first, rest, rfl, own, _⟩ := (admits_append pattern ['*'] text).mp admitted
  refine (admits_append pattern ['*'] _).mpr ⟨first, rest ++ more, List.append_assoc .., own, ?_⟩
  exact (admits_star [] _).mpr ⟨rest ++ more, [], (List.append_nil _).symm, rfl⟩

/-- An open pattern admits whatever begins with it. -/
theorem admits_open_self (pattern more : List Char) : admits (pattern ++ ['*']) (pattern ++ more) = true :=
  (admits_append pattern ['*'] _).mpr
    ⟨pattern, more, rfl, admits_self pattern, (admits_star [] _).mpr ⟨more, [], (List.append_nil _).symm, rfl⟩⟩

/-- A pattern with a section behind it admits what has some section behind an admitted text. -/
theorem admits_section (pattern text : List Char) :
    admits (pattern ++ [':', '*']) text = true ↔
      ∃ first rest, text = first ++ ':' :: rest ∧ admits pattern first = true := by
  rw [admits_append]
  constructor
  · rintro ⟨first, _, rfl, own, behind⟩
    obtain ⟨rest, rfl, _⟩ := (admits_sign ':' ['*'] _ (by decide)).mp behind
    exact ⟨first, rest, rfl, own⟩
  · rintro ⟨first, rest, rfl, own⟩
    refine ⟨first, ':' :: rest, rfl, own, (admits_sign ':' ['*'] _ (by decide)).mpr ⟨rest, rfl, ?_⟩⟩
    exact (admits_star [] _).mpr ⟨rest, [], (List.append_nil _).symm, rfl⟩

/-- An open pattern with a section behind it admits every section of a name if and only if it admits the name. -/
theorem admits_sections_iff (pattern name : List Char) :
    (∀ rest, admits (pattern ++ ['*'] ++ [':', '*']) (name ++ ':' :: rest) = true) ↔
      admits (pattern ++ ['*']) name = true := by
  constructor
  · intro all
    obtain ⟨first, rest, equal, own⟩ := (admits_section _ _).mp (all [])
    have shorter : first.length ≤ name.length := by
      have lengths := congrArg List.length equal
      simp only [List.length_append, List.length_cons, List.length_nil] at lengths
      omega
    obtain ⟨more, rfl⟩ := List.prefix_of_prefix_length_le ⟨_, equal.symm⟩ (List.prefix_append name [':']) shorter
    exact admits_open_append pattern first more own
  · exact fun admitted rest => (admits_section _ _).mpr ⟨name, rest, rfl, admitted⟩

theorem admits_subsections_iff (pattern name : List Char) :
    (∀ kind rest, admits (pattern ++ ['*'] ++ [':', '*'] ++ [':', '*']) (name ++ ':' :: (kind ++ ':' :: rest)) = true) ↔
      admits (pattern ++ ['*']) name = true := by
  constructor
  · intro all
    obtain ⟨whole, rest, equal, inner⟩ := (admits_section _ _).mp (all [] [])
    obtain ⟨first, middle, rfl, own⟩ := (admits_section _ _).mp inner
    have shorter : first.length ≤ name.length := by
      have lengths := congrArg List.length equal
      simp only [List.length_append, List.length_cons, List.length_nil] at lengths
      omega
    rw [List.append_assoc] at equal
    obtain ⟨more, rfl⟩ := List.prefix_of_prefix_length_le ⟨_, equal.symm⟩ (List.prefix_append name _) shorter
    exact admits_open_append pattern first more own
  · intro admitted kind rest
    refine (admits_section _ _).mpr ⟨name ++ ':' :: kind, rest, by simp, ?_⟩
    exact (admits_sections_iff pattern name).mpr admitted kind

end Pattern

namespace Text

theorem cutAt_eq (piece text before after : List Char) (found : cutAt piece text = some (before, after)) :
    text = before ++ piece ++ after := by
  induction text generalizing before with
  | nil =>
      rw [cutAt] at found
      split at found
      case isTrue empty =>
        cases found
        rw [List.isEmpty_iff.mp empty]
        rfl
      case isFalse => cases found
  | cons c rest ih =>
      rw [cutAt] at found
      split at found
      case isTrue here =>
        cases found
        obtain ⟨behind, equal⟩ := List.isPrefixOf_iff_prefix.mp here
        rw [← equal, List.nil_append, List.drop_left]
      case isFalse =>
        obtain ⟨⟨front, last⟩, later, same⟩ := Option.map_eq_some_iff.mp found
        cases same
        rw [ih front later]
        rfl

/-- The first occurrence stays the first one, whatever is appended. -/
theorem cutAt_append (piece text more before after : List Char) (found : cutAt piece text = some (before, after)) :
    cutAt piece (text ++ more) = some (before, after ++ more) := by
  have whole := cutAt_eq piece text before after found
  induction text generalizing before with
  | nil =>
      obtain ⟨rfl, rfl⟩ : before = [] ∧ after = [] := by simp_all
      obtain rfl : piece = [] := by simpa using whole.symm
      cases more <;> rfl
  | cons c rest ih =>
      have shorter : piece.length ≤ (c :: rest).length := by
        rw [whole]
        simp only [List.length_append]
        omega
      have same : piece.isPrefixOf (c :: rest ++ more) = piece.isPrefixOf (c :: rest) := by
        rw [Bool.eq_iff_iff, List.isPrefixOf_iff_prefix, List.isPrefixOf_iff_prefix]
        refine ⟨fun begins => ?_, fun begins => begins.trans (List.prefix_append _ _)⟩
        exact List.prefix_of_prefix_length_le begins (List.prefix_append _ _) shorter
      rw [List.cons_append] at same ⊢
      rw [cutAt, same]
      rw [cutAt] at found
      split at found
      case isTrue here =>
        cases found
        rw [if_pos here, ← List.cons_append, List.drop_append_of_le_length shorter]
      case isFalse apart =>
        obtain ⟨⟨front, last⟩, later, same⟩ := Option.map_eq_some_iff.mp found
        cases same
        rw [if_neg apart, ih front later (cutAt_eq piece rest front after later)]
        rfl

theorem cut_append (text more piece before after : String) (found : cut text piece = some (before, after)) :
    cut (text ++ more) piece = some (before, after ++ more) := by
  obtain ⟨⟨front, last⟩, cutting, same⟩ := Option.map_eq_some_iff.mp found
  cases same
  rw [cut, String.toList_append, cutAt_append _ _ more.toList _ _ cutting]
  simp

end Text

end FunctionStack
