import FunctionStack.Proofs.Value.Json.Unique
import FunctionStack.Text.Styling

/-!
Texts without terminal styling are printed as they are. JSON texts are among them, for in a JSON text the escape character that
styling begins with is itself escaped.
-/

namespace FunctionStack

namespace Text

/-- A text in which no styling can begin. -/
def Plain (text : List Char) : Prop := Char.ofNat 27 ∉ text

instance (text : List Char) : Decidable (Plain text) := inferInstanceAs (Decidable (Char.ofNat 27 ∉ text))

theorem plain_nil : Plain [] := List.not_mem_nil

theorem plain_cons (c : Char) (text : List Char) : Plain (c :: text) ↔ c ≠ Char.ofNat 27 ∧ Plain text := by
  rw [Plain, Plain, List.mem_cons, not_or, ne_comm]

theorem plain_append (one two : List Char) : Plain (one ++ two) ↔ Plain one ∧ Plain two := by
  rw [Plain, Plain, Plain, List.mem_append, not_or]

theorem Plain.sublist {one two : List Char} (plain : Plain two) (within : one ⊆ two) : Plain one :=
  fun member => plain (within member)

theorem stylingLength_other (c : Char) (rest : List Char) (other : c ≠ Char.ofNat 27) : stylingLength (c :: rest) = 0 := by
  unfold stylingLength
  split
  case h_1 escape rest same =>
    cases same
    dsimp only
    split
    · rfl
    · rw [if_neg]
      simp [other]
  case h_2 => rfl

/-- What is plain in front of a text stays. -/
theorem withoutStyling_append (text rest : List Char) (plain : Plain text) :
    withoutStyling 0 (text ++ rest) = text ++ withoutStyling 0 rest := by
  induction text with
  | nil => rfl
  | cons c text ih =>
      obtain ⟨other, plain⟩ := (plain_cons c text).mp plain
      rw [List.cons_append, withoutStyling, stylingLength_other c _ other]
      dsimp only
      rw [ih plain, List.cons_append]

theorem unstyled_plain (text : String) (plain : Plain text.toList) : unstyled text = text := by
  have same := withoutStyling_append text.toList [] plain
  rw [withoutStyling, List.append_nil] at same
  rw [unstyled, same, String.ofList_toList]

theorem plain_replicate (count : Nat) (c : Char) (other : c ≠ Char.ofNat 27) : Plain (List.replicate count c) :=
  fun member => other (List.eq_of_mem_replicate member).symm

theorem plain_digits (base n : Nat) (small : base ≤ 16) (positive : 1 < base) : Plain (Nat.toDigits base n) := by
  induction n using Nat.strong_induction_on with
  | _ n ih =>
      have char (d : Nat) (less : d < base) : Nat.digitChar d ≠ Char.ofNat 27 := by
        have all : ∀ d < 16, Nat.digitChar d ≠ Char.ofNat 27 := by decide
        exact all d (by omega)
      by_cases single : n < base
      · rw [Nat.toDigits_of_lt_base single, plain_cons]
        exact ⟨char n single, plain_nil⟩
      · rw [Nat.toDigits_of_base_le positive (by omega), plain_append, plain_cons]
        exact ⟨ih (n / base) (Nat.div_lt_self (by omega) positive), char _ (Nat.mod_lt n (by omega)), plain_nil⟩

end Text

open Text (Plain plain_nil plain_cons plain_append plain_digits plain_replicate)

namespace Double

theorem plain_dropZeros (digits : List Char) (plain : Plain digits) : Plain (dropZeros digits) := by
  unfold dropZeros
  split
  · decide
  · apply plain.sublist
    intro c member
    exact List.mem_reverse.mp ((List.dropWhile_suffix _).subset (List.mem_reverse.mp member))

theorem plain_exponent (exponent : Int) : Plain (exponentText exponent) := by
  have digits := plain_digits 10 exponent.natAbs (by decide) (by decide)
  unfold exponentText
  rw [plain_cons]
  constructor
  · split <;> decide
  · split
    · exact (plain_cons _ _).mpr ⟨by decide, digits⟩
    · exact digits

theorem plain_layout (digits : List Char) (point : Int) (plain : Plain digits) : Plain (layout digits point) := by
  have some (n : Nat) : Plain (digits.take n) := plain.sublist (List.take_subset n digits)
  have others (n : Nat) : Plain (digits.drop n) := plain.sublist (List.drop_subset n digits)
  have zeros (n : Nat) : Plain (List.replicate n '0') := plain_replicate n '0' (by decide)
  unfold layout
  dsimp only
  split
  · split
    · simp only [plain_cons, plain_append]
      exact ⟨by decide, by decide, zeros _, plain⟩
    · split
      · simp only [plain_cons, plain_append]
        exact ⟨⟨plain, zeros _⟩, by decide, by decide, plain_nil⟩
      · simp only [plain_cons, plain_append]
        exact ⟨some _, by decide, others _⟩
  · unfold scientific
    simp only [plain_cons, plain_append]
    refine ⟨⟨some 1, ?_⟩, by decide, plain_exponent _⟩
    split
    · exact plain_nil
    · exact (plain_cons _ _).mpr ⟨by decide, others 1⟩

theorem plain_magnitude (significand scale : Nat) : Plain (magnitudeText significand scale) := by
  unfold magnitudeText
  generalize shortest significand scale = decimal
  split
  · decide
  · exact plain_layout _ _ (plain_dropZeros _ (plain_digits 10 decimal.1 (by decide) (by decide)))

end Double

namespace JsonStyle

theorem plain_unit (code : Nat) : Plain (escapedUnit code) := by
  rw [escapedUnit, plain_cons, plain_cons, Text.hexDigits, plain_append]
  exact ⟨by decide, by decide, plain_replicate _ '0' (by decide), plain_digits 16 code (by decide) (by decide)⟩

theorem plain_code (code : Nat) : Plain (escapedCode code) := by
  unfold escapedCode
  split
  · exact plain_unit code
  · exact (plain_append _ _).mpr ⟨plain_unit _, plain_unit _⟩

theorem plain_char (asciiOnly : Bool) (c : Char) : Plain (escapedChar asciiOnly c) := by
  rw [escapedChar_letter]
  cases letter : escapeLetter? c with
  | some short =>
      have listed := escapeLetter?_some c short letter
      simp only [List.mem_cons, List.not_mem_nil, or_false, Prod.mk.injEq] at listed
      rcases listed with ⟨-, rfl⟩ | ⟨-, rfl⟩ | ⟨-, rfl⟩ | ⟨-, rfl⟩ | ⟨-, rfl⟩ | ⟨-, rfl⟩ | ⟨-, rfl⟩ <;>
        (dsimp only; decide)
  | none =>
      dsimp only
      split
      case isTrue => exact plain_code c.toNat
      case isFalse shown =>
        rw [plain_cons]
        refine ⟨?_, plain_nil⟩
        rintro rfl
        simp at shown

variable (style : JsonStyle)

theorem plain_chars (text : List Char) : Plain (style.writeChars text) := by
  induction text with
  | nil => exact plain_nil
  | cons c rest ih =>
      rw [writeChars]
      split
      · exact (plain_append _ _).mpr ⟨plain_unit _, ih⟩
      · exact (plain_append _ _).mpr ⟨plain_char _ _, ih⟩

theorem plain_text (text : String) : Plain (style.writeText text) := by
  rw [writeText, List.cons_append, plain_cons, plain_append]
  exact ⟨by decide, plain_chars style _, by decide⟩

theorem plain_float (number : Double) : Plain (writeFloat number) := by
  cases number with
  | finite negative significand scale =>
      have size := Double.plain_magnitude significand scale
      unfold writeFloat
      cases negative with
      | false => exact size
      | true => exact (plain_cons _ _).mpr ⟨by decide, size⟩
  | infinite negative => cases negative <;> decide
  | nan => decide

theorem plain_int (number : Int) : Plain (toString number).toList := by
  have text := intText_signed number []
  rw [List.append_nil, List.append_nil] at text
  have digits := plain_digits 10 number.natAbs (by decide) (by decide)
  rw [text, signed]
  split
  · exact (plain_cons _ _).mpr ⟨by decide, digits⟩
  · exact digits

theorem plain_lineBreak (depth : Nat) : Plain (style.lineBreak depth) := by
  unfold lineBreak
  split
  · exact plain_nil
  · exact (plain_cons _ _).mpr ⟨by decide, plain_replicate _ ' ' (by decide)⟩

variable (comma : Plain style.comma) (colon : Plain style.colon)
include comma

theorem plain_items (depth : Nat) (items : List Value) (each : ∀ item ∈ items, ∀ depth, Plain (style.write depth item)) :
    Plain (style.writeItems depth items) := by
  induction items with
  | nil => exact plain_nil
  | cons item items ih =>
      rw [writeItems]
      simp only [plain_append]
      exact ⟨⟨⟨comma, plain_lineBreak style depth⟩, each item (List.mem_cons_self ..) depth⟩,
        ih fun part member => each part (List.mem_cons_of_mem _ member)⟩

include colon

theorem plain_fields (depth : Nat) (fields : Fields)
    (each : ∀ key value, (key, value) ∈ fields → ∀ depth, Plain (style.write depth value)) :
    Plain (style.writeFields depth fields) := by
  induction fields with
  | nil => exact plain_nil
  | cons field fields ih =>
      obtain ⟨key, value⟩ := field
      rw [writeFields]
      simp only [plain_append]
      exact ⟨⟨⟨⟨⟨comma, plain_lineBreak style depth⟩, plain_text style key⟩, colon⟩,
        each key value (List.mem_cons_self ..) depth⟩, ih fun other part member => each other part (List.mem_cons_of_mem _ member)⟩

/-- No styling begins in a JSON text. -/
theorem plain_write (value : Value) : ∀ depth, Plain (style.write depth value) := by
  induction value using Value.nested with
  | null => intro depth; rw [write]; decide
  | bool truth => intro depth; rw [write]; cases truth <;> decide
  | int number => intro depth; rw [write]; exact plain_int number
  | float number => intro depth; rw [write]; exact plain_float number
  | str text => intro depth; rw [write]; exact plain_text style text
  | arr items ih =>
      intro depth
      cases items with
      | nil => rw [write]; decide
      | cons item items =>
          rw [write]
          simp only [List.cons_append, plain_cons, plain_append]
          exact ⟨by decide, ⟨⟨⟨plain_lineBreak style _, ih item (List.mem_cons_self ..) _⟩, plain_items style comma _ items
            fun part member => ih part (List.mem_cons_of_mem _ member)⟩, plain_lineBreak style _⟩, by decide, plain_nil⟩
  | obj fields ih =>
      intro depth
      cases fields with
      | nil => rw [write]; decide
      | cons field fields =>
          obtain ⟨key, value⟩ := field
          rw [write]
          simp only [List.cons_append, plain_cons, plain_append]
          exact ⟨by decide, ⟨⟨⟨⟨⟨plain_lineBreak style _, plain_text style key⟩, colon⟩, ih key value (List.mem_cons_self ..) _⟩,
            plain_fields style comma colon _ fields fun name part member => ih name part (List.mem_cons_of_mem _ member)⟩,
            plain_lineBreak style _⟩, by decide, plain_nil⟩

end JsonStyle

end FunctionStack
