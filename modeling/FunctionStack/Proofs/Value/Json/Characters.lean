import FunctionStack.Proofs.Value.Json.Text
import FunctionStack.Value.Json.Reader

/-!
A text in quotes is read as it was written. Two codes in a row are read as one character only where they are written for one: a
half that stands alone is never written as its code in front of another half that it would join.
-/

namespace FunctionStack

namespace Text

theorem hexOf?_digitChar (d : Nat) (small : d < 16) : JsonReader.hexOf? (Nat.digitChar d) = some (hexValue (Nat.digitChar d)) := by
  have all : ∀ d < 16, JsonReader.hexOf? (Nat.digitChar d) = some (hexValue (Nat.digitChar d)) := by decide
  exact all d small

theorem hexOf?_toDigits (n : Nat) : ∀ c ∈ Nat.toDigits 16 n, JsonReader.hexOf? c = some (hexValue c) := by
  induction n using Nat.strong_induction_on with
  | _ n ih =>
      intro c member
      by_cases small : n < 16
      · rw [Nat.toDigits_of_lt_base small, List.mem_singleton] at member
        rw [member]
        exact hexOf?_digitChar n small
      · rw [Nat.toDigits_of_base_le (by decide) (by omega), List.mem_append, List.mem_singleton] at member
        rcases member with before | last
        · exact ih (n / 16) (by omega) c before
        · rw [last]
          exact hexOf?_digitChar _ (Nat.mod_lt n (by decide))

theorem hexOf?_hexDigits (width n : Nat) : ∀ c ∈ hexDigits width n, JsonReader.hexOf? c = some (hexValue c) := by
  intro c member
  rcases List.mem_append.mp member with zero | digit
  · rw [List.eq_of_mem_replicate zero]
    rfl
  · exact hexOf?_toDigits n c digit

end Text

namespace JsonStyle

open JsonReader (readText unit? joined? single shortEscape?)
open Text (StandIns isHighHalf isLowHalf)

attribute [local simp] readText

/-- A code is written with four digits that are read as it. -/
theorem escapedUnit_digits (code : Nat) (small : code < 65536) :
    ∃ a b c d, escapedUnit code = ['\\', 'u', a, b, c, d] ∧ unit? a b c d = some code := by
  have long := Text.hexDigits_length 4 code (by decide) small
  have value := Text.ofHex_hexDigits 4 code
  have digits := Text.hexOf?_hexDigits 4 code
  rw [escapedUnit]
  generalize Text.hexDigits 4 code = text at long value digits
  rcases text with _ | ⟨a, _ | ⟨b, _ | ⟨c, _ | ⟨d, _ | ⟨e, more⟩⟩⟩⟩⟩
  case cons.cons.cons.cons.nil =>
    refine ⟨a, b, c, d, rfl, ?_⟩
    simp only [List.mem_cons, List.not_mem_nil, or_false, forall_eq_or_imp, forall_eq] at digits
    obtain ⟨one, two, three, four⟩ := digits
    simp only [unit?, one, two, three, four, Option.bind_eq_bind, Option.bind_some, Option.some.injEq]
    rw [← value]
    simp only [Text.ofHex, List.foldl_cons, List.foldl_nil]
    omega
  all_goals simp at long

/-- What follows spells no low half. -/
def NoLow (text : List Char) : Prop :=
  ∀ e f g h rest, text = '\\' :: 'u' :: e :: f :: g :: h :: rest → ∀ code, unit? e f g h = some code → isLowHalf code = false

theorem joined?_none (high low : Nat) (apart : isHighHalf high = false ∨ isLowHalf low = false) : joined? high low = none := by
  rw [joined?]
  rcases apart with off | off <;> simp [off]

/-- A character in front of what has been read. -/
def before (c : Char) (found : List Char × List Char) : List Char × List Char := (c :: found.1, found.2)

theorem map_before (c : Char) (found : Option (List Char × List Char)) :
    (found.bind fun (text, after) => some (c :: text, after)) = found.map (before c) := by
  cases found <;> rfl

/-- A code that joins nothing is read by itself. -/
theorem readText_unit (halves : StandIns) (code : Nat) (small : code < 65536) (text : List Char)
    (apart : isHighHalf code = false ∨ NoLow text) :
    readText halves (escapedUnit code ++ text) = (readText halves text).map (before (single halves code)) := by
  obtain ⟨a, b, c, d, written, read⟩ := escapedUnit_digits code small
  rw [written]
  simp only [List.cons_append, List.nil_append]
  by_cases followed : ∃ e f g h rest, text = '\\' :: 'u' :: e :: f :: g :: h :: rest
  · obtain ⟨e, f, g, h, rest, rfl⟩ := followed
    have none : (unit? e f g h).bind (joined? code) = none := by
      cases next : unit? e f g h with
      | none => rfl
      | some low =>
          apply joined?_none
          exact apart.imp_right fun off => off e f g h rest rfl low next
    rw [readText, read]
    simp only [Option.bind_eq_bind, Option.bind_some, none]
    exact map_before _ _
  · rw [readText, read]
    · exact map_before _ _
    · intro e f g h rest same
      exact followed ⟨e, f, g, h, rest, same⟩

/-- Two codes that join are read as one character. -/
theorem readText_pair (halves : StandIns) (high low : Nat) (small : high < 65536) (less : low < 65536) (char : Char)
    (joins : joined? high low = some char) (text : List Char) :
    readText halves (escapedUnit high ++ (escapedUnit low ++ text)) = (readText halves text).map (before char) := by
  obtain ⟨a, b, c, d, first, readFirst⟩ := escapedUnit_digits high small
  obtain ⟨e, f, g, h, second, readSecond⟩ := escapedUnit_digits low less
  rw [first, second]
  simp only [List.cons_append, List.nil_append]
  rw [readText, readFirst, readSecond]
  simp only [Option.bind_eq_bind, Option.bind_some, joins]
  exact map_before _ _

theorem readText_short (halves : StandIns) (c letter : Char) (short : escapeLetter? c = some letter) (text : List Char) :
    readText halves ('\\' :: letter :: text) = (readText halves text).map (before c) := by
  have other : letter ≠ 'u' := by
    intro same
    exact escapeLetter?_plain c (same ▸ short)
  have known : shortEscape? letter = some c := by
    have listed := escapeLetter?_some c letter short
    simp only [List.mem_cons, List.not_mem_nil, or_false, Prod.mk.injEq] at listed
    rcases listed with ⟨rfl, rfl⟩ | ⟨rfl, rfl⟩ | ⟨rfl, rfl⟩ | ⟨rfl, rfl⟩ | ⟨rfl, rfl⟩ | ⟨rfl, rfl⟩ | ⟨rfl, rfl⟩ <;> rfl
  rw [readText, known]
  · exact map_before _ _
  · intro _ _ _ _ _ _ _ _ _ same
    exact absurd same other
  · intro _ _ _ _ _ same
    exact absurd same other

theorem readText_plain (halves : StandIns) (c : Char) (unquoted : c ≠ '"') (unescaped : c ≠ '\\') (shown : ¬ c.toNat < 32)
    (text : List Char) : readText halves (c :: text) = (readText halves text).map (before c) := by
  rw [readText, if_neg shown]
  · exact map_before _ _
  · exact unquoted
  · intro _ _ _ _ _ _ _ _ _ same
    exact absurd same unescaped
  · intro _ _ _ _ _ same
    exact absurd same unescaped
  · intro _ _ same
    exact absurd same unescaped

theorem isHighHalf_iff (code : Nat) : isHighHalf code = true ↔ 0xD800 ≤ code ∧ code < 0xDC00 := by
  simp [isHighHalf]

theorem isLowHalf_iff (code : Nat) : isLowHalf code = true ↔ 0xDC00 ≤ code ∧ code < 0xE000 := by
  simp [isLowHalf]

/-- The code of a character in the basic plane is no half. -/
theorem code_whole (c : Char) (near : c.toNat < 0x10000) : isHighHalf c.toNat = false ∧ isLowHalf c.toNat = false := by
  have bounds := Char.code_bounds c
  rw [← Bool.not_eq_true, ← Bool.not_eq_true, isHighHalf_iff, isLowHalf_iff]
  omega

/-- The two halves of a character join. -/
theorem joined?_char (c : Char) (far : ¬ c.toNat < 0x10000) :
    joined? (0xD800 + (c.toNat - 0x10000) / 0x400) (0xDC00 + (c.toNat - 0x10000) % 0x400) = some c := by
  have bounds := Char.code_bounds c
  have high := (isHighHalf_iff (0xD800 + (c.toNat - 0x10000) / 0x400)).mpr (by omega)
  have low := (isLowHalf_iff (0xDC00 + (c.toNat - 0x10000) % 0x400)).mpr (by omega)
  have code : 0x10000 + (0xD800 + (c.toNat - 0x10000) / 0x400 - 0xD800) * 0x400 +
      (0xDC00 + (c.toNat - 0x10000) % 0x400 - 0xDC00) = c.toNat := by omega
  rw [joined?, high, low, Bool.and_self, if_pos rfl, code, Char.ofNat_toNat]

/-- A character that is written by its code is read as itself. -/
theorem readText_code (halves : StandIns) (c : Char) (text : List Char) :
    readText halves (escapedCode c.toNat ++ text) = (readText halves text).map (before c) := by
  have bounds := Char.code_bounds c
  rw [escapedCode]
  by_cases near : c.toNat < 0x10000
  · have whole := code_whole c near
    rw [if_pos near, readText_unit halves _ near text (Or.inl whole.1), single, whole.1, whole.2, Bool.or_self,
      if_neg Bool.false_ne_true, Char.ofNat_toNat]
  · rw [if_neg near, List.append_assoc]
    exact readText_pair halves _ _ (by omega) (by omega) c (joined?_char c near) text

/-- A character is read as itself, however it is written. -/
theorem readText_char (halves : StandIns) (asciiOnly : Bool) (c : Char) (text : List Char) :
    readText halves (escapedChar asciiOnly c ++ text) = (readText halves text).map (before c) := by
  rw [escapedChar_letter]
  cases letter : escapeLetter? c with
  | some short => exact readText_short halves c short letter text
  | none =>
      have apart := escapeLetter?_none c letter
      dsimp only
      split
      case isTrue => exact readText_code halves c text
      case isFalse shown =>
        have visible : ¬ c.toNat < 32 := by
          simp only [Bool.or_eq_true, decide_eq_true_eq, not_or] at shown
          exact shown.1
        exact readText_plain halves c apart.1 apart.2 visible text

theorem noLow_unit (code : Nat) (small : code < 65536) (whole : isLowHalf code = false) (text : List Char) :
    NoLow (escapedUnit code ++ text) := by
  obtain ⟨a, b, c, d, written, read⟩ := escapedUnit_digits code small
  rw [written]
  intro e f g h rest same other found
  simp only [List.cons_append, List.nil_append, List.cons.injEq, true_and] at same
  obtain ⟨rfl, rfl, rfl, rfl, -⟩ := same
  rw [read] at found
  exact Option.some.inj found ▸ whole

theorem noLow_other (c : Char) (text : List Char) (other : c ≠ '\\') : NoLow (c :: text) := by
  intro e f g h rest same
  exact absurd (List.cons.inj same).1 other

/-- No character that is written as a whole begins with a low half. -/
theorem noLow_char (asciiOnly : Bool) (c : Char) (text : List Char) : NoLow (escapedChar asciiOnly c ++ text) := by
  have bounds := Char.code_bounds c
  have spelling := escapedChar_spelling asciiOnly c
  generalize escapedChar asciiOnly c = spelled at spelling ⊢
  cases spelling with
  | short letter escaped =>
      intro e f g h rest same
      simp only [List.cons_append, List.nil_append, List.cons.injEq, true_and] at same
      exact absurd (same.1 ▸ escaped) (escapeLetter?_plain c)
  | coded =>
      rw [escapedCode]
      by_cases near : c.toNat < 0x10000
      · rw [if_pos near]
        exact noLow_unit _ near (code_whole c near).2 text
      · rw [if_neg near, List.append_assoc]
        apply noLow_unit _ (by omega)
        rw [← Bool.not_eq_true, isLowHalf_iff]
        omega
  | plain unquoted unescaped => exact noLow_other c text unescaped

/-- Stand-ins under which what a style writes is read: none are written, or the same and no more of them than there are
halves. -/
def KeepsHalves (style : JsonStyle) (halves : StandIns) : Prop :=
  style.halves = none ∨ style.halves = some halves ∧ halves.characters.length ≤ 0x800

/-- A character that stands for a half is read from the code of this half. -/
theorem half?_single (halves : StandIns) (few : halves.characters.length ≤ 0x800) (c : Char) (half : Nat)
    (stands : halves.half? c = some half) : half < 65536 ∧ single halves half = c := by
  unfold StandIns.half? at stands
  split at stands
  case isTrue =>
    rw [Option.map_eq_some_iff] at stands
    obtain ⟨index, found, rfl⟩ := stands
    obtain ⟨inside, same, -⟩ := List.findIdx?_eq_some_iff_getElem.mp found
    have known : halves.characters[index] = c := by simpa using same
    refine ⟨by omega, ?_⟩
    have half : (isHighHalf (0xD800 + index) || isLowHalf (0xD800 + index)) = true := by
      rw [Bool.or_eq_true, isHighHalf_iff, isLowHalf_iff]
      omega
    rw [single, if_pos half, StandIns.standIn, Nat.add_sub_cancel_left, List.getD_eq_getElem?_getD, List.getElem?_eq_getElem inside,
      Option.getD_some, known]
  case isFalse => cases stands

theorem loneHalf?_some (halves : StandIns) (c : Char) (rest : List Char) (half : Nat)
    (lone : halves.loneHalf? c rest = some half) :
    halves.half? c = some half ∧ (isHighHalf half = true → (rest.head?.bind halves.half?).any isLowHalf = false) := by
  rw [StandIns.loneHalf?, Option.filter_eq_some_iff] at lone
  refine ⟨lone.1, ?_⟩
  intro high
  simpa [high] using lone.2

/-- A character is written as the half that it stands for, or as a whole. -/
theorem writeChars_cases (style : JsonStyle) (halves : StandIns) (keeps : KeepsHalves style halves) (c : Char) (rest : List Char) :
    style.writeChars (c :: rest) = escapedChar style.asciiOnly c ++ style.writeChars rest ∨
      ∃ half, style.halves = some halves ∧ halves.characters.length ≤ 0x800 ∧ halves.loneHalf? c rest = some half ∧
        style.writeChars (c :: rest) = escapedUnit half ++ style.writeChars rest := by
  rw [writeChars]
  rcases keeps with none | ⟨same, few⟩
  · rw [none]
    exact Or.inl rfl
  · have own : (style.halves.bind fun standIns => standIns.loneHalf? c rest) = halves.loneHalf? c rest := by
      rw [same, Option.bind_some]
    rw [own]
    cases halves.loneHalf? c rest with
    | none => exact Or.inl rfl
    | some half => exact Or.inr ⟨half, same, few, rfl, rfl⟩

/-- Characters that do not begin with one for a low half are not written with such a half first. -/
theorem noLow_chars (style : JsonStyle) (halves : StandIns) (keeps : KeepsHalves style halves) (text after : List Char)
    (lead : style.halves = some halves → (text.head?.bind halves.half?).any isLowHalf = false) :
    NoLow (style.writeChars text ++ '"' :: after) := by
  cases text with
  | nil =>
      rw [writeChars, List.nil_append]
      exact noLow_other '"' after (by decide)
  | cons c rest =>
      rcases writeChars_cases style halves keeps c rest with written | ⟨half, same, few, lone, written⟩
      · rw [written, List.append_assoc]
        exact noLow_char style.asciiOnly c _
      · obtain ⟨stands, -⟩ := loneHalf?_some halves c rest half lone
        have low : isLowHalf half = false := by
          have first := lead same
          rwa [List.head?_cons, Option.bind_some, stands, Option.any_some] at first
        rw [written, List.append_assoc]
        exact noLow_unit half (half?_single halves few c half stands).1 low _

/-- Characters in front of a closing quote are read as they were written. -/
theorem readText_written (style : JsonStyle) (halves : StandIns) (keeps : KeepsHalves style halves) (text after : List Char) :
    readText halves (style.writeChars text ++ '"' :: after) = some (text, after) := by
  induction text with
  | nil => simp [writeChars]
  | cons c rest ih =>
      rcases writeChars_cases style halves keeps c rest with written | ⟨half, same, few, lone, written⟩
      · rw [written, List.append_assoc, readText_char, ih]
        rfl
      · obtain ⟨stands, apart⟩ := loneHalf?_some halves c rest half lone
        obtain ⟨small, reads⟩ := half?_single halves few c half stands
        have joinless : isHighHalf half = false ∨ NoLow (style.writeChars rest ++ '"' :: after) := by
          cases high : isHighHalf half with
          | false => exact Or.inl rfl
          | true => exact Or.inr (noLow_chars style halves keeps rest after fun _ => apart high)
        rw [written, List.append_assoc, readText_unit halves half small _ joinless, ih, reads]
        rfl

end JsonStyle

end FunctionStack
