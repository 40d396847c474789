import FunctionStack.Value.Json
import Mathlib.Tactic

/-!
A JSON text in quotes spells one text only. Each character is spelled by pieces that begin no other spelling, so
two spellings that agree from their start on spell the same characters one by one.
-/

namespace FunctionStack

namespace Text

def hexValue (c : Char) : Nat := if c.isDigit then c.toNat - 48 else c.toNat - 87

def ofHex (digits : List Char) : Nat := digits.foldl (fun n c => 16 * n + hexValue c) 0

theorem hexValue_digitChar (d : Nat) (small : d < 16) : hexValue (Nat.digitChar d) = d := by
  have all : ∀ d < 16, hexValue (Nat.digitChar d) = d := by decide
  exact all d small

theorem ofHex_toDigits (n : Nat) : ofHex (Nat.toDigits 16 n) = n := by
  induction n using Nat.strong_induction_on with
  | _ n ih =>
      by_cases small : n < 16
      · rw [Nat.toDigits_of_lt_base small]
        simp [ofHex, hexValue_digitChar n small]
      · have head := ih (n / 16) (by omega)
        rw [Nat.toDigits_of_base_le (by decide) (by omega), ofHex, List.foldl_append]
        rw [ofHex] at head
        rw [head, List.foldl_cons, List.foldl_nil, hexValue_digitChar _ (Nat.mod_lt n (by decide))]
        omega

theorem ofHex_hexDigits (width n : Nat) : ofHex (hexDigits width n) = n := by
  have zeros (count : Nat) : (List.replicate count '0').foldl (fun n c => 16 * n + hexValue c) 0 = 0 := by
    induction count with
    | zero => rfl
    | succ count ih => simpa [List.replicate_succ, hexValue] using ih
  have value := ofHex_toDigits n
  rw [ofHex] at value
  simp only [ofHex, hexDigits, List.foldl_append, zeros, value]

theorem hexDigits_length (width n : Nat) (positive : 0 < width) (small : n < 16 ^ width) :
    (hexDigits width n).length = width := by
  have short := (Nat.length_toDigits_le_iff (by decide) positive).mpr small
  simp only [hexDigits, List.length_append, List.length_replicate]
  omega

end Text

namespace JsonStyle

theorem escapedUnit_unique (m n : Nat) (r s : List Char) (small : m < 65536) (less : n < 65536)
    (same : escapedUnit m ++ r = escapedUnit n ++ s) : m = n ∧ r = s := by
  simp only [escapedUnit, List.cons_append, List.cons.injEq, true_and] at same
  have long := Text.hexDigits_length 4 m (by decide) small
  have wide := Text.hexDigits_length 4 n (by decide) less
  obtain ⟨digits, rest⟩ := List.append_inj same (by rw [long, wide])
  have value := congrArg Text.ofHex digits
  rw [Text.ofHex_hexDigits, Text.ofHex_hexDigits] at value
  exact ⟨value, rest⟩

theorem Char.code_bounds (c : Char) : c.toNat < 0xD800 ∨ 0xDFFF < c.toNat ∧ c.toNat < 0x110000 := by
  have valid : c.toNat.isValidChar := c.valid
  rcases valid with below | ⟨above, top⟩
  · exact Or.inl below
  · exact Or.inr ⟨above, top⟩

/-- A code is spelled by one unit below the surrogates or beyond them, or by a pair that begins with one. -/
theorem escapedCode_unique (c d : Char) (r s : List Char)
    (same : escapedCode c.toNat ++ r = escapedCode d.toNat ++ s) : c = d ∧ r = s := by
  have first := Char.code_bounds c
  have second := Char.code_bounds d
  suffices codes : c.toNat = d.toNat ∧ r = s from ⟨Char.toNat_inj.mp codes.1, codes.2⟩
  generalize c.toNat = m at *
  generalize d.toNat = n at *
  unfold escapedCode at same
  split at same
  · split at same
    · exact escapedUnit_unique m n r s (by omega) (by omega) same
    · rw [List.append_assoc] at same
      have := (escapedUnit_unique m _ _ _ (by omega) (by omega) same).1
      omega
  · split at same
    · rw [List.append_assoc] at same
      have := (escapedUnit_unique _ n _ _ (by omega) (by omega) same).1
      omega
    · rw [List.append_assoc, List.append_assoc] at same
      obtain ⟨high, same⟩ := escapedUnit_unique _ _ _ _ (by omega) (by omega) same
      obtain ⟨low, same⟩ := escapedUnit_unique _ _ _ _ (by omega) (by omega) same
      exact ⟨by omega, same⟩

/-- The letter of a short escape. -/
def escapeLetter? (c : Char) : Option Char :=
  if c = '"' || c = '\\' then some c
  else if c = '\n' then some 'n'
  else if c = '\r' then some 'r'
  else if c = '\t' then some 't'
  else if c = Char.ofNat 8 then some 'b'
  else if c = Char.ofNat 12 then some 'f'
  else none

theorem escapeLetter?_some (c letter : Char) (short : escapeLetter? c = some letter) :
    (c, letter) ∈ [('"', '"'), ('\\', '\\'), ('\n', 'n'), ('\r', 'r'), ('\t', 't'), (Char.ofNat 8, 'b'),
      (Char.ofNat 12, 'f')] := by
  unfold escapeLetter? at short
  split_ifs at short with quote <;> cases short
  · simp only [Bool.or_eq_true, decide_eq_true_eq] at quote
    rcases quote with rfl | rfl <;> simp
  all_goals
    subst c
    simp

theorem escapeLetter?_none (c : Char) (long : escapeLetter? c = none) : c ≠ '"' ∧ c ≠ '\\' := by
  unfold escapeLetter? at long
  split_ifs at long with quote
  simpa using quote

theorem escapeLetter?_injective (c d letter : Char) (first : escapeLetter? c = some letter)
    (second : escapeLetter? d = some letter) : c = d := by
  have one := escapeLetter?_some c letter first
  have two := escapeLetter?_some d letter second
  simp only [List.mem_cons, List.not_mem_nil, or_false, Prod.mk.injEq] at one two
  rcases one with ⟨rfl, rfl⟩ | ⟨rfl, rfl⟩ | ⟨rfl, rfl⟩ | ⟨rfl, rfl⟩ | ⟨rfl, rfl⟩ | ⟨rfl, rfl⟩ | ⟨rfl, rfl⟩ <;>
    simp_all

/-- A character is spelled by a short escape, by its code, or by itself. -/
inductive Spelling (c : Char) : List Char → Prop where
  | short (letter : Char) (escaped : escapeLetter? c = some letter) : Spelling c ['\\', letter]
  | coded : Spelling c (escapedCode c.toNat)
  | plain (unquoted : c ≠ '"') (unescaped : c ≠ '\\') : Spelling c [c]

theorem escapedChar_letter (asciiOnly : Bool) (c : Char) :
    escapedChar asciiOnly c = match escapeLetter? c with
      | some letter => ['\\', letter]
      | none => if c.toNat < 0x20 || (asciiOnly && 0x7e < c.toNat) then escapedCode c.toNat else [c] := by
  unfold escapedChar escapeLetter?
  split_ifs <;> rfl

theorem escapedChar_spelling (asciiOnly : Bool) (c : Char) : Spelling c (escapedChar asciiOnly c) := by
  rw [escapedChar_letter]
  cases letter : escapeLetter? c with
  | some short => exact .short short letter
  | none =>
      have apart := escapeLetter?_none c letter
      dsimp only
      split
      · exact .coded
      · exact .plain apart.1 apart.2

theorem escapedCode_head (code : Nat) : ∃ tail, escapedCode code = '\\' :: 'u' :: tail := by
  unfold escapedCode
  split
  · exact ⟨Text.hexDigits 4 code, by rw [escapedUnit]⟩
  · exact ⟨_, by rw [escapedUnit, List.cons_append, List.cons_append]⟩

theorem escapeLetter?_plain (c : Char) : escapeLetter? c ≠ some 'u' := by
  intro short
  have := escapeLetter?_some c 'u' short
  simp at this

theorem Spelling.unique {c d : Char} {one two r s : List Char} (first : Spelling c one) (second : Spelling d two)
    (same : one ++ r = two ++ s) : c = d ∧ r = s := by
  cases first with
  | short x escaped =>
      cases second with
      | short y other =>
          simp only [List.cons_append, List.nil_append, List.cons.injEq, true_and] at same
          obtain ⟨rfl, same⟩ := same
          exact ⟨escapeLetter?_injective c d x escaped other, same⟩
      | coded =>
          obtain ⟨tail, code⟩ := escapedCode_head d.toNat
          rw [code] at same
          simp only [List.cons_append, List.cons.injEq, true_and] at same
          exact absurd (same.1 ▸ escaped) (escapeLetter?_plain c)
      | plain _ unescaped =>
          simp only [List.cons_append, List.cons.injEq] at same
          exact absurd same.1.symm unescaped
  | coded =>
      obtain ⟨tail, code⟩ := escapedCode_head c.toNat
      cases second with
      | short y other =>
          rw [code] at same
          simp only [List.cons_append, List.cons.injEq, true_and] at same
          exact absurd (same.1 ▸ other) (escapeLetter?_plain d)
      | coded => exact escapedCode_unique c d r s same
      | plain _ unescaped =>
          rw [code] at same
          simp only [List.cons_append, List.cons.injEq] at same
          exact absurd same.1.symm unescaped
  | plain unquoted unescaped =>
      cases second with
      | short y other =>
          simp only [List.cons_append, List.cons.injEq] at same
          exact absurd same.1 unescaped
      | coded =>
          obtain ⟨tail, code⟩ := escapedCode_head d.toNat
          rw [code] at same
          simp only [List.cons_append, List.cons.injEq] at same
          exact absurd same.1 unescaped
      | plain => simpa using same

theorem Spelling.begins {c : Char} {spelled : List Char} (spelling : Spelling c spelled) :
    ∃ lead tail, spelled = lead :: tail ∧ lead ≠ '"' := by
  cases spelling with
  | short letter _ => exact ⟨_, _, rfl, by decide⟩
  | coded =>
      obtain ⟨tail, code⟩ := escapedCode_head c.toNat
      exact ⟨_, _, code, by decide⟩
  | plain unquoted _ => exact ⟨_, _, rfl, unquoted⟩

variable (style : JsonStyle) (whole : style.halves = none)
include whole

theorem writeChars_cons (c : Char) (text : List Char) :
    style.writeChars (c :: text) = escapedChar style.asciiOnly c ++ style.writeChars text := by
  simp [writeChars, whole]

theorem writeChars_unique (a b r s : List Char)
    (same : style.writeChars a ++ '"' :: r = style.writeChars b ++ '"' :: s) : a = b ∧ r = s := by
  induction a generalizing b with
  | nil =>
      cases b with
      | nil => simpa [writeChars] using same
      | cons d b =>
          obtain ⟨lead, tail, spelled, unquoted⟩ := (escapedChar_spelling style.asciiOnly d).begins
          rw [writeChars_cons style whole, spelled] at same
          simp only [writeChars, List.nil_append, List.cons_append, List.cons.injEq] at same
          exact absurd same.1.symm unquoted
  | cons c a ih =>
      have first := escapedChar_spelling style.asciiOnly c
      cases b with
      | nil =>
          obtain ⟨lead, tail, spelled, unquoted⟩ := first.begins
          rw [writeChars_cons style whole, spelled] at same
          simp only [writeChars, List.nil_append, List.cons_append, List.cons.injEq] at same
          exact absurd same.1 unquoted
      | cons d b =>
          rw [writeChars_cons style whole, writeChars_cons style whole, List.append_assoc, List.append_assoc] at same
          obtain ⟨rfl, rest⟩ := first.unique (escapedChar_spelling style.asciiOnly d) same
          obtain ⟨rfl, remains⟩ := ih b rest
          exact ⟨rfl, remains⟩

theorem writeText_unique (a b : String) (r s : List Char)
    (same : style.writeText a ++ r = style.writeText b ++ s) : a = b ∧ r = s := by
  simp only [writeText, List.append_assoc, List.cons_append, List.nil_append, List.cons.injEq, true_and] at same
  obtain ⟨text, rest⟩ := writeChars_unique style whole a.toList b.toList r s same
  exact ⟨String.toList_inj.mp text, rest⟩

end JsonStyle

end FunctionStack
