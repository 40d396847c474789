import FunctionStack.Proofs.Value.Json.Characters
import FunctionStack.Proofs.Value.Json.Unique
import FunctionStack.Proofs.Value.Table
import FunctionStack.Storage.Document
import Mathlib.Data.List.TakeWhile

/-!
What is written as JSON is read as what it was: values of any depth, tables with their keys in order, and in any spelling whose
commas and colons are followed by blanks only. Only integers that are too long to be read are not.
-/

namespace FunctionStack

namespace Value

theorem arePrintable_iff (items : List Value) : arePrintable items = true ↔ ∀ item ∈ items, item.isPrintable = true := by
  induction items with
  | nil => simp [arePrintable]
  | cons item items ih => simp [arePrintable, ih]

theorem printableFields_iff (fields : Fields) :
    printableFields fields = true ↔ ∀ key value, (key, value) ∈ fields → value.isPrintable = true := by
  induction fields with
  | nil => simp [printableFields]
  | cons field fields ih =>
      obtain ⟨name, found⟩ := field
      rw [printableFields, Bool.and_eq_true, ih]
      constructor
      · rintro ⟨first, others⟩ key value member
        rcases List.mem_cons.mp member with same | later
        · cases same
          exact first
        · exact others key value later
      · intro every
        exact ⟨every name found (List.mem_cons_self ..), fun key value member => every key value (List.mem_cons_of_mem _ member)⟩

end Value

namespace JsonStyle

open Double (EndsNumber readMagnitude_text)
open JsonReader (readMagnitude readScalar readValue readItems readFields skipBlanks afterWord? words isBlank maximumDigits)
open Text (StandIns)

theorem afterWord?_other (word : String) (c lead : Char) (tail rest : List Char) (spelled : word.toList = lead :: tail)
    (other : c ≠ lead) : afterWord? word (c :: rest) = none := by
  rw [afterWord?, spelled, List.isPrefixOf]
  simp [Ne.symm other]

/-- A text that begins with none of the words. -/
def Wordless (input : List Char) : Prop := (words.findSome? fun (word, value) => (afterWord? word input).map (value, ·)) = none

/-- No word begins with a digit. -/
theorem readScalar_digit (c : Char) (rest : List Char) (digit : c.isDigit = true) :
    readScalar (c :: rest) = readMagnitude false (c :: rest) := by
  have apart (d : Char) (noDigit : d.isDigit = false) : c ≠ d := by
    rintro rfl
    rw [noDigit] at digit
    cases digit
  have wordless : Wordless (c :: rest) := by
    rw [Wordless, List.findSome?_eq_none_iff]
    intro entry member
    simp only [words, List.mem_cons, List.not_mem_nil, or_false] at member
    rcases member with rfl | rfl | rfl | rfl | rfl | rfl <;>
      simp only [Option.map_eq_none_iff] <;> exact afterWord?_other _ c _ _ rest rfl (apart _ rfl)
  unfold readScalar
  rw [Wordless] at wordless
  rw [wordless]
  have unsigned := apart '-' rfl
  dsimp only
  split
  · rename_i same
    exact absurd (List.cons.inj same).1 unsigned
  · rfl

/-- A sign in front of a digit begins no word. -/
theorem readScalar_signed (c : Char) (rest : List Char) (digit : c.isDigit = true) :
    readScalar ('-' :: c :: rest) = readMagnitude true (c :: rest) := by
  have infinite : afterWord? "-Infinity" ('-' :: c :: rest) = none := by
    have apart : c ≠ 'I' := by
      rintro rfl
      cases digit
    rw [afterWord?, show "-Infinity".toList = '-' :: 'I' :: "nfinity".toList from rfl, List.isPrefixOf, List.isPrefixOf]
    simp [Ne.symm apart]
  have wordless : Wordless ('-' :: c :: rest) := by
    rw [Wordless, List.findSome?_eq_none_iff]
    intro entry member
    simp only [words, List.mem_cons, List.not_mem_nil, or_false] at member
    rcases member with rfl | rfl | rfl | rfl | rfl | rfl
    case inr.inr.inr.inr.inr => simp only [infinite, Option.map_none]
    all_goals
      simp only [Option.map_eq_none_iff]
      exact afterWord?_other _ '-' _ _ _ rfl (by decide)
  unfold readScalar
  rw [Wordless] at wordless
  rw [wordless]
  rfl

theorem readScalar_sign (negative : Bool) (text : List Char) (begins : ∃ c tail, text = c :: tail ∧ c.isDigit = true) :
    readScalar (signed negative text) = readMagnitude negative text := by
  obtain ⟨c, tail, rfl, digit⟩ := begins
  cases negative with
  | false => exact readScalar_digit c tail digit
  | true => exact readScalar_signed c tail digit

theorem readScalar_int (number : Int) (rest : List Char) (ends : EndsNumber rest)
    (short : (Nat.toDigits 10 number.natAbs).length ≤ maximumDigits) :
    readScalar ((toString number).toList ++ rest) = .ok (.int number, rest) := by
  have begins : ∃ c tail, Nat.toDigits 10 number.natAbs ++ rest = c :: tail ∧ c.isDigit = true := by
    obtain ⟨c, tail, written, digit⟩ := toDigits_begins number.natAbs
    exact ⟨c, tail ++ rest, by rw [written, List.cons_append], digit⟩
  rw [intText_signed, readScalar_sign _ _ begins, readMagnitude_digits _ _ rest ends, if_neg (Nat.not_lt.mpr short)]
  congr 3
  by_cases negative : number < 0
  · rw [decide_eq_true negative, if_pos rfl]
    omega
  · rw [decide_eq_false negative, if_neg Bool.false_ne_true]
    omega

theorem readScalar_float (number : Double) (rest : List Char) (canonical : number.isCanonical = true) (ends : EndsNumber rest) :
    readScalar (writeFloat number ++ rest) = .ok (.float number, rest) := by
  cases number with
  | finite negative significand scale =>
      have begins := magnitude_begins significand scale rest canonical ends
      rw [writeFloat_signed, isNegative, unsigned, readScalar_sign _ _ begins,
        readMagnitude_text negative significand scale rest canonical ends]
  | infinite negative => cases negative <;> rfl
  | nan => rfl

/-- A scalar that is no text is read up to where it ends. -/
theorem readScalar_write (style : JsonStyle) (depth : Nat) (value : Value) (rest : List Char) (ends : EndsNumber rest)
    (proper : value.isProper = true) (printable : value.isPrintable = true)
    (scalar : kindOf value = .null ∨ kindOf value = .bool ∨ kindOf value = .number) :
    readScalar (style.write depth value ++ rest) = .ok (value, rest) := by
  cases value with
  | null => rw [write]; rfl
  | bool truth => cases truth <;> rw [write] <;> rfl
  | int number =>
      rw [write]
      exact readScalar_int number rest ends (by simpa [Value.isPrintable] using printable)
  | float number =>
      rw [write]
      exact readScalar_float number rest (by simpa [Value.isProper] using proper) ends
  | str text => simp [kindOf] at scalar
  | arr items => simp [kindOf] at scalar
  | obj fields => simp [kindOf] at scalar

/-- Blanks in front of anything else. -/
def Blank (text : List Char) : Prop := ∀ c ∈ text, isBlank c = true

theorem skipBlanks_blank (blanks : List Char) (blank : Blank blanks) (c : Char) (rest : List Char) (other : isBlank c = false) :
    skipBlanks (blanks ++ c :: rest) = c :: rest := by
  rw [skipBlanks, List.dropWhile_append_of_pos blank]
  exact List.dropWhile_cons_of_neg (by simp [other])

theorem lineBreak_blank (style : JsonStyle) (depth : Nat) : Blank (style.lineBreak depth) := by
  unfold lineBreak
  cases style.indent with
  | none => exact fun c member => absurd member List.not_mem_nil
  | some width =>
      intro c member
      rcases List.mem_cons.mp member with rfl | space
      · rfl
      · rw [List.eq_of_mem_replicate space]
        rfl

/-- No value begins with a blank. -/
theorem kindFrom?_visible (c : Char) (kind : Kind) (begins : kindFrom? c = some kind) : isBlank c = false := by
  by_contra blank
  rw [Bool.not_eq_false, isBlank] at blank
  simp only [Bool.or_eq_true, decide_eq_true_eq] at blank
  rcases blank with ((rfl | rfl) | rfl) | rfl <;> cases begins

/-- A spelling in which values can be told apart, and stand-ins under which it is read. -/
structure Legible (style : JsonStyle) (halves : StandIns) : Prop where
  comma : ∃ blanks, style.comma = ',' :: blanks ∧ Blank blanks
  colon : ∃ blanks, style.colon = ':' :: blanks ∧ Blank blanks
  keeps : KeepsHalves style halves

section Parts

variable (halves : StandIns) (fuel : Nat) {input rest after tail : List Char} {c : Char}

theorem readValue_quoted (opens : skipBlanks input = '"' :: rest) : readValue halves (fuel + 1) input =
    (JsonReader.orMalformed (JsonReader.readText halves rest)).map fun (text, after) => (.str (.ofList text), after) := by
  rw [readValue, opens]
  rfl

theorem readValue_text {text : List Char} (opens : skipBlanks input = '"' :: rest)
    (reads : JsonReader.readText halves rest = some (text, after)) :
    readValue halves (fuel + 1) input = .ok (.str (.ofList text), after) := by
  rw [readValue_quoted halves fuel opens, reads]
  rfl

theorem readValue_arr (opens : skipBlanks input = '[' :: rest) : readValue halves (fuel + 1) input =
    match skipBlanks rest with
    | ']' :: after => .ok (.arr [], after)
    | _ => (readItems halves fuel rest).map fun (items, after) => (.arr items, after) := by
  rw [readValue, opens]
  rfl

theorem readValue_items (opens : skipBlanks input = '[' :: rest) (next : skipBlanks rest = c :: tail) (inside : c ≠ ']') :
    readValue halves (fuel + 1) input = (readItems halves fuel rest).map fun (items, after) => (.arr items, after) := by
  rw [readValue_arr halves fuel opens, next]
  split
  · rename_i same
    exact absurd (List.cons.inj same).1 inside
  · rfl

theorem readValue_no_items (opens : skipBlanks input = '[' :: rest) (closes : skipBlanks rest = ']' :: after) :
    readValue halves (fuel + 1) input = .ok (.arr [], after) := by
  rw [readValue_arr halves fuel opens, closes]
  rfl

theorem readValue_obj (opens : skipBlanks input = Char.ofNat 123 :: rest) : readValue halves (fuel + 1) input =
    match skipBlanks rest with
    | d :: after => if d = Char.ofNat 125 then .ok (.obj [], after)
      else (readFields halves fuel rest []).map fun (fields, after) => (.obj fields, after)
    | [] => .error .malformed := by
  rw [readValue, opens]
  rfl

theorem readValue_no_fields (opens : skipBlanks input = Char.ofNat 123 :: rest)
    (closes : skipBlanks rest = Char.ofNat 125 :: after) : readValue halves (fuel + 1) input = .ok (.obj [], after) := by
  rw [readValue_obj halves fuel opens, closes]
  rfl

theorem readValue_fields (opens : skipBlanks input = Char.ofNat 123 :: rest) (next : skipBlanks rest = c :: tail)
    (inside : c ≠ Char.ofNat 125) :
    readValue halves (fuel + 1) input = (readFields halves fuel rest []).map fun (fields, after) => (.obj fields, after) := by
  rw [readValue_obj halves fuel opens, next]
  exact if_neg inside

theorem readValue_scalar (next : skipBlanks input = c :: tail) (kind : kindFrom? c = some .null ∨ kindFrom? c = some .bool ∨
    kindFrom? c = some .number) : readValue halves (fuel + 1) input = readScalar (c :: tail) := by
  have apart (d : Char) (other : kindFrom? d = some .str ∨ kindFrom? d = some .arr ∨ kindFrom? d = some .obj) : c ≠ d := by
    rintro rfl
    rcases other with other | other | other <;> simp [other] at kind
  rw [readValue, next]
  split
  · rename_i same
    exact absurd (List.cons.inj same).1 (apart '"' (Or.inl rfl))
  · rename_i same
    exact absurd (List.cons.inj same).1 (apart '[' (Or.inr (Or.inl rfl)))
  · rename_i same
    obtain ⟨rfl, rfl⟩ := List.cons.inj same
    exact if_neg (apart _ (Or.inr (Or.inr rfl)))
  · rename_i same
    cases same

/-- One item, with what is made of the rest. -/
theorem readItems_one {item : Value} (reads : readValue halves fuel input = .ok (item, rest)) :
    readItems halves (fuel + 1) input = match skipBlanks rest with
      | ',' :: rest => do
        let (items, after) ← readItems halves fuel rest
        .ok (item :: items, after)
      | ']' :: after => .ok ([item], after)
      | _ => .error .malformed := by
  rw [readItems, reads]
  rfl

theorem readItems_more {item : Value} {others : List Value} (reads : readValue halves fuel input = .ok (item, rest))
    (comma : skipBlanks rest = ',' :: tail) (remain : readItems halves fuel tail = .ok (others, after)) :
    readItems halves (fuel + 1) input = .ok (item :: others, after) := by
  rw [readItems_one halves fuel reads, comma]
  change (do
    let (items, after) ← readItems halves fuel tail
    .ok (item :: items, after)) = _
  rw [remain]
  rfl

theorem readItems_last {item : Value} (reads : readValue halves fuel input = .ok (item, rest))
    (closes : skipBlanks rest = ']' :: after) : readItems halves (fuel + 1) input = .ok ([item], after) := by
  rw [readItems_one halves fuel reads, closes]
  rfl

section Field

variable {key : List Char} {value : Value} {fields : Fields} {colon : List Char}

theorem readFields_quoted (quoted : skipBlanks input = '"' :: rest) : readFields halves (fuel + 1) input fields = (do
    let (key, rest) ← JsonReader.orMalformed (JsonReader.readText halves rest)
    match skipBlanks rest with
    | ':' :: rest =>
      let (value, rest) ← readValue halves fuel rest
      let fields := Table.insert fields (.ofList key) value
      match skipBlanks rest with
      | ',' :: rest => readFields halves fuel rest fields
      | c :: after => if c = Char.ofNat 125 then .ok (fields, after) else .error .malformed
      | [] => .error .malformed
    | _ => .error .malformed) := by
  rw [readFields, quoted]
  rfl

theorem readFields_named (quoted : skipBlanks input = '"' :: rest)
    (named : JsonReader.readText halves rest = some (key, colon)) : readFields halves (fuel + 1) input fields =
      match skipBlanks colon with
      | ':' :: rest => do
        let (value, rest) ← readValue halves fuel rest
        let fields := Table.insert fields (.ofList key) value
        match skipBlanks rest with
        | ',' :: rest => readFields halves fuel rest fields
        | c :: after => if c = Char.ofNat 125 then .ok (fields, after) else .error .malformed
        | [] => .error .malformed
      | _ => .error .malformed := by
  rw [readFields_quoted halves fuel quoted, named]
  rfl

theorem readFields_split (quoted : skipBlanks input = '"' :: rest)
    (named : JsonReader.readText halves rest = some (key, colon)) (split : skipBlanks colon = ':' :: tail) :
    readFields halves (fuel + 1) input fields = (do
      let (value, rest) ← readValue halves fuel tail
      let fields := Table.insert fields (.ofList key) value
      match skipBlanks rest with
      | ',' :: rest => readFields halves fuel rest fields
      | c :: after => if c = Char.ofNat 125 then .ok (fields, after) else .error .malformed
      | [] => .error .malformed) := by
  rw [readFields_named halves fuel quoted named, split]
  rfl

/-- One field, with what is made of the rest. -/
theorem readFields_one (quoted : skipBlanks input = '"' :: rest) (named : JsonReader.readText halves rest = some (key, colon))
    (split : skipBlanks colon = ':' :: tail) (reads : readValue halves fuel tail = .ok (value, after)) :
    readFields halves (fuel + 1) input fields = match skipBlanks after with
      | ',' :: rest => readFields halves fuel rest (Table.insert fields (.ofList key) value)
      | c :: after => if c = Char.ofNat 125 then .ok (Table.insert fields (.ofList key) value, after) else .error .malformed
      | [] => .error .malformed := by
  rw [readFields_split halves fuel quoted named split, reads]
  rfl

end Field

end Parts

section Written

variable (style : JsonStyle) (halves : StandIns)

/-- A value that is read up to its end, wherever it ends in something that belongs to no number. -/
def Reads (value : Value) : Prop := ∀ (depth fuel : Nat) (blanks rest : List Char), Blank blanks → EndsNumber rest →
  value.isProper = true → value.isPrintable = true → (style.write depth value).length ≤ fuel →
    readValue halves fuel (blanks ++ (style.write depth value ++ rest)) = .ok (value, rest)

theorem write_arr (depth : Nat) (item : Value) (items : List Value) (rest : List Char) :
    style.write depth (.arr (item :: items)) ++ rest = '[' :: (style.lineBreak (depth + 1) ++ (style.write (depth + 1) item ++
      (style.writeItems (depth + 1) items ++ (style.lineBreak depth ++ ']' :: rest)))) := by
  rw [write]
  simp only [List.cons_append, List.append_assoc, List.nil_append]

theorem write_obj (depth : Nat) (key : String) (value : Value) (fields : Fields) (rest : List Char) :
    style.write depth (.obj ((key, value) :: fields)) ++ rest = Char.ofNat 123 :: (style.lineBreak (depth + 1) ++
      (style.writeText key ++ (style.colon ++ (style.write (depth + 1) value ++ (style.writeFields (depth + 1) fields ++
        (style.lineBreak depth ++ Char.ofNat 125 :: rest)))))) := by
  rw [write]
  simp only [List.cons_append, List.append_assoc, List.nil_append]

theorem ends_lineBreak (depth : Nat) (c : Char) (rest : List Char)
    (closes : c.isDigit = false ∧ c ≠ '.' ∧ c ≠ 'e' ∧ c ≠ 'E') : EndsNumber (style.lineBreak depth ++ c :: rest) := by
  unfold lineBreak
  cases style.indent with
  | none =>
      intro first head
      cases head
      exact closes
  | some width =>
      intro first head
      cases head
      decide

theorem Blank.append {first second : List Char} (one : Blank first) (two : Blank second) : Blank (first ++ second) := by
  intro c member
  exact (List.mem_append.mp member).elim (one c) (two c)

theorem skipBlanks_visible (c : Char) (rest : List Char) (visible : isBlank c = false) : skipBlanks (c :: rest) = c :: rest :=
  List.dropWhile_cons_of_neg (by simp [visible])

/-- Whatever stands behind a value, blanks in front of it are skipped up to the first character of its kind. -/
theorem skipBlanks_write (depth : Nat) (value : Value) (blanks rest : List Char) (blank : Blank blanks)
    (proper : value.isProper = true) : ∃ c tail, style.write depth value = c :: tail ∧ kindFrom? c = some (kindOf value) ∧
      skipBlanks (blanks ++ (style.write depth value ++ rest)) = c :: (tail ++ rest) := by
  obtain ⟨c, tail, written, kind⟩ := write_begins style depth value proper
  refine ⟨c, tail, written, kind, ?_⟩
  rw [written, List.cons_append]
  exact skipBlanks_blank blanks blank c _ (kindFrom?_visible c _ kind)

theorem scalar_reads (value : Value) (scalar : kindOf value = .null ∨ kindOf value = .bool ∨ kindOf value = .number) :
    Reads style halves value := by
  intro depth fuel blanks rest blank ends proper printable enough
  obtain ⟨c, tail, written, kind, next⟩ := skipBlanks_write style depth value blanks rest blank proper
  have nonempty : 0 < fuel := by
    rw [written, List.length_cons] at enough
    omega
  obtain ⟨fuel, rfl⟩ := Nat.exists_eq_add_of_lt nonempty
  rw [Nat.zero_add, readValue_scalar halves fuel next (by rcases scalar with same | same | same <;> simp [kind, same]),
    ← List.cons_append, ← written]
  exact readScalar_write style depth value rest ends proper printable scalar

variable (legible : Legible style halves)
include legible

theorem readText_quoted (text : String) (after : List Char) :
    JsonReader.readText halves ((style.writeText text ++ after).tail) = some (text.toList, after) := by
  rw [writeText, List.cons_append, List.cons_append, List.tail_cons, List.append_assoc]
  exact readText_written style halves legible.keeps text.toList after

theorem text_reads (text : String) : Reads style halves (.str text) := by
  intro depth fuel blanks rest blank ends proper printable enough
  rw [write] at enough ⊢
  have nonempty : 0 < fuel := by
    rw [writeText, List.length_append, List.length_singleton] at enough
    omega
  obtain ⟨fuel, rfl⟩ := Nat.exists_eq_add_of_lt nonempty
  have quoted := readText_quoted style halves legible text rest
  rw [writeText, List.cons_append] at quoted ⊢
  have opens := skipBlanks_blank blanks blank '"' ((style.writeChars text.toList ++ ['"']) ++ rest) rfl
  rw [Nat.zero_add, List.cons_append]
  exact (readValue_text halves fuel opens quoted).trans (by rw [String.ofList_toList])

theorem items_read (close depth : Nat) (item : Value) (items : List Value) (fuel : Nat) (blanks rest : List Char)
    (each : ∀ part ∈ item :: items, Reads style halves part) (proper : ∀ part ∈ item :: items, part.isProper = true)
    (printable : ∀ part ∈ item :: items, part.isPrintable = true) (blank : Blank blanks)
    (enough : (style.write depth item).length + (style.writeItems depth items).length < fuel) :
    readItems halves fuel (blanks ++ (style.write depth item ++ (style.writeItems depth items ++
      (style.lineBreak close ++ ']' :: rest)))) = .ok (item :: items, rest) := by
  induction items generalizing item fuel blanks with
  | nil =>
      obtain ⟨fuel, rfl⟩ := Nat.exists_eq_add_of_lt enough
      have reads := each item (List.mem_cons_self ..) depth _ blanks (style.lineBreak close ++ ']' :: rest) blank
        (ends_lineBreak style close ']' rest (by decide)) (proper item (List.mem_cons_self ..))
        (printable item (List.mem_cons_self ..)) (show _ ≤ (style.write depth item).length +
          (style.writeItems depth []).length + fuel by omega)
      rw [writeItems, List.nil_append]
      rw [writeItems] at reads
      exact readItems_last halves _ reads (skipBlanks_blank _ (lineBreak_blank style close) ']' rest rfl)
  | cons next items ih =>
      obtain ⟨fuel, rfl⟩ := Nat.exists_eq_add_of_lt enough
      obtain ⟨gap, comma, narrow⟩ := legible.comma
      have written : style.writeItems depth (next :: items) ++ (style.lineBreak close ++ ']' :: rest) =
          ',' :: ((gap ++ style.lineBreak depth) ++ (style.write depth next ++ (style.writeItems depth items ++
            (style.lineBreak close ++ ']' :: rest)))) := by
        rw [writeItems, comma]
        simp only [List.cons_append, List.append_assoc]
      have long : (style.writeItems depth (next :: items)).length = 1 + gap.length + (style.lineBreak depth).length +
          (style.write depth next).length + (style.writeItems depth items).length := by
        rw [writeItems, comma]
        simp only [List.length_cons, List.length_append]
        omega
      rw [written, long]
      have reads := each item (List.mem_cons_self ..) depth ((style.write depth item).length + (1 + gap.length +
          (style.lineBreak depth).length + (style.write depth next).length + (style.writeItems depth items).length) + fuel)
        blanks (',' :: ((gap ++ style.lineBreak depth) ++ (style.write depth next ++ (style.writeItems depth items ++
          (style.lineBreak close ++ ']' :: rest))))) blank (by simp [EndsNumber]) (proper item (List.mem_cons_self ..))
        (printable item (List.mem_cons_self ..)) (by omega)
      refine readItems_more halves _ reads (skipBlanks_visible ',' _ rfl) (ih next _ _ ?_ ?_ ?_ ?_ (by omega))
      · exact fun part member => each part (List.mem_cons_of_mem _ member)
      · exact fun part member => proper part (List.mem_cons_of_mem _ member)
      · exact fun part member => printable part (List.mem_cons_of_mem _ member)
      · exact narrow.append (lineBreak_blank style depth)

theorem arr_reads (items : List Value) (each : ∀ item ∈ items, Reads style halves item) : Reads style halves (.arr items) := by
  intro depth fuel blanks rest blank ends proper printable enough
  rw [Value.isProper, Value.areProper_iff] at proper
  rw [Value.isPrintable, Value.arePrintable_iff] at printable
  cases items with
  | nil =>
      rw [write] at enough ⊢
      obtain ⟨fuel, rfl⟩ := Nat.exists_eq_add_of_lt (Nat.lt_of_lt_of_le Nat.zero_lt_two enough)
      rw [Nat.zero_add]
      exact readValue_no_items halves fuel (skipBlanks_blank blanks blank '[' (']' :: rest) rfl) (skipBlanks_visible ']' rest rfl)
  | cons item items =>
      have long : (style.write depth (.arr (item :: items))).length = (style.lineBreak (depth + 1)).length +
          (style.write (depth + 1) item).length + (style.writeItems (depth + 1) items).length +
            (style.lineBreak depth).length + 2 := by
        rw [write]
        simp only [List.length_cons, List.length_append, List.length_nil]
        omega
      rw [long] at enough
      obtain ⟨fuel, rfl⟩ := Nat.exists_eq_add_of_lt (show 0 < fuel by omega)
      obtain ⟨c, tail, -, kind, next⟩ := skipBlanks_write style (depth + 1) item (style.lineBreak (depth + 1))
        (style.writeItems (depth + 1) items ++ (style.lineBreak depth ++ ']' :: rest)) (lineBreak_blank style _)
        (proper item (List.mem_cons_self ..))
      have inside : c ≠ ']' := by
        rintro rfl
        cases kind
      rw [write_arr, Nat.zero_add, readValue_items halves fuel (skipBlanks_blank blanks blank '[' _ rfl) next inside,
        items_read style halves legible depth (depth + 1) item items fuel _ rest each proper printable
          (lineBreak_blank style _) (by omega)]
      rfl

/-- A field of a table that has nothing under its key is read in front of anything. -/
theorem field_read (depth : Nat) (key : String) (value : Value) (known : Fields) (fuel : Nat) (blanks after : List Char)
    (reads : Reads style halves value) (proper : value.isProper = true) (printable : value.isPrintable = true)
    (fresh : key ∉ Table.keys known) (blank : Blank blanks) (ends : EndsNumber after)
    (enough : (style.write depth value).length ≤ fuel) :
    readFields halves (fuel + 1) (blanks ++ (style.writeText key ++ (style.colon ++ (style.write depth value ++ after)))) known =
      match skipBlanks after with
      | ',' :: rest => readFields halves fuel rest (known ++ [(key, value)])
      | c :: after => if c = Char.ofNat 125 then .ok (known ++ [(key, value)], after) else .error .malformed
      | [] => .error .malformed := by
  obtain ⟨gap, colon, narrow⟩ := legible.colon
  have quoted : skipBlanks (blanks ++ (style.writeText key ++ (style.colon ++ (style.write depth value ++ after)))) =
      '"' :: (style.writeText key ++ (style.colon ++ (style.write depth value ++ after))).tail := by
    rw [writeText, List.cons_append, List.cons_append]
    exact skipBlanks_blank blanks blank '"' _ rfl
  have named := readText_quoted style halves legible key (style.colon ++ (style.write depth value ++ after))
  have split : skipBlanks (style.colon ++ (style.write depth value ++ after)) =
      ':' :: (gap ++ (style.write depth value ++ after)) := by
    rw [colon, List.cons_append]
    exact skipBlanks_visible ':' _ rfl
  rw [readFields_one halves fuel quoted named split (reads depth fuel gap after narrow ends proper printable enough),
    String.ofList_toList, Table.insert_fresh known key value fresh]

theorem fields_read (close depth : Nat) (key : String) (value : Value) (fields known : Fields) (fuel : Nat)
    (blanks rest : List Char) (each : ∀ name part, (name, part) ∈ (key, value) :: fields → Reads style halves part)
    (proper : ∀ name part, (name, part) ∈ (key, value) :: fields → part.isProper = true)
    (printable : ∀ name part, (name, part) ∈ (key, value) :: fields → part.isPrintable = true)
    (distinct : (Table.keys (known ++ (key, value) :: fields)).Nodup) (blank : Blank blanks)
    (enough : (style.write depth value).length + (style.writeFields depth fields).length < fuel) :
    readFields halves fuel (blanks ++ (style.writeText key ++ (style.colon ++ (style.write depth value ++
      (style.writeFields depth fields ++ (style.lineBreak close ++ Char.ofNat 125 :: rest)))))) known =
        .ok (known ++ (key, value) :: fields, rest) := by
  have fresh : key ∉ Table.keys known := by
    intro member
    rw [Table.keys, List.map_append, List.nodup_append] at distinct
    exact distinct.2.2 key member key (List.mem_cons_self ..) rfl
  have reads := each key value (List.mem_cons_self ..)
  have own := proper key value (List.mem_cons_self ..)
  have short := printable key value (List.mem_cons_self ..)
  induction fields generalizing key value known fuel blanks with
  | nil =>
      obtain ⟨fuel, rfl⟩ := Nat.exists_eq_add_of_lt enough
      rw [writeFields, List.nil_append, field_read style halves legible depth key value known _ blanks _ reads own short fresh blank
        (ends_lineBreak style close (Char.ofNat 125) rest (by decide)) (by omega),
        skipBlanks_blank _ (lineBreak_blank style close) (Char.ofNat 125) rest rfl]
      rfl
  | cons field fields ih =>
      obtain ⟨fuel, rfl⟩ := Nat.exists_eq_add_of_lt enough
      obtain ⟨name, part⟩ := field
      obtain ⟨gap, comma, narrow⟩ := legible.comma
      have written : style.writeFields depth ((name, part) :: fields) ++ (style.lineBreak close ++ Char.ofNat 125 :: rest) =
          ',' :: ((gap ++ style.lineBreak depth) ++ (style.writeText name ++ (style.colon ++ (style.write depth part ++
            (style.writeFields depth fields ++ (style.lineBreak close ++ Char.ofNat 125 :: rest)))))) := by
        rw [writeFields, comma]
        simp only [List.cons_append, List.append_assoc]
      have long : (style.writeFields depth ((name, part) :: fields)).length = 1 + gap.length + (style.lineBreak depth).length +
          (style.writeText name).length + style.colon.length + (style.write depth part).length +
            (style.writeFields depth fields).length := by
        rw [writeFields, comma]
        simp only [List.length_cons, List.length_append]
        omega
      have joined : known ++ (key, value) :: (name, part) :: fields = (known ++ [(key, value)]) ++ (name, part) :: fields := by
        simp
      rw [written, field_read style halves legible depth key value known _ blanks _ reads own short fresh blank
        (by simp [EndsNumber]) (by omega), skipBlanks_visible ',' _ rfl, joined]
      rw [joined] at distinct
      have later : name ∉ Table.keys (known ++ [(key, value)]) := by
        intro member
        rw [Table.keys, List.map_append, List.nodup_append] at distinct
        exact distinct.2.2 name member name (List.mem_cons_self ..) rfl
      have among : (name, part) ∈ (key, value) :: (name, part) :: fields := List.mem_cons_of_mem _ (List.mem_cons_self ..)
      refine ih name part _ _ _ ?_ ?_ ?_ distinct (narrow.append (lineBreak_blank style depth)) (by omega) later
        (each name part among) (proper name part among) (printable name part among)
      · exact fun other found member => each other found (List.mem_cons_of_mem _ member)
      · exact fun other found member => proper other found (List.mem_cons_of_mem _ member)
      · exact fun other found member => printable other found (List.mem_cons_of_mem _ member)

theorem obj_reads (fields : Fields) (each : ∀ key value, (key, value) ∈ fields → Reads style halves value) :
    Reads style halves (.obj fields) := by
  intro depth fuel blanks rest blank ends proper printable enough
  obtain ⟨distinct, proper⟩ := (Value.obj_isProper fields).mp proper
  rw [Value.isPrintable, Value.printableFields_iff] at printable
  cases fields with
  | nil =>
      rw [write] at enough ⊢
      obtain ⟨fuel, rfl⟩ := Nat.exists_eq_add_of_lt (Nat.lt_of_lt_of_le Nat.zero_lt_two enough)
      rw [Nat.zero_add]
      exact readValue_no_fields halves fuel (skipBlanks_blank blanks blank (Char.ofNat 123) (Char.ofNat 125 :: rest) rfl)
        (skipBlanks_visible (Char.ofNat 125) rest rfl)
  | cons field fields =>
      obtain ⟨key, value⟩ := field
      have long : (style.write depth (.obj ((key, value) :: fields))).length = (style.lineBreak (depth + 1)).length +
          (style.writeText key).length + style.colon.length + (style.write (depth + 1) value).length +
            (style.writeFields (depth + 1) fields).length + (style.lineBreak depth).length + 2 := by
        rw [write]
        simp only [List.length_cons, List.length_append, List.length_nil]
        omega
      rw [long] at enough
      obtain ⟨fuel, rfl⟩ := Nat.exists_eq_add_of_lt (show 0 < fuel by omega)
      have next (after : List Char) : skipBlanks (style.lineBreak (depth + 1) ++ (style.writeText key ++ after)) =
          '"' :: (style.writeText key ++ after).tail := by
        rw [writeText, List.cons_append, List.cons_append]
        exact skipBlanks_blank _ (lineBreak_blank style _) '"' _ rfl
      rw [write_obj, Nat.zero_add, readValue_fields halves fuel (skipBlanks_blank blanks blank (Char.ofNat 123) _ rfl) (next _)
        (by decide), fields_read style halves legible depth (depth + 1) key value fields [] fuel _ rest each proper printable
          distinct (lineBreak_blank style _) (by omega)]
      rfl

/-- Every value is read from what is written for it. -/
theorem write_reads (value : Value) : Reads style halves value := by
  induction value using Value.nested with
  | arr items ih => exact arr_reads style halves legible items ih
  | obj fields ih => exact obj_reads style halves legible fields ih
  | str text => exact text_reads style halves legible text
  | null => exact scalar_reads style halves .null (Or.inl rfl)
  | bool truth => exact scalar_reads style halves (.bool truth) (Or.inr (Or.inl rfl))
  | int number => exact scalar_reads style halves (.int number) (Or.inr (Or.inr rfl))
  | float number => exact scalar_reads style halves (.float number) (Or.inr (Or.inr rfl))

/-- The text of a value is read as the value, keys in their order, also with blanks behind it. -/
theorem ofJson_toJson (value : Value) (proper : value.isProper = true) (printable : value.isPrintable = true)
    (blanks : List Char) (blank : Blank blanks) :
    Value.ofJson halves (.ofList ((value.toJson style).toList ++ blanks)) = .ok value := by
  have ends : EndsNumber blanks := by
    cases blanks with
    | nil => simp [EndsNumber]
    | cons c rest =>
        have first := blank c (List.mem_cons_self ..)
        intro other head
        cases head
        simp only [isBlank, Bool.or_eq_true, decide_eq_true_eq] at first
        rcases first with ((rfl | rfl) | rfl) | rfl <;> decide
  have reads := write_reads style halves legible value 0 ((style.write 0 value ++ blanks).length + 1) [] blanks
    (fun c member => absurd member List.not_mem_nil) ends proper printable (by rw [List.length_append]; omega)
  have empty : skipBlanks blanks = [] := by
    rw [skipBlanks, List.dropWhile_eq_nil_iff]
    exact blank
  rw [List.nil_append] at reads
  rw [Value.ofJson, Value.toJson, String.toList_ofList, String.toList_ofList, reads]
  change (if (skipBlanks blanks).isEmpty then Except.ok value else .error JsonFlaw.malformed) = _
  rw [empty]
  rfl

end Written

end JsonStyle

end FunctionStack
