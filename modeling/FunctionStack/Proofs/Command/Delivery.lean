import FunctionStack.Proofs.Command.Steps
import FunctionStack.Proofs.Storage.Files
import FunctionStack.Proofs.Text.Styling
import FunctionStack.Proofs.Value.Json.ReadBack

/-!
A template that has been delivered, in its file or on the console, is read back as it was compiled.
-/

namespace FunctionStack

open Text (StandIns)

namespace Text

/-- There are no more stand-ins than halves. -/
theorem unusedChars_length (count : Nat) (text : List Char) : (unusedChars count text).length ≤ count := by
  unfold unusedChars
  exact List.length_take_le _ _

theorem StandIns.apartFrom_length (text : List Char) : (StandIns.apartFrom text).characters.length ≤ 0x800 :=
  unusedChars_length 0x800 text

end Text

namespace JsonStyle

/-- Stand-ins for a text with which a template is written. -/
theorem indented_legible (kept : Option StandIns) (halves : StandIns)
    (keeps : kept = none ∨ kept = some halves ∧ halves.characters.length ≤ 0x800) : Legible (.indented kept) halves where
  comma := ⟨[], rfl, fun _ member => absurd member List.not_mem_nil⟩
  colon := ⟨[' '], rfl, fun c member => by rw [List.mem_singleton.mp member]; rfl⟩
  keeps := keeps

theorem plain_indented (kept : Option StandIns) (value : Value) : Text.Plain (value.toJson (.indented kept)).toList := by
  have comma : Text.Plain [','] := by decide
  have colon : Text.Plain [':', ' '] := by decide
  rw [Value.toJson, String.toList_ofList]
  exact plain_write (.indented kept) comma colon value 0

/-- The indented text of a value is read as the value, also as a line of its own. -/
theorem readJson_indented (kept : Option StandIns) (halves : StandIns) (legible : Legible (.indented kept) halves)
    (value : Value) (proper : value.isProper = true) (printable : value.isPrintable = true) :
    Value.readJson halves (value.toJson (.indented kept) ++ "\n") = .ok value := by
  have line : Blank ['\n'] := fun c member => by
    rw [List.mem_singleton.mp member]
    rfl
  have spelled : value.toJson (.indented kept) ++ "\n" = .ofList ((value.toJson (.indented kept)).toList ++ ['\n']) := by
    apply String.toList_inj.mp
    rw [String.toList_append]
    exact String.toList_ofList.symm
  rw [Value.readJson, spelled, ofJson_toJson _ halves legible value proper printable ['\n'] line]

end JsonStyle

namespace FileContent

theorem text_ofText (text : String) : (FileContent.bytes (.ofText text)).text = .ok text := by
  have held : (FileContent.bytes (.ofText text)).toBlob.data = text.toUTF8 := rfl
  have decoded : String.fromUTF8? text.toUTF8 = some text := by
    rw [String.fromUTF8?, String.toUTF8_eq_toByteArray, dif_pos text.isValidUTF8]
    rfl
  rw [FileContent.text, held, decoded]

end FileContent

namespace Files

/-- A text that has been written to a path is found there. -/
theorem jsonText_written {files left : Files} (rooted : files.IsRooted) (path text : String)
    (written : files.write path (.bytes (.ofText text)) = .ok left) : left.jsonText path = .ok text := by
  unfold Files.write at written
  split at written
  case isTrue => cases written
  case isFalse readable =>
    split at written
    case h_2 => cases written
    case h_1 after wrote =>
      cases written
      obtain ⟨named, location, leads, present, -⟩ := writeAt_writes rooted path _ wrote
      have held := (read_ok path _).mpr ⟨by simpa using readable, named, location, leads, present⟩
      rw [jsonText, Result.bind_ok]
      exact ⟨_, held, FileContent.text_ofText text⟩

end Files

namespace Command

/-- What a command has printed, or written to the file that it was given, reads as a template with some stand-ins. -/
inductive Delivers (output : Option String) (console : Console) : String → Prop
  | printed (asked : Text.given output = none) : Delivers output console console.output
  | written (path text : String) (asked : Text.given output = some path)
      (holds : console.files.jsonText (Path.ofText path).toText = .ok text) : Delivers output console text

theorem Delivers.reported {output : Option String} {console : Console} {text : String}
    (delivers : Delivers output console text) (report : String) : Delivers output { console with report := report } text := by
  cases delivers with
  | printed asked => exact .printed asked
  | written path text asked holds => exact .written path text asked holds

theorem deliver_ok (output : Option String) (template : String) (console left : Console) (fresh : console.output = "")
    (rooted : console.files.IsRooted) (plain : Text.Plain template.toList)
    (delivered : (deliver output template).outcome console = (.ok (), left)) : Delivers output left (template ++ "\n") := by
  rw [outcome_deliver] at delivered
  cases asked : Text.given output with
  | none =>
      rw [asked] at delivered
      cases delivered
      have printed : Delivers output { console with output := template ++ "\n" } (template ++ "\n") := .printed asked
      simpa only [fresh, Text.unstyled_plain template plain, String.empty_append] using printed
  | some path =>
      rw [asked] at delivered
      dsimp only at delivered
      split at delivered
      case h_1 files written =>
        cases delivered
        exact .written path _ asked (Files.jsonText_written rooted _ _ written)
      case h_2 => cases delivered

end Command

end FunctionStack
