import FunctionStack.Compile.Destination
import FunctionStack.Proofs.Text.Segments

/-!
What an ARN says of its target. The kind of a target is found by searching the whole text for a piece, and this agrees with the
service that the ARN names: no segment before the resource is taken for a piece, and the resource of one service is not taken
for that of another one.
-/

namespace FunctionStack

/-- An ARN by its parts. Colons may stand in the resource too. -/
structure Arn where
  partition : String
  service : String
  region : String
  account : String
  resource : String

namespace Arn

def text (arn : Arn) : String :=
  "arn:" ++ arn.partition ++ ":" ++ arn.service ++ ":" ++ arn.region ++ ":" ++ arn.account ++ ":" ++ arn.resource

/-- The segments of a text between colons. -/
def segments (text : String) : List String := (Text.pieces ':' text.toList).map .ofList

/-- The segments that have a colon on either side. -/
def inner (text : String) : List String := (segments text).tail.dropLast

/-- A segment that would be taken for the kind of a target. -/
def IsTelling (segment : String) : Prop :=
  segment ∈ ["function", "sqs", "sns"] ∨ Text.beginsWith segment "event-bus/" = true

instance (segment : String) : Decidable (IsTelling segment) := inferInstanceAs (Decidable (_ ∨ _))

/-- A segment by itself that tells nothing. -/
structure IsQuiet (segment : String) : Prop where
  whole : ':' ∉ segment.toList
  quiet : ¬ IsTelling segment

instance (segment : String) : Decidable (IsQuiet segment) :=
  decidable_of_iff (':' ∉ segment.toList ∧ ¬ IsTelling segment)
    ⟨fun ⟨whole, quiet⟩ => ⟨whole, quiet⟩, fun ⟨whole, quiet⟩ => ⟨whole, quiet⟩⟩

/-- An ARN whose partition, region and account tell nothing of its target. -/
structure IsPlain (arn : Arn) : Prop where
  partition : IsQuiet arn.partition
  region : IsQuiet arn.region
  account : IsQuiet arn.account

/-- What an ARN names by its service and its resource. -/
inductive Names (arn : Arn) : DestinationKind → Prop
  | queue (service : arn.service = "sqs") (whole : ':' ∉ arn.resource.toList) : Names arn .queue
  | topic (service : arn.service = "sns") (whole : ':' ∉ arn.resource.toList) : Names arn .topic
  | function (service : arn.service = "lambda") (name : String) (resource : arn.resource = "function:" ++ name) :
      Names arn .function
  | eventBus (service : arn.service = "events") (name : String) (resource : arn.resource = "event-bus/" ++ name)
      (whole : ':' ∉ name.toList) : Names arn .eventBus

theorem segments_ne_nil (text : String) : segments text ≠ [] := by
  simp [segments, Text.pieces_ne_nil]

theorem segments_append (first rest : String) (whole : ':' ∉ first.toList) :
    segments (first ++ ":" ++ rest) = first :: segments rest := by
  have split := Text.pieces_append first.toList rest.toList whole
  simp [segments, split]

theorem segments_single (text : String) (whole : ':' ∉ text.toList) : segments text = [text] := by
  simp [segments, Text.pieces_single ':' text.toList whole]

theorem contains_inner (text piece : String) (whole : ':' ∉ piece.toList) :
    Text.contains text (":" ++ piece ++ ":") = true ↔ piece ∈ inner text := by
  have search := Text.occursIn_between_iff text.toList whole
  have same (segments : List (List Char)) : piece ∈ segments.map String.ofList ↔ piece.toList ∈ segments := by
    rw [List.mem_map]
    constructor
    · rintro ⟨segment, member, rfl⟩
      rwa [String.toList_ofList]
    · intro member
      exact ⟨piece.toList, member, String.ofList_toList⟩
  rw [Text.contains, inner, segments, ← List.map_tail, ← List.map_dropLast, same, ← search]
  simp

theorem contains_behind (text piece : String) (whole : ':' ∉ piece.toList) :
    Text.contains text (":" ++ piece) = true ↔ ∃ segment ∈ (segments text).tail, Text.beginsWith segment piece = true := by
  have search := Text.occursIn_iff text.toList whole
  rw [Text.contains, String.toList_append, show ":".toList ++ piece.toList = ':' :: piece.toList from rfl, search, segments,
    ← List.map_tail]
  constructor
  · rintro ⟨segment, member, begins⟩
    refine ⟨.ofList segment, List.mem_map_of_mem member, ?_⟩
    simpa [Text.beginsWith] using begins
  · rintro ⟨_, member, begins⟩
    obtain ⟨segment, listed, rfl⟩ := List.mem_map.mp member
    refine ⟨segment, listed, ?_⟩
    simpa [Text.beginsWith] using begins

end Arn

namespace DestinationKind

open Arn (segments inner)

/-- The search sees single segments only: a whole one that has others on either side, or how one behind the first begins. -/
theorem ofArn?_eq (text : String) : ofArn? text =
    if "function" ∈ inner text then some function
    else if "sqs" ∈ inner text then some queue
    else if "sns" ∈ inner text then some topic
    else if (segments text).tail.any (Text.beginsWith · "event-bus/") then some eventBus
    else none := by
  have functions : Text.contains text ":function:" = decide ("function" ∈ inner text) :=
    Bool.eq_iff_iff.mpr ((Arn.contains_inner text "function" (by decide)).trans decide_eq_true_iff.symm)
  have queues : Text.contains text ":sqs:" = decide ("sqs" ∈ inner text) :=
    Bool.eq_iff_iff.mpr ((Arn.contains_inner text "sqs" (by decide)).trans decide_eq_true_iff.symm)
  have topics : Text.contains text ":sns:" = decide ("sns" ∈ inner text) :=
    Bool.eq_iff_iff.mpr ((Arn.contains_inner text "sns" (by decide)).trans decide_eq_true_iff.symm)
  have buses : Text.contains text ":event-bus/" = (segments text).tail.any (Text.beginsWith · "event-bus/") :=
    Bool.eq_iff_iff.mpr ((Arn.contains_behind text "event-bus/" (by decide)).trans List.any_eq_true.symm)
  simp only [ofArn?, patterns, List.find?_cons, functions, queues, topics, buses, List.find?_nil]
  by_cases one : "function" ∈ inner text
  · simp [one]
  · by_cases two : "sqs" ∈ inner text
    · simp [one, two]
    · by_cases three : "sns" ∈ inner text
      · simp [one, two, three]
      · cases (segments text).tail.any (Text.beginsWith · "event-bus/") with
        | true => simp [one, two, three]
        | false => simp [one, two, three]

/-- Without a telling segment there is no kind. -/
theorem ofArn?_none (text : String) (quiet : ∀ segment ∈ segments text, ¬ Arn.IsTelling segment) : ofArn? text = none := by
  have listed (segment : String) (member : segment ∈ inner text) : segment ∈ segments text :=
    List.mem_of_mem_tail (List.dropLast_subset _ member)
  have absent (segment : String) (telling : segment ∈ ["function", "sqs", "sns"]) : segment ∉ inner text := by
    intro member
    exact quiet segment (listed segment member) (Or.inl telling)
  have none : (segments text).tail.any (Text.beginsWith · "event-bus/") = false := by
    rw [List.any_eq_false]
    intro segment member begins
    exact quiet segment (List.mem_of_mem_tail member) (Or.inr begins)
  rw [ofArn?_eq, if_neg (absent _ (by simp)), if_neg (absent _ (by simp)), if_neg (absent _ (by simp)), none]
  rfl

end DestinationKind

namespace Arn

variable {arn : Arn}

theorem segments_text (plain : arn.IsPlain) (service : ':' ∉ arn.service.toList) : segments arn.text =
    "arn" :: arn.partition :: arn.service :: arn.region :: arn.account :: segments arn.resource := by
  have whole : arn.text = "arn" ++ ":" ++ (arn.partition ++ ":" ++ (arn.service ++ ":" ++ (arn.region ++ ":" ++
      (arn.account ++ ":" ++ arn.resource)))) := by
    simp only [text, String.append_assoc]
    rfl
  rw [whole, segments_append _ _ (by decide), segments_append _ _ plain.partition.whole, segments_append _ _ service,
    segments_append _ _ plain.region.whole, segments_append _ _ plain.account.whole]

theorem inner_text (plain : arn.IsPlain) (service : ':' ∉ arn.service.toList) : inner arn.text =
    [arn.partition, arn.service, arn.region, arn.account] ++ (segments arn.resource).dropLast := by
  rw [← List.dropLast_append_of_ne_nil (segments_ne_nil arn.resource), inner, segments_text plain service]
  rfl

/-- Of the words that tell a kind only the service can be an inner segment, if the resource is a single one. -/
theorem mem_inner (plain : arn.IsPlain) (service : ':' ∉ arn.service.toList) (resource : ':' ∉ arn.resource.toList)
    (word : String) (telling : word ∈ ["function", "sqs", "sns"]) : word ∈ inner arn.text ↔ word = arn.service := by
  have apart (segment : String) (quiet : IsQuiet segment) : word ≠ segment := by
    rintro rfl
    exact quiet.quiet (Or.inl telling)
  rw [inner_text plain service, segments_single _ resource]
  simp [apart _ plain.partition, apart _ plain.region, apart _ plain.account]

/-- An ARN is of the kind that its service and its resource name. -/
theorem ofArn?_text (plain : arn.IsPlain) (kind : DestinationKind) (names : arn.Names kind) :
    DestinationKind.ofArn? arn.text = some kind := by
  rw [DestinationKind.ofArn?_eq]
  cases names with
  | queue service whole =>
      have inside := mem_inner plain (by rw [service]; decide) whole
      simp [inside, service]
  | topic service whole =>
      have inside := mem_inner plain (by rw [service]; decide) whole
      simp [inside, service]
  | function service name resource =>
      have behind : segments arn.resource = "function" :: segments name := by
        rw [resource]
        exact segments_append "function" name (by decide)
      have inside : "function" ∈ inner arn.text := by
        rw [inner_text plain (by rw [service]; decide), behind, List.dropLast_cons_of_ne_nil (segments_ne_nil name)]
        simp
      rw [if_pos inside]
  | eventBus service name resource whole =>
      have single : ':' ∉ arn.resource.toList := by
        simp [resource, whole]
      have inside := mem_inner plain (by rw [service]; decide) single
      have begins : Text.beginsWith arn.resource "event-bus/" = true := by
        simp [resource, Text.beginsWith]
      have some : (segments arn.text).tail.any (Text.beginsWith · "event-bus/") = true := by
        simp [segments_text plain (by rw [service]; decide), segments_single _ single, begins]
      simp [inside, service, some]

end Arn

namespace Destination

/-- An ARN is classified as what its service and its resource name, and is its own pointer. A text that begins like an ARN and
has no telling segment is refused, in the name of the function that declares it. -/
theorem classify_arn (owner : String) (resolve : String → Result Value) :
    (∀ (arn : Arn) (kind : DestinationKind), arn.IsPlain → arn.Names kind →
      classify (.str arn.text) owner resolve = .ok ⟨kind, .str arn.text, none⟩) ∧
    ∀ text, Text.beginsWith text "arn:" = true → (∀ segment ∈ Arn.segments text, ¬ Arn.IsTelling segment) →
      ∃ error, classify (.str text) owner resolve = .error (.rejected error) ∧
        error.cause.kind = .unsupportedDestination ∧ error.function? = some owner ∧
        ∀ wording, error.message wording = s!"Unsupported destination target {text} on function \"{owner}\"" := by
  constructor
  · intro arn kind plain names
    have begins : Text.beginsWith arn.text "arn:" = true := by
      simp [Text.beginsWith, Arn.text]
    simp [classify, ofText, begins, arn.ofArn?_text plain kind names]
  · intro text begins quiet
    refine ⟨⟨.destinationUnclassified (.str text) owner, none⟩, ?_, rfl, rfl, fun _ => rfl⟩
    simp [classify, ofText, begins, DestinationKind.ofArn?_none text quiet, reject, Failure.because]

/-- An alias of a function that is called like another service is a function, and a bucket is no target. -/
theorem classify_alias_and_bucket :
    classify (.str "arn:aws:lambda:eu-west-1:1:function:sqs:sns") "api" (fun _ => fault .missingKey) =
        .ok ⟨.function, .str "arn:aws:lambda:eu-west-1:1:function:sqs:sns", none⟩ ∧
      ∃ error, classify (.str "arn:aws:s3:::logs") "api" (fun _ => fault .missingKey) = .error (.rejected error) ∧
        error.cause.kind = .unsupportedDestination ∧ error.function? = some "api" := by
  obtain ⟨named, refused⟩ := classify_arn "api" fun _ => fault .missingKey
  constructor
  · have function := named ⟨"aws", "lambda", "eu-west-1", "1", "function:sqs:sns"⟩ .function
      ⟨by decide, by decide, by decide⟩ (.function rfl "sqs:sns" rfl)
    exact function
  · obtain ⟨error, fails, kind, owner, -⟩ := refused "arn:aws:s3:::logs" (by decide) (by decide)
    exact ⟨error, fails, kind, owner⟩

end Destination

end FunctionStack
