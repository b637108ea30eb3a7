import RoamTuning.Json.Writing
import RoamTuning.Value.Decoding

/-!
# Reports about requests

What is wrong with a request is reported finding by finding: the code and the
place of each issue, what it says, and the part of the request that has it. A
report that would have to repeat a number that is not finite, very deep nesting
or half of a pair of surrogates cannot be sent.
-/

namespace RoamTuning.Control

open RoamTuning RoamTuning.Json

/-- An issue with the part of the request that has it, and the texts that would
    have been right there, if only some are. -/
structure Finding where
  issue : Issue
  subject : Document
  choices : List String

/-- A decoding that may have findings. -/
abbrev Decoded (α : Type) := Except (List Finding) α

/-- A single finding. -/
def found {α : Type} (kind : IssueKind) (place : List Step) (subject : Document) : Decoded α :=
  .error [⟨⟨kind, place⟩, subject, []⟩]

/-- A single finding about something that is none of some texts. -/
def foundNone {α : Type} (choices : List String) (place : List Step) (subject : Document) :
    Decoded α :=
  .error [⟨⟨.notAMember, place⟩, subject, choices⟩]

/-- Two decodings, with the findings of both. -/
def Decoded.both {α β : Type} (x : Decoded α) (y : Decoded β) : Decoded (α × β) :=
  match x, y with
  | .ok a, .ok b => .ok (a, b)
  | .ok _, .error fs => .error fs
  | .error es, .ok _ => .error es
  | .error es, .error fs => .error (es ++ fs)

/-- How many thresholds a band has. -/
def thresholdCount : Nat := 4

/-! ## What a finding says -/

/-- Texts of which one is asked for. -/
def alternatives : List String → String
  | [] => ""
  | [a] => Text.quoted a
  | [a, b] => Text.quoted a ++ " or " ++ Text.quoted b
  | a :: r => Text.quoted a ++ ", " ++ alternatives r

/-- How many items the subject of a finding has. -/
def Finding.itemCount (f : Finding) : Nat :=
  match f.subject with
  | .list items => items.length
  | _ => 0

/-- What is said of a list of the wrong length. -/
def lengthMessage (bound : String) (count : Nat) : String :=
  "List should have at " ++ bound ++ " " ++ Numeral.text thresholdCount
    ++ " items after validation, not " ++ Numeral.text count

/-- What a finding says. -/
def Finding.message (f : Finding) : String :=
  match f.issue.kind with
  | .missing => "Field required"
  | .extraForbidden => "Extra inputs are not permitted"
  | .frozenInstance => "Instance is frozen"
  | .textUnreadable =>
    "Input should be a valid string, unable to parse raw data as a unicode string"
  | .intType => "Input should be a valid integer"
  | .intParsing => "Input should be a valid integer, unable to parse string as an integer"
  | .intParsingSize => "Unable to parse input string as an integer, exceeded maximum size"
  | .intFromFloat => "Input should be a valid integer, got a number with a fractional part"
  | .finiteNumber => "Input should be a finite number"
  | .boolType => "Input should be a valid boolean"
  | .boolParsing => "Input should be a valid boolean, unable to interpret input"
  | .stringType => "Input should be a valid string"
  | .tupleType => "Input should be a valid tuple"
  | .listType => "Input should be a valid list"
  | .dictType => "Input should be a valid dictionary"
  | .objectType => "Input should be a valid dictionary or object to extract fields from"
  | .tooLong => lengthMessage "most" f.itemCount
  | .tooShort => lengthMessage "least" f.itemCount
  | .notAMember => "Input should be " ++ alternatives f.choices
  | .unreadable => "JSON decode error"

/-- What a finding says of a list of the wrong length, member by member. -/
def lengthContext (bound : String) (count : Nat) : List (List Code × Document) :=
  [(codesOf "field_type", .text (codesOf "List")), (codesOf bound, .int thresholdCount),
    (codesOf "actual_length", .int count)]

/-- The numbers and the texts that a finding speaks of, member by member. -/
def Finding.context (f : Finding) : List (List Code × Document) :=
  match f.issue.kind with
  | .tooLong => lengthContext "max_length" f.itemCount
  | .tooShort => lengthContext "min_length" f.itemCount
  | .notAMember => [(codesOf "expected", .text (codesOf (alternatives f.choices)))]
  | _ => []

/-! ## Reports -/

/-- What the names of members start with that a report leaves out. -/
def unreportedStem : List Code := codesOf "_sa"

mutual

/-- The part of a document that a report repeats. -/
def repeated : Document → Document
  | .list items => .list (repeatedItems items)
  | .object members => .object (repeatedMembers members)
  | d => d

/-- The parts of items that a report repeats. -/
def repeatedItems : List Document → List Document
  | [] => []
  | d :: r => repeated d :: repeatedItems r

/-- The parts of members that a report repeats. -/
def repeatedMembers : List (List Code × Document) → List (List Code × Document)
  | [] => []
  | m :: r =>
    if unreportedStem.isPrefixOf m.1 then repeatedMembers r
    else (m.1, repeated m.2) :: repeatedMembers r

end

/-- A step of a place. -/
def stepDocument : Step → Document
  | .member name => .text (codesOf name)
  | .item index => .int index

/-- A finding as a part of a report. -/
def Finding.document (f : Finding) : Document :=
  let context :=
    match f.context with
    | [] => []
    | ms => [(codesOf "ctx", .object ms)]
  .object ([(codesOf "type", .text (codesOf f.issue.kind.code)),
    (codesOf "loc", .list (f.issue.place.map stepDocument)),
    (codesOf "msg", .text (codesOf f.message)),
    (codesOf "input", repeated f.subject)] ++ context)

/-- The report about findings. -/
def report (findings : List Finding) : Document :=
  .object [(codesOf "detail", .list (findings.map Finding.document))]

/-- How deeply lists and objects of a report may be nested. -/
def reportDepthLimit : Nat := 963

/-- What is said of a report that cannot be written. -/
def writeErrorMessage : WriteError → String
  | .notFinite => "Out of range float values are not JSON compliant"
  | .tooDeep => "maximum recursion depth exceeded while encoding a JSON object"

/-- How many levels a document may have that is compared with texts. -/
def comparedLevels : Nat := 961

/-- What is said of a document that cannot be compared with texts. -/
def incomparableMessage : String :=
  "maximum recursion depth exceeded while getting the repr of an object"

/-- Whether a finding is about a document that cannot be compared with the texts
    of which it should be one. -/
def Finding.isIncomparable (f : Finding) : Bool :=
  f.issue.kind == .notAMember && comparedLevels < f.subject.value.levels

/-- Why a report about findings cannot be sent, if it cannot. -/
def failure? (findings : List Finding) : Option String :=
  if findings.any Finding.isIncomparable then some incomparableMessage
  else
    match write reportDepthLimit (report findings) with
    | .error e => some (writeErrorMessage e)
    | .ok cs => (unsendable? cs).map Unsendable.message

end RoamTuning.Control
