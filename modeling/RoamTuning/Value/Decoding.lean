import RoamTuning.Numeral.Tidied
import RoamTuning.Outcome
import RoamTuning.Value

/-!
# Decoding values into integers and truth values

Members of documents are decoded leniently: an integer may come as a number
without a fraction, as a truth value or as a text, and a truth value as one of
a few words or numbers. What cannot be decoded is an issue with a place.

Results:

* `decodeInt_int`, `decodeBool_bool`: values of the wanted kind are kept.
-/

namespace RoamTuning

open Text

/-- What is wrong with a part of a document. -/
inductive IssueKind where
  | missing
  | extraForbidden
  | frozenInstance
  | textUnreadable
  | intType
  | intParsing
  | intParsingSize
  | intFromFloat
  | finiteNumber
  | boolType
  | boolParsing
  | stringType
  | tupleType
  | listType
  | dictType
  | objectType
  | tooLong
  | tooShort
  | notAMember
  | unreadable
deriving DecidableEq, Repr

/-- The code by which an issue is reported. -/
def IssueKind.code : IssueKind → String
  | missing => "missing"
  | extraForbidden => "extra_forbidden"
  | frozenInstance => "frozen_instance"
  | textUnreadable => "string_unicode"
  | intType => "int_type"
  | intParsing => "int_parsing"
  | intParsingSize => "int_parsing_size"
  | intFromFloat => "int_from_float"
  | finiteNumber => "finite_number"
  | boolType => "bool_type"
  | boolParsing => "bool_parsing"
  | stringType => "string_type"
  | tupleType => "tuple_type"
  | listType => "list_type"
  | dictType => "dict_type"
  | objectType => "model_attributes_type"
  | tooLong => "too_long"
  | tooShort => "too_short"
  | notAMember => "enum"
  | unreadable => "json_invalid"

/-- One step of the way to a part of a document. -/
inductive Step where
  | member (name : String)
  | item (index : Nat)
deriving DecidableEq, Repr

/-- An issue and the way to the part that has it. -/
structure Issue where
  kind : IssueKind
  place : List Step
deriving DecidableEq, Repr

namespace Value

/-- The integer of a text in a document. -/
def decodeIntText (s : String) : Except IssueKind Int :=
  (Numeral.readTidied s.toList).mapError fun
    | .malformed => .intParsing
    | .tooManyDigits => .intParsingSize

/-- The integer of a number that lies strictly between the ends of the 64-bit
    range. -/
def decodeFloat (x : Binary64) : Except IssueKind Int :=
  match x with
  | .finite .. =>
    match x.integral? with
    | none => .error .intFromFloat
    | some n =>
      if -9223372036854775808 < n ∧ n < 9223372036854775808 then .ok n
      else .error .intParsingSize
  | _ => .error .finiteNumber

/-- The integer of a value in a document. -/
def decodeInt : Value → Except IssueKind Int
  | int n => .ok n
  | bool b => .ok (if b then 1 else 0)
  | float x => decodeFloat x
  | text s => decodeIntText s
  | _ => .error .intType

/-- The words for true, in lower case. -/
def trueWords : List String := ["1", "on", "t", "true", "y", "yes"]

/-- The words for false, in lower case. -/
def falseWords : List String := ["0", "off", "f", "false", "n", "no"]

/-- The truth value of a number in a document. -/
def decodeBoolInt (n : Int) : Except IssueKind Bool :=
  if n = 0 then .ok false else if n = 1 then .ok true else .error .boolParsing

/-- The truth value of a value in a document. Numbers beyond 64 bits are of the
    wrong kind. -/
def decodeBool : Value → Except IssueKind Bool
  | bool b => .ok b
  | int n =>
    if n < -9223372036854775808 ∨ 9223372036854775807 < n then .error .boolType
    else decodeBoolInt n
  | float x =>
    match decodeFloat x with
    | .ok n => decodeBoolInt n
    | .error _ => .error .boolType
  | text s =>
    let word := String.ofList (s.toList.map Char.toLower)
    if trueWords.contains word then .ok true
    else if falseWords.contains word then .ok false
    else .error .boolParsing
  | _ => .error .boolType

@[simp] theorem decodeInt_int (n : Int) : decodeInt (.int n) = .ok n := rfl

@[simp] theorem decodeBool_bool (b : Bool) : decodeBool (.bool b) = .ok b := rfl

end Value

end RoamTuning
