import RoamTuning.Band
import RoamTuning.Control.Report
import RoamTuning.Control.Route
import RoamTuning.Json.Encoding
import RoamTuning.Weights

/-!
# Calls of the control interface

A request is decoded into a call on the store, or it is refused before the
store is reached: for its route, because its body is no document, or because
of issues with its path and its body. Issues with the path come before those
with the body, but a body that is malformed is reported alone.
-/

namespace RoamTuning.Control

open RoamTuning RoamTuning.Json

/-- A request for a path, with a body that may be missing. -/
structure Request where
  method : String
  path : String
  body : Option String
deriving DecidableEq, Repr

/-- What a request asks of the store. -/
inductive Call where
  | about
  | health
  | params
  | override (text : String)
  | thresholds (frequency : Int)
  | setThresholds (band : Band) (thresholds : List Int)
  | setWeights (weights : List (Int × WeightClass))
  | score (frequency : Int)
deriving DecidableEq, Repr

/-- Why a request does not reach the store. -/
inductive Refusal where
  | notFound
  | methodNotAllowed
  | redirect
  /-- The body cannot be read at all. -/
  | unreadable
  /-- Parts of the request are not as they should be. -/
  | invalid (findings : List Finding)

/-! ## Integers and classes -/

/-- The integer of a document. A text with a surrogate cannot be read at all. -/
def decodeInt : Document → Except IssueKind Int
  | .text cs =>
    if cs.any Code.isSurrogate then .error .textUnreadable else Value.decodeIntText (textOf cs)
  | d => d.value.decodeInt

/-- The weight class that a document names. -/
def decodeWeightClass (place : List Step) (d : Document) : Decoded WeightClass :=
  let choices := [WeightClass.low.text, WeightClass.high.text]
  match d with
  | .text cs =>
    if cs.any Code.isSurrogate then found .textUnreadable place d
    else
      match WeightClass.ofText? (textOf cs) with
      | some c => .ok c
      | none => foundNone choices place d
  | _ => foundNone choices place d

/-! ## Paths -/

/-- The place of an item of the path. -/
def pathPlace (name : String) : List Step := [.member "path", .member name]

/-- The frequency that an item of the path writes. -/
def decodeFrequency (item : String) : Decoded Int :=
  match Value.decodeIntText item with
  | .ok n => .ok n
  | .error kind => found kind (pathPlace "frequency") (.text (codesOf item))

/-- The band that an item of the path names. -/
def decodeBand (item : String) : Decoded Band :=
  match Band.ofText? item with
  | some b => .ok b
  | none => foundNone (Band.all.map Band.text) (pathPlace "band") (.text (codesOf item))

/-! ## Bodies -/

/-- The place of the body. -/
def bodyPlace : List Step := [.member "body"]

/-- A member that a body has to have. -/
def requiredMember (name : String) (body : Option Document) : Decoded Document :=
  match body with
  | none => found .missing bodyPlace .null
  | some (.object ms) =>
    match Table.getIn (codesOf name) ms with
    | some d => .ok d
    | none => found .missing (bodyPlace ++ [.member name]) (.object ms)
  | some d => found .objectType bodyPlace d

/-- The text of an override. -/
def decodeOverride (body : Option Document) : Decoded String := do
  match ← requiredMember "override" body with
  | .text cs => .ok (textOf cs)
  | d => found .stringType (bodyPlace ++ [.member "override"]) d

/-- The integers of a list from a position on. -/
def decodeIntegers (place : List Step) : (index : Nat) → List Document → Decoded (List Int)
  | _, [] => .ok []
  | index, d :: r =>
    let first : Decoded Int :=
      match decodeInt d with
      | .ok n => .ok n
      | .error kind => found kind (place ++ [.item index]) d
    (first.both (decodeIntegers place (index + 1) r)).map fun p => p.1 :: p.2

/-- The thresholds of a band: a list of four integers. A list that is too long
    is reported as a whole, a short one only if its items are integers. -/
def decodeThresholds (body : Option Document) : Decoded (List Int) := do
  let place := bodyPlace ++ [.member "thresholds"]
  match ← requiredMember "thresholds" body with
  | .list ds =>
    if thresholdCount < ds.length then found .tooLong place (.list ds)
    else
      let ns ← decodeIntegers place 0 ds
      if ds.length < thresholdCount then found .tooShort place (.list ds) else .ok ns
  | d => found .listType place d

/-- The name of a member as a step of a place, where three times U+FFFD stands for
    a surrogate. -/
def memberStep (name : List Code) : Step :=
  .member (String.ofList (name.flatMap fun c =>
    List.replicate (if c.isSurrogate then 3 else 1) c.toChar))

/-- The weights of frequencies, entry by entry. -/
def decodeWeightEntries (place : List Step) : List (List Code × Document) →
    Decoded (List (Int × WeightClass))
  | [] => .ok []
  | (key, d) :: r =>
    let entryPlace := place ++ [memberStep key]
    let frequency : Decoded Int :=
      match decodeInt (.text key) with
      | .ok n => .ok n
      | .error kind => found kind (entryPlace ++ [.member "[key]"]) (.text key)
    ((frequency.both (decodeWeightClass entryPlace d)).both (decodeWeightEntries place r)).map
      fun p => p.1 :: p.2

/-- The weights of frequencies. -/
def decodeWeights (body : Option Document) : Decoded (List (Int × WeightClass)) := do
  let place := bodyPlace ++ [.member "weights"]
  match ← requiredMember "weights" body with
  | .object ms => decodeWeightEntries place ms
  | d => found .dictType place d

/-! ## Requests -/

/-- The document of a body; an empty body counts as none. -/
def readBody (body : Option String) : Except Refusal (Option Document) :=
  match body with
  | none => .ok none
  | some text =>
    if text.isEmpty then .ok none
    else
      match Json.readBody text with
      | .ok d => .ok (some d)
      | .error .malformed => .error (.invalid [⟨⟨.unreadable, bodyPlace⟩, .null, []⟩])
      | .error .unreadable => .error .unreadable

/-- The call that an endpoint makes of a request. Only an endpoint that takes a
    body reads it. -/
def callOf (resource : Resource) (method : Method) (body : Option String) :
    Except Refusal Call :=
  match resource, method with
  | .root, _ => .ok .about
  | .health, _ => .ok .health
  | .params, .get => .ok .params
  | .params, .put => do
    let document ← readBody body
    ((decodeOverride document).map .override).mapError .invalid
  | .thresholds item, _ => ((decodeFrequency item).map .thresholds).mapError .invalid
  | .rssi item, _ => do
    let document ← readBody body
    (((decodeBand item).both (decodeThresholds document)).map
      fun p => .setThresholds p.1 p.2).mapError .invalid
  | .weights, _ => do
    let document ← readBody body
    ((decodeWeights document).map .setWeights).mapError .invalid
  | .weight item, _ => ((decodeFrequency item).map .score).mapError .invalid

/-- Decodes a request. -/
def Request.decode (r : Request) : Except Refusal Call :=
  match routeOf r.method r.path with
  | .endpoint resource method => callOf resource method r.body
  | .methodNotAllowed => .error .methodNotAllowed
  | .redirect => .error .redirect
  | .notFound => .error .notFound

end RoamTuning.Control
