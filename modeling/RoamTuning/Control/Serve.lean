import RoamTuning.Control.Call
import RoamTuning.Store.Readings

/-!
# Serving the control interface

Every request is answered: a call is carried out on the store and its outcome
reported, a refusal is reported without reaching the store, and a fault is
logged and reported as an internal error, with its message only if details are
wanted.

Results:

* `perform_params`: reading the parameters changes nothing and writes no record.
* `paramsReply_of_shallow`: parameters that are not deeply nested can be replied.
* `serve_refused`: a refused request leaves the store as it is.
-/

namespace RoamTuning.Control

open RoamTuning

/-- The body of a reply. -/
inductive ReplyBody where
  | empty
  | document (v : Value)
  | issues (is : List Issue)

/-- A reply to a request. -/
structure Reply where
  status : Nat
  body : ReplyBody

/-- What serving depends on besides the store. -/
structure Setup where
  /-- Whether internal errors are reported with their message. -/
  details : Bool
  /-- The time at which requests are served. -/
  now : String

/-- The version of the interface. -/
def version : String := "0.1.0"

/-- A store of some kind after a request, with what was logged and replied. -/
structure Exchange (σ : Type) where
  store : σ
  log : List Record
  reply : Reply

/-- The exchange with another store. -/
def Exchange.map {σ τ : Type} (f : σ → τ) (x : Exchange σ) : Exchange τ :=
  ⟨f x.store, x.log, x.reply⟩

variable {α ρ σ : Type} [Quantity α] [Row ρ α]

/-! ## Replies -/

/-- A reply that everything went well. -/
def okay (members : List (String × Value)) : Reply := ⟨200, .document (.object members)⟩

/-- A reply with a text about what went wrong. -/
def detailed (status : Nat) (detail : String) : Reply :=
  ⟨status, .document (.object [("detail", .text detail)])⟩

/-- How many levels the value of a parameter may have in a reply. -/
def replyLevels : Nat := 255

/-- What is said of parameters that have too many levels for a reply. -/
def tooManyLevels : String :=
  "Error serializing to JSON: ValueError: Maximum serialization depth exceeded"

/-- The active parameters as override text and one by one, or what is said if
    one of them has too many levels. Model of `_params_response`. -/
def paramsReply (p : ParamSet α ρ) : Except String Reply :=
  if p.members.all fun m => m.2.levels ≤ replyLevels then
    .ok (okay
      [("params", .text (Override.render p)), ("values", (Value.object p.members).writable)])
  else .error tooManyLevels

/-- The reply about an internal error. -/
def internalError (setup : Setup) (message : String) : Reply :=
  ⟨500, .document (.object
    [("error", .text "Internal server error"),
      ("detail", if setup.details then .text message else .null),
      ("code", .text "INTERNAL_ERROR")])⟩

/-- Logs an internal error and replies with it. Model of `global_exception_handler`. -/
def unhandled (setup : Setup) (s : σ) (log : List Record) (message : String) : Exchange σ :=
  ⟨s, log ++ [⟨.error, "Unhandled exception: " ++ message⟩], internalError setup message⟩

/-! ## Calls -/

/-- Sends the reply that a logged computation gives, or reports what is said of
    its error. -/
def conclude (setup : Setup) (s : σ) (x : Logged String Reply) : Exchange σ :=
  match x.outcome with
  | .ok reply => ⟨s, x.log, reply⟩
  | .error message => unhandled setup s x.log message

/-- The reply to a write: the parameters if it was accepted. -/
def writeReply (answer : Logged Fault Bool) (params : Except String Reply) (refusal : String) :
    Logged String Reply := do
  if ← answer.mapError Fault.message then Logged.ofExcept params
  else return detailed 400 refusal

/-- Why the thresholds of a frequency cannot be replied. -/
inductive ReplyError where
  /-- There is no threshold of a tier. -/
  | absent (m : Value.Misfit)
  /-- The threshold of a tier is no integer. -/
  | unfit (t : Tier) (kind : IssueKind)
  /-- The frequency has too many digits to be written into the log. -/
  | unwritable

instance : Numeral.Limited ReplyError := ⟨.unwritable⟩

/-- What is said of thresholds that cannot be replied. -/
def ReplyError.message : ReplyError → String
  | absent m => m.message
  | unfit t kind => t.name ++ ": " ++ kind.code
  | unwritable => Numeral.Problem.unwritable.message

/-- The threshold of each tier in a row. -/
def tierValues (r : ρ) : Except Value.Misfit (List (Tier × Value)) :=
  Tier.all.mapM fun t => (Row.item r t.index).map fun x => (t, Quantity.value x)

/-- The threshold of a tier as a member of a reply, in which it is an integer. -/
def thresholdMember (t : Tier) (v : Value) : Except ReplyError (String × Value) :=
  match v.decodeInt with
  | .ok n => .ok (t.name, .int n)
  | .error kind => .error (.unfit t kind)

/-- The thresholds of a frequency, tier by tier. Model of `get_thresholds`. -/
def thresholdsReply (s : Store α ρ) (frequency : Int) : Logged ReplyError Reply := do
  let b ← Band.forFrequency frequency
  let values ← Logged.ofExcept ((tierValues (s.active.params.rssi b)).mapError .absent)
  let tiers ← Logged.ofExcept (values.mapM fun e => thresholdMember e.1 e.2)
  return okay ([("frequency", .int frequency), ("band", .text b.text)] ++ tiers)

/-- How a list of integers is shown in a reply. -/
def shownIntegers (ns : List Int) : String := (Value.list (ns.map .int)).shown

/-- What is said of an override text that is rejected. -/
def overrideRefusal (text : String) : String :=
  "Invalid scoring params override: " ++ Override.sanitize text

/-- What is said of thresholds that are rejected. -/
def thresholdsRefusal (b : Band) (ns : List Int) : String :=
  "Invalid RSSI thresholds for " ++ b.text ++ ": " ++ shownIntegers ns

/-- Carries out a call. Model of the endpoints. -/
def perform (setup : Setup) (s : Store α ρ) : Call → Exchange (Store α ρ)
  | .about =>
    ⟨s, [], okay [("name", .text "wifiscore API"), ("version", .text version),
      ("docs", .text "/docs"), ("health", .text "/health")]⟩
  | .health =>
    ⟨s, [], okay [("status", .text "healthy"), ("version", .text version),
      ("frequency_weights_supported", .bool s.weightsSupported), ("timestamp", .text setup.now)]⟩
  | .params => conclude setup s (Logged.ofExcept (paramsReply s.active.params))
  | .override text =>
    let (s', answer) := s.update (some text)
    conclude setup s' (writeReply answer (paramsReply s'.active.params) (overrideRefusal text))
  | .thresholds frequency =>
    conclude setup s ((thresholdsReply s frequency).mapError ReplyError.message)
  | .setThresholds b ns =>
    let (s', answer) := s.setBandThresholds b (.list (ns.map .int))
    conclude setup s'
      (writeReply answer (paramsReply s'.active.params) (thresholdsRefusal b ns))
  | .setWeights weights =>
    let s' := s.setWeights (weights.map fun w => (w.1, .text w.2.text))
    ⟨s', [], okay
      [("message", .text ("Set " ++ Numeral.text s'.weights.size ++ " frequency weights")),
        ("supported", .bool s'.weightsSupported)]⟩
  | .score frequency =>
    conclude setup s do
      let n ← (s.score frequency).mapError Value.Misfit.message
      return okay [("frequency", .int frequency), ("score", .int n)]

/-! ## Requests -/

/-- The reply to a refused request. A report that cannot be sent is an internal
    error. -/
def refuse (setup : Setup) (s : σ) : Refusal → Exchange σ
  | .notFound => ⟨s, [], detailed 404 "Not Found"⟩
  | .methodNotAllowed => ⟨s, [], detailed 405 "Method Not Allowed"⟩
  | .redirect => ⟨s, [], ⟨307, .empty⟩⟩
  | .unreadable => ⟨s, [], detailed 400 "There was an error parsing the body"⟩
  | .invalid findings =>
    match failure? findings with
    | some message => unhandled setup s [] message
    | none => ⟨s, [], ⟨422, .issues (findings.map (·.issue))⟩⟩

/-- Answers a request. Model of an application made by `create_app`. -/
def serve (setup : Setup) (s : Store α ρ) (r : Request) : Exchange (Store α ρ) :=
  match r.decode with
  | .ok call => perform setup s call
  | .error e => refuse setup s e

/-- The record with which serving a store begins. -/
def opening (s : Store α ρ) : Record := ⟨.info, "Serving scoring params: " ++ s.rendered⟩

theorem perform_params {setup : Setup} {s : Store α ρ} {r : Reply}
    (h : paramsReply s.active.params = .ok r) : perform setup s .params = ⟨s, [], r⟩ := by
  simp [perform, h, conclude, Logged.ofExcept]

theorem paramsReply_of_shallow {p : ParamSet α ρ}
    (h : ∀ m ∈ p.members, m.2.levels ≤ replyLevels) : ∃ r, paramsReply p = .ok r :=
  ⟨_, if_pos (by simpa using h)⟩

theorem store_refuse (setup : Setup) (s : σ) (e : Refusal) : (refuse setup s e).store = s := by
  cases e with
  | invalid findings => simp only [refuse]; split <;> rfl
  | _ => rfl

theorem serve_refused {setup : Setup} {s : Store α ρ} {r : Request} {e : Refusal}
    (h : r.decode = .error e) : (serve setup s r).store = s := by
  simp [serve, h, store_refuse]

end RoamTuning.Control
