import RoamTuning.Control.Serve
import RoamTuning.Proofs.Frame
import RoamTuning.Proofs.Sessions

/-!
# Serving is operating

Whatever requests are served, the store comes out as if the operations that they
ask for were carried out on it directly: each request is refused, or reads, or
carries out the one operation that its call stands for, and its reply says how
that ended.

Results:

* `store_serve`: what one request does to a store.
* `operation?_of_get`: requests that read ask for no operation.
* `paramsReply_of_flag`: parameters with a truth value for their flag are replied.
* `reply_perform_of_write`: the reply to a write tells how the write ended.
* `served_eq_run`: requests in a row come to a history of operations.
* `served_faithful`: requests are served as the operations that they ask for.
-/

namespace RoamTuning

open ParamSet (Field)

/-! ## The flag of a set -/

namespace Store

variable {α ρ : Type} [Quantity α] [Row ρ α]

/-- Whether the flag of the active set is a truth value. -/
def Flagged (s : Store α ρ) : Prop := ∃ b, s.active.params.platform.beaconBoost6GHz = .bool b

theorem Flagged.write {s : Store α ρ} (h : s.Flagged) (w : Write) : (s.write w).1.Flagged := by
  have unnamed : Field.beaconBoost6GHz ∉ w.named := fun named =>
    absurd (Write.tunable_of_mem_named named) (by decide)
  obtain ⟨b, flag⟩ := h
  exact ⟨b, (s.get_write_of_not_named unnamed).trans flag⟩

end Store

namespace Control

open Store (Operation Write)

variable {α ρ : Type} [Quantity α] [Row ρ α]

/-! ## What requests ask for -/

/-- The write that a call makes, if it makes one. -/
def Call.write? : Call → Option Write
  | .override text => some (.update (some text))
  | .setThresholds b ns => some (.bandThresholds b (.list (ns.map .int)))
  | _ => none

/-- The operation that a call stands for, if it does not only read. -/
def Call.operation? : Call → Option Operation
  | .setWeights weights => some (.setWeights (weights.map fun w => (w.1, .text w.2.text)))
  | call => call.write?.map .write

/-- Whether a call is answered with the parameters. -/
def Call.showsParams : Call → Bool
  | .params => true
  | call => call.write?.isSome

/-- The operation that a request asks for, if it is decoded and does not only read. -/
def Request.operation? (r : Request) : Option Operation := r.decode.toOption.bind Call.operation?

theorem store_conclude {σ : Type} (setup : Setup) (s : σ) (x : Logged String Reply) :
    (conclude setup s x).store = s := by
  simp only [conclude]
  split <;> rfl

theorem store_perform (setup : Setup) (s : Store α ρ) (call : Call) :
    (perform setup s call).store = call.operation?.elim s s.apply := by
  cases call with
  | about => rfl
  | health => rfl
  | params => exact store_conclude _ _ _
  | override text => exact store_conclude _ _ _
  | thresholds frequency => exact store_conclude _ _ _
  | setThresholds b ns => exact store_conclude _ _ _
  | setWeights weights => rfl
  | score frequency => exact store_conclude _ _ _

/-- **What one request does to a store**: it carries out the operation that it
    asks for, or nothing. -/
theorem store_serve (setup : Setup) (s : Store α ρ) (r : Request) :
    (serve setup s r).store = r.operation?.elim s s.apply := by
  rw [serve, Request.operation?]
  cases r.decode with
  | ok call => exact store_perform setup s call
  | error e => exact store_refuse setup s e

theorem operation?_of_refused {r : Request} {e : Refusal} (h : r.decode = .error e) :
    r.operation? = none := by
  rw [Request.operation?, h]
  rfl

theorem operation?_of_decoded {r : Request} {call : Call} (h : r.decode = .ok call) :
    r.operation? = call.operation? := by
  rw [Request.operation?, h]
  rfl

/-! ## Reading methods -/

theorem allows_of_routeOf {method path : String} {resource : Resource} {m : Method}
    (h : routeOf method path = .endpoint resource m) :
    Method.ofName? method = some m ∧ resource.allows m = true := by
  simp only [routeOf] at h
  split at h
  · split at h
    · rename_i name
      split at h
      · rename_i allowed
        obtain ⟨rfl, rfl⟩ := Route.endpoint.inj h
        exact ⟨name, allowed⟩
      · cases h
    · cases h
  · split at h <;> cases h

theorem eq_of_decoded {d : Decoded Int} {f : Int → Call} {call : Call}
    (h : (d.map f).mapError Refusal.invalid = .ok call) : ∃ n, call = f n := by
  cases d with
  | ok n => exact ⟨n, (Except.ok.inj h).symm⟩
  | error findings => cases h

/-- An endpoint that is read makes a call that only reads. -/
theorem operation?_of_callOf_get {resource : Resource} (allowed : resource.allows .get = true)
    {body : Option String} {call : Call} (h : callOf resource .get body = .ok call) :
    call.operation? = none := by
  cases resource with
  | root => exact Except.ok.inj h ▸ rfl
  | health => exact Except.ok.inj h ▸ rfl
  | params => exact Except.ok.inj h ▸ rfl
  | thresholds item =>
    obtain ⟨n, rfl⟩ := eq_of_decoded h
    rfl
  | rssi band => cases allowed
  | weights => cases allowed
  | weight item =>
    obtain ⟨n, rfl⟩ := eq_of_decoded h
    rfl

/-- Reading requests ask for no operation. -/
theorem operation?_of_get {r : Request} (get : r.method = "GET") : r.operation? = none := by
  cases decoded : r.decode with
  | error e => exact operation?_of_refused decoded
  | ok call =>
    rw [operation?_of_decoded decoded]
    simp only [Request.decode] at decoded
    cases route : routeOf r.method r.path with
    | endpoint resource m =>
      simp only [route] at decoded
      obtain ⟨name, allowed⟩ := allows_of_routeOf route
      rw [get] at name
      obtain rfl : Method.get = m := Option.some.inj name
      exact operation?_of_callOf_get allowed decoded
    | methodNotAllowed => simp [route] at decoded
    | redirect => simp [route] at decoded
    | notFound => simp [route] at decoded

/-! ## Replies -/

/-- The status of the reply to a write that ended in some way. -/
def statusOf : Except Fault Bool → Nat
  | .ok true => 200
  | .ok false => 400
  | .error _ => 500

theorem statusOf_eq_200_iff {x : Except Fault Bool} : statusOf x = 200 ↔ x = .ok true := by
  rcases x with e | _ | _ <;> simp [statusOf]

/-- How a reply to a write says how it ended. -/
theorem reply_of_write (setup : Setup) {σ : Type} (s : σ) (answer : Logged Fault Bool)
    (members : List (String × Value)) (refusal : String) :
    let reply := (conclude setup s (writeReply answer (.ok (okay members)) refusal)).reply
    reply.status = statusOf answer.outcome
      ∧ (answer.outcome = .ok true → reply = okay members) := by
  rcases answer with ⟨log, e | _ | _⟩
  · exact ⟨rfl, nofun⟩
  · exact ⟨rfl, nofun⟩
  · exact ⟨rfl, fun _ => rfl⟩

/-- The reply with the parameters of a set of integers. -/
def paramsOf (p : IntParams) : Reply :=
  okay [("params", .text (Override.render p)), ("values", .object p.members)]

end Control

/-! ## Replies with the parameters -/

namespace Value

theorem levels_ints_le (ns : List Int) : (tuple (ns.map int)).levels ≤ 2 := by
  have items : itemLevels (ns.map int) ≤ 1 := by
    induction ns with
    | nil => simp [itemLevels]
    | cons n r ih => simp [itemLevels, ih]
  simp only [levels]
  omega

theorem writable_ints (ns : List Int) : (tuple (ns.map int)).writable = tuple (ns.map int) := by
  have items : ∀ f, mapItems f (ns.map int) = ns.map int := by
    intro f
    induction ns with
    | nil => simp [mapItems]
    | cons n r ih => simp [mapItems, mapFloats, ih]
  simp only [writable, mapFloats, items]

theorem mapMembers_eq_self {f : Binary64 → Value} {ms : List (String × Value)}
    (h : ∀ m ∈ ms, m.2.mapFloats f = m.2) : mapMembers f ms = ms := by
  induction ms with
  | nil => simp [mapMembers]
  | cons m r ih =>
    obtain ⟨first, rest⟩ := List.forall_mem_cons.1 h
    simp [mapMembers, first, ih rest]

theorem writable_object {ms : List (String × Value)} (h : ∀ m ∈ ms, m.2.writable = m.2) :
    (object ms).writable = object ms := by
  rw [writable, mapFloats, mapMembers_eq_self h]

end Value

namespace ParamSet

variable {p : IntParams} {b : Bool}

/-- The parameters of a set with a truth value for its flag have few levels, and
    are written as they are. -/
theorem plain_get (flag : p.platform.beaconBoost6GHz = .bool b) (f : Field) :
    (p.get f).levels ≤ 2 ∧ (p.get f).writable = p.get f := by
  cases f with
  | array k => exact ⟨Value.levels_ints_le _, Value.writable_ints _⟩
  | scalar k => exact ⟨by simp [get], by simp [get, Value.writable, Value.mapFloats]⟩
  | constant c => exact ⟨by simp [get], by simp [get, Value.writable, Value.mapFloats]⟩
  | beaconBoost6GHz =>
    simp only [get, flag]
    exact ⟨by simp [Value.levels], by simp [Value.writable, Value.mapFloats]⟩

end ParamSet

namespace Control

open Store (Operation Write)

variable {α ρ : Type} [Quantity α] [Row ρ α]

/-- Parameters with a truth value for their flag are replied as they are. -/
theorem paramsReply_of_flag {p : IntParams} {b : Bool}
    (flag : p.platform.beaconBoost6GHz = .bool b) : paramsReply p = .ok (paramsOf p) := by
  have plain : ∀ m ∈ p.members, m.2.levels ≤ 2 ∧ m.2.writable = m.2 := by
    intro m hm
    obtain ⟨f, -, rfl⟩ := List.mem_map.1 hm
    exact ParamSet.plain_get flag f
  have shallow : p.members.all (fun m => m.2.levels ≤ replyLevels) = true := by
    refine List.all_eq_true.2 fun m hm => decide_eq_true ?_
    exact (plain m hm).1.trans (by decide)
  rw [paramsReply, if_pos shallow, paramsOf, Value.writable_object fun m hm => (plain m hm).2]

/-- The reply to a call that writes tells how the write ended, and has the
    parameters that it left if it was accepted. -/
theorem reply_perform_of_write {s : IntStore} (flagged : s.Flagged) (setup : Setup) {call : Call}
    {w : Write} (h : call.write? = some w) :
    (perform setup s call).reply.status = statusOf (s.write w).2.outcome
      ∧ ((s.write w).2.outcome = .ok true →
        (perform setup s call).reply = paramsOf (s.write w).1.active.params) := by
  obtain ⟨b, flag⟩ := flagged.write w
  have replied := paramsReply_of_flag flag
  cases call with
  | override text =>
    obtain rfl := Option.some.inj h
    simp only [perform, Store.update, replied]
    exact reply_of_write _ _ _ _ _
  | setThresholds band ns =>
    obtain rfl := Option.some.inj h
    simp only [perform, Store.setBandThresholds, replied]
    exact reply_of_write _ _ _ _ _
  | _ => cases h

/-- A refused request is answered with a status of its own. -/
theorem status_refuse {σ : Type} (setup : Setup) (s : σ) (e : Refusal) :
    (refuse setup s e).reply.status ∈ [307, 400, 404, 405, 422, 500] := by
  cases e with
  | invalid findings =>
    simp only [refuse]
    split <;> simp [unhandled, internalError]
  | _ => simp [refuse, detailed]

/-! ## Requests in a row -/

/-- The store after requests, each of them served in a setup of its own. -/
def served (s : Store α ρ) (requests : List (Setup × Request)) : Store α ρ :=
  requests.foldl (fun t r => (serve r.1 t r.2).store) s

/-- What holds of an exchange in which a request is served to a store. -/
structure Faithful (s : IntStore) (r : Request) (x : Exchange IntStore) : Prop where
  /-- The store has carried out the operation that the request asks for, or nothing. -/
  store : x.store = r.operation?.elim s s.apply
  /-- A refused request leaves the store and is answered with a status of its own. -/
  refused : ∀ e, r.decode = .error e →
    x.store = s ∧ x.reply.status ∈ [307, 400, 404, 405, 422, 500]
  /-- A request that reads leaves the store, -/
  get : r.method = "GET" → x.store = s
  /-- and so does every request that is not answered with success. -/
  unsuccessful : x.reply.status ≠ 200 → x.store = s
  /-- A write is answered with success exactly if it is accepted, -/
  accepted : ∀ call w, r.decode = .ok call → call.write? = some w →
    (x.reply.status = 200 ↔ (s.write w).2.outcome = .ok true)
  /-- and otherwise with a status that tells rejections from faults. -/
  status : ∀ call w, r.decode = .ok call → call.write? = some w →
    x.reply.status = statusOf (s.write w).2.outcome
  /-- A successful answer with parameters has all those of the set that is active
      then, and that set as override text. -/
  params : ∀ call, r.decode = .ok call → call.showsParams = true → x.reply.status = 200 →
    x.reply = paramsOf x.store.active.params

theorem serve_of_refused {r : Request} {e : Refusal} (h : r.decode = .error e) (setup : Setup)
    (s : Store α ρ) : serve setup s r = refuse setup s e := by
  rw [serve, h]

theorem serve_of_decoded {r : Request} {call : Call} (h : r.decode = .ok call) (setup : Setup)
    (s : Store α ρ) : serve setup s r = perform setup s call := by
  rw [serve, h]

theorem Call.operation?_of_write? {call : Call} {w : Write} (h : call.write? = some w) :
    call.operation? = some (.write w) := by
  cases call with
  | setWeights weights => cases h
  | _ => simp [operation?, h]

theorem store_serve_of_write {call : Call} {w : Write} {r : Request} (decoded : r.decode = .ok call)
    (writes : call.write? = some w) (setup : Setup) (s : Store α ρ) :
    (serve setup s r).store = (s.write w).1 := by
  rw [store_serve, operation?_of_decoded decoded, Call.operation?_of_write? writes]
  rfl

/-- A request that is not answered with success leaves the store. -/
theorem store_serve_of_unsuccessful {s : IntStore} (flagged : s.Flagged) {setup : Setup}
    {r : Request} (failed : (serve setup s r).reply.status ≠ 200) :
    (serve setup s r).store = s := by
  cases decoded : r.decode with
  | error e =>
    rw [store_serve, operation?_of_refused decoded]
    rfl
  | ok call =>
    cases writes : call.write? with
    | some w =>
      rw [serve_of_decoded decoded, (reply_perform_of_write flagged setup writes).1, ne_eq,
        statusOf_eq_200_iff] at failed
      rw [store_serve_of_write decoded writes, Store.write_of_unaccepted failed]
    | none =>
      rw [serve_of_decoded decoded] at failed ⊢
      cases call with
      -- new weights are the one operation that is never rejected
      | setWeights weights => exact absurd rfl failed
      | override text => cases writes
      | setThresholds b ns => cases writes
      | _ =>
        rw [store_perform]
        rfl

/-- A successful answer with parameters has those of the store that is left. -/
theorem reply_serve_of_showsParams {s : IntStore} (flagged : s.Flagged) {setup : Setup}
    {r : Request} {call : Call} (decoded : r.decode = .ok call) (shows : call.showsParams = true)
    (success : (serve setup s r).reply.status = 200) :
    (serve setup s r).reply = paramsOf (serve setup s r).store.active.params := by
  cases writes : call.write? with
  | some w =>
    rw [store_serve_of_write decoded writes]
    rw [serve_of_decoded decoded] at success ⊢
    obtain ⟨status, reply⟩ := reply_perform_of_write flagged setup writes
    rw [status, statusOf_eq_200_iff] at success
    exact reply success
  | none =>
    cases call with
    | params =>
      obtain ⟨b, flag⟩ := flagged
      rw [serve_of_decoded decoded, perform_params (paramsReply_of_flag flag)]
    | _ => simp [Call.showsParams, writes] at shows

/-- Every request is served faithfully. -/
theorem faithful_serve {s : IntStore} (flagged : s.Flagged) (setup : Setup) (r : Request) :
    Faithful s r (serve setup s r) := by
  have status : ∀ call w, r.decode = .ok call → call.write? = some w →
      (serve setup s r).reply.status = statusOf (s.write w).2.outcome := by
    intro call w decoded writes
    rw [serve_of_decoded decoded]
    exact (reply_perform_of_write flagged setup writes).1
  refine
    { store := store_serve setup s r, refused := ?_, get := ?_
      unsuccessful := store_serve_of_unsuccessful flagged, accepted := ?_, status
      params := fun _ => reply_serve_of_showsParams flagged }
  · intro e refused
    rw [serve_of_refused refused]
    exact ⟨store_refuse setup s e, status_refuse setup s e⟩
  · intro get
    rw [store_serve, operation?_of_get get]
    rfl
  · intro call w decoded writes
    rw [status call w decoded writes, statusOf_eq_200_iff]

theorem flagged_serve {s : IntStore} (flagged : s.Flagged) (setup : Setup) (r : Request) :
    (serve setup s r).store.Flagged := by
  rw [serve]
  cases r.decode with
  | error e => rwa [store_refuse]
  | ok call =>
    rw [store_perform]
    cases call with
    | override text => exact flagged.write _
    | setThresholds b ns => exact flagged.write _
    | _ => exact flagged

theorem flagged_served {s : IntStore} (flagged : s.Flagged) (requests : List (Setup × Request)) :
    (served s requests).Flagged := by
  induction requests generalizing s with
  | nil => exact flagged
  | cons r rest ih => exact ih (flagged_serve flagged r.1 r.2)

/-- Requests come to the history of the operations that they ask for. -/
theorem served_eq_run (s : Store α ρ) (requests : List (Setup × Request)) :
    served s requests = s.run (requests.filterMap fun r => r.2.operation?) := by
  induction requests generalizing s with
  | nil => rfl
  | cons r rest ih =>
    have first : served s (r :: rest) = served (serve r.1 s r.2).store rest := rfl
    rw [first, ih, store_serve, List.filterMap_cons]
    cases r.2.operation? with
    | none => rfl
    | some o => rfl

/-- **Requests are served as the operations that they ask for.** After any
    requests the store is the one that the operations lead to by themselves, and
    every one of the exchanges is faithful. -/
theorem served_faithful {s : IntStore} (flagged : s.Flagged) (requests : List (Setup × Request)) :
    served s requests = s.run (requests.filterMap fun r => r.2.operation?)
      ∧ ∀ before setup r after, requests = before ++ (setup, r) :: after →
        Faithful (served s before) r (serve setup (served s before) r) := by
  refine ⟨served_eq_run s requests, ?_⟩
  rintro before setup r after -
  exact faithful_serve (flagged_served flagged before) setup r

/-- A setup without details. -/
def plainSetup : Setup := ⟨false, "2024-01-01T00:00:00Z"⟩

/-- An update that is accepted, and thresholds that are not. -/
def visits : List (Setup × Request) := [
  (plainSetup, ⟨"PUT", "/params", some "\x7b\"override\":\"nud=3\"\x7d"⟩),
  (plainSetup, ⟨"PUT", "/params/rssi/5ghz", some "\x7b\"thresholds\":[-88,-84,-74,5]\x7d"⟩)]

/-- A look at the parameters. -/
def look : Request := ⟨"GET", "/params", none⟩

/-- What is seen after the visits. -/
theorem served_faithful_visits :
    let t := served Store.unsourced visits
    t.active.params.tunables.nud = 3
      ∧ t.active.params.rssi .ghz5 = ParamSet.builtIn.rssi .ghz5
      ∧ (serve plainSetup t look).reply = paramsOf t.active.params := by
  obtain ⟨-, faithful⟩ := served_faithful (s := Store.unsourced) ⟨true, rfl⟩
    (visits ++ [(plainSetup, look)])
  have seen := faithful visits plainSetup look [] rfl
  have reads : look.decode = .ok .params := rfl
  have reply := seen.params .params reads rfl (by decide +kernel)
  rw [seen.get rfl] at reply
  exact ⟨by decide +kernel, by decide +kernel, reply⟩

end Control

end RoamTuning
