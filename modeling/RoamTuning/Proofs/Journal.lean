import RoamTuning.Control.Serve
import RoamTuning.Proofs.Provided
import RoamTuning.Proofs.Sessions
import RoamTuning.Weights.OfValue

/-!
# What a store logs

Texts from outside come into the log of a store by many ways: as override text, as a band
or its thresholds, as weights and frequencies, and as the answers of a source. None of them
gets there as it is. A change announces a set that has passed the checks, so it is plain,
and it is rejected in plain words after the text as it is displayed. What is rejected
before a change is made of it is quoted. So no record breaks a line, whatever was done to
the store before, and an update leaves one plain record at most.

Results:

* `isPlain_of_plan`: what is said of a planned change.
* `brief_carryOut`: a change leaves one plain record at most.
* `writesOnly_write`, `writesOnly_scoreOf`: writes and look-ups of scores.
* `plain_refusal`: why override text is refused in a reply.
* `log_harmless`: the log of a store from its building on.
-/

namespace RoamTuning

open Text
open Value (Misfit)

/-- Whether a computation writes nothing, or one record that is plain. -/
structure Logged.Brief {ε β : Type} (x : Logged ε β) : Prop where
  single : x.log.length ≤ 1
  plain : x.WritesOnly Plain

namespace Logged

variable {ε β : Type} {x : Logged ε β}

theorem brief_of_nil (h : x.log = []) : x.Brief := ⟨by simp [h], writesOnly_of_nil h⟩

theorem brief_of_singleton {r : Record} (h : x.log = [r]) (plain : Plain r.message) :
    x.Brief := by
  refine ⟨by simp [h], ?_⟩
  rw [WritesOnly, h]
  exact List.forall_mem_singleton.2 plain

end Logged

namespace Store

open Logged

variable {α ρ : Type} [Quantity α] [Row ρ α]

/-! ## Changes -/

/-- Whether what is said of a change is plain, and of a text that it cannot apply. -/
structure Change.IsPlain (c : Change α ρ) : Prop where
  rejection : Plain c.rejection
  announcement : ∀ text ∈ c.announcement, Plain text
  derive : ∀ {base : ParamSet α ρ} {e : Override.Error}, c.derive base = .error e → e.Tame

/-- A band and integers for it, as they are said to be rejected. -/
theorem plain_thresholds (b : Band) (ns : List Int) :
    Plain ("Rejected " ++ b.key.name ++ " thresholds " ++ Value.showIntegers ns) :=
  (Consists.append (by decide +kernel) (ParamSet.plain_name_array b.key)).append_append
    (by decide +kernel) (Value.plain_showIntegers ns)

/-- **What is said of a planned change is plain**, whatever text it comes from. -/
theorem isPlain_of_plan {source : Option Source} {w : Write} {c : Change α ρ}
    (h : (w.plan source).outcome = .ok (.commit c)) : c.IsPlain := by
  cases plan_cases h with
  | @text text _ _ plan =>
    obtain ⟨-, rfl⟩ := planUpdate_eq_commit_iff.1 plan
    refine ⟨?_, fun t ht => ?_, Override.tame_of_parse⟩
    · exact Consists.append_append (by decide +kernel) (Override.plain_sanitize text)
        (by decide +kernel)
    · obtain rfl := Option.mem_some_iff.1 ht
      decide +kernel
  | @band b ns _ _ _ plan =>
    obtain rfl := Plan.commit.inj plan
    refine ⟨?_, nofun, nofun⟩
    exact (plain_thresholds b ns).append (by decide +kernel)

/-- What is said of a derived set that is rejected is plain. -/
theorem Change.IsPlain.reason {c : Change α ρ} (plain : c.IsPlain) {base : ParamSet α ρ}
    {r : Rejection} (h : candidate c.derive base = .error r) (judged : r.misfit? = none) :
    Plain r.message := by
  rcases Outcome.bind_eq_error_iff.1 h with underived | ⟨p, -, invalid⟩
  · cases derived : c.derive base with
    | ok p =>
      rw [derived] at underived
      cases underived
    | error e =>
      rw [derived] at underived
      obtain rfl := Except.error.inj underived
      rcases plain.derive derived with ⟨m, rfl⟩ | tame
      · cases judged
      · exact tame
  · cases check : p.check with
    | ok u =>
      rw [ParamSet.validated, check] at invalid
      cases invalid
    | error d =>
      rw [ParamSet.validated, check] at invalid
      obtain rfl := Except.error.inj invalid
      cases d with
      | violation v => exact p.tells_check.fails v check
      | uncheckable m => cases judged

theorem check_of_candidate {derive : Derivation α ρ} {base p : ParamSet α ρ}
    (h : candidate derive base = .ok p) : p.check = .ok () := by
  obtain ⟨q, -, valid⟩ := Outcome.bind_eq_ok_iff.1 h
  rw [Outcome.mapError_eq_ok_iff] at valid
  exact ParamSet.eq_of_validated valid ▸ ParamSet.check_of_validated valid

/-- **A planned change leaves one plain record at most**, whether it is committed or not. -/
theorem brief_carryOut (s : Store α ρ) {plan : Plan α ρ}
    (plain : ∀ c, plan = .commit c → c.IsPlain) : (s.carryOut plan).2.Brief := by
  cases plan with
  | done answer => exact brief_of_nil rfl
  | commit c =>
    have plain := plain c rfl
    cases derived : candidate c.derive s.active.params with
    | ok p =>
      rw [carryOut_of_candidate derived, Change.accepted]
      cases announcement : c.announcement with
      | none => exact brief_of_nil rfl
      | some text =>
        have announced := (plain.announcement text announcement).append
          (Override.plain_render (check_of_candidate derived))
        exact brief_of_singleton rfl announced
    | error r =>
      rw [carryOut_of_refused derived, Change.rejected]
      cases misfit : r.misfit? with
      | some m => exact brief_of_nil rfl
      | none =>
        exact brief_of_singleton rfl (plain.rejection.append (plain.reason derived misfit))

/-- **An update leaves one plain record at most**, whatever its text is. -/
theorem brief_update (s : Store α ρ) (text : Option String) : (s.update text).2.Brief := by
  cases text with
  | none => exact brief_of_nil rfl
  | some text =>
    rw [update_some]
    refine s.brief_carryOut fun c plan => ?_
    have planned : ((Write.update (some text)).plan none : Logged Fault (Plan α ρ)).outcome
        = .ok (.commit c) := congrArg Except.ok plan
    exact isPlain_of_plan planned

/-! ## Writes -/

theorem harmless_of_toInts {v : Value} {m : Misfit} (h : v.items >>= Value.toInts = .error m) :
    Harmless m.message :=
  Outcome.of_bind_eq_error (fun _ => Value.harmless_items) (fun _ _ => Value.harmless_toInts) h

theorem harmless_band (b : Band) : Harmless b.shown :=
  (Consists.append (by cases b <;> decide +kernel) (by decide +kernel)).append_append
    (harmless_quoted _) (by decide +kernel)

section Plans

variable {source : Option Source} (provided : ∀ t ∈ source, t.Provided)
include provided

theorem writesOnly_requestedThresholds (b : Band) (v : Value) :
    (requestedThresholds source b v).WritesOnly Harmless := by
  unfold requestedThresholds
  split
  · exact writesOnly_of_nil rfl
  · rename_i m _ misfit
    exact List.forall_mem_singleton.2 ((Consists.append (by decide +kernel)
      (harmless_band b)).append_append (by decide +kernel) (harmless_of_toInts misfit))
  · rename_i ns _
    split
    · have plain : Plain ("Rejected " ++ b.key.name ++ " thresholds " ++ Value.showIntegers ns
          ++ ": need 4 values") := (plain_thresholds b ns).append (by decide +kernel)
      exact List.forall_mem_singleton.2 plain.harmless
    · split
      · exact ((writesOnly_loadBand provided b).mapError _).map _
      · exact writesOnly_of_nil rfl

omit [Quantity α] in
theorem writesOnly_planBandThresholds (b : Band) (v : Value) :
    (planBandThresholds source b v : Logged Fault (Plan α ρ)).WritesOnly Harmless :=
  (writesOnly_requestedThresholds provided b v).bind fun requested _ => by
    cases requested <;> exact writesOnly_of_nil rfl

/-- **Writes are planned with a harmless log**, whatever texts they bring. -/
theorem writesOnly_plan (w : Write) :
    (w.plan source : Logged Fault (Plan α ρ)).WritesOnly Harmless := by
  cases w with
  | update text => cases text <;> exact writesOnly_of_nil rfl
  | bandThresholds b v => exact writesOnly_planBandThresholds provided b v
  | thresholds band v =>
    simp only [Write.plan]
    split
    · exact writesOnly_planBandThresholds provided _ v
    · have unknown : Harmless (Band.unknownMessage band) :=
        Consists.append band.harmless_shown (by decide +kernel)
      exact List.forall_mem_singleton.2 ((Consists.append (by decide +kernel)
        band.harmless_shown).append_append (by decide +kernel) unknown)

end Plans

/-- **What a write logs is harmless.** -/
theorem writesOnly_write {s : Store α ρ} (provided : ∀ t ∈ s.source, t.Provided) (w : Write) :
    (s.write w).2.WritesOnly Harmless := by
  have planned : (w.plan s.source : Logged Fault (Plan α ρ)).WritesOnly Harmless :=
    writesOnly_plan provided w
  simp only [write]
  cases plan : (w.plan s.source : Logged Fault (Plan α ρ)).outcome with
  | error e => exact planned
  | ok p =>
    have brief : (s.carryOut p).2.Brief := s.brief_carryOut fun c commit =>
      isPlain_of_plan (plan.trans (congrArg Except.ok commit))
    exact List.forall_mem_append.2 ⟨planned, brief.plain.mono fun _ => Plain.harmless⟩

theorem writesOnly_updates {s : Store α ρ} (ts : List (Option String)) :
    (s.updates ts).2.WritesOnly Harmless := by
  induction ts generalizing s with
  | nil => exact writesOnly_of_nil rfl
  | cons t r ih =>
    have first := (s.brief_update t).plain.mono fun _ => Plain.harmless
    simp only [updates]
    split
    · exact first
    · exact List.forall_mem_append.2 ⟨first, ih⟩

/-! ## Scores -/

/-- What is found under a value is found under a number. -/
theorem isNumber_of_weightOf {t : WeightTable} {v stored : Value}
    (h : t.weightOf v = .ok (some stored)) : v.IsNumber := by
  cases v with
  | int n => exact Value.isNumber_int n
  | bool b => rfl
  | float x => rfl
  | _ => cases h

omit [Quantity α] [Row ρ α] in
/-- **A look-up of a score logs harmlessly**, whatever is stored. -/
theorem writesOnly_scoreOf (s : Store α ρ) (frequency : Value) :
    (s.scoreOf frequency).WritesOnly Harmless := by
  unfold scoreOf
  split
  · refine WritesOnly.bind (writesOnly_of_nil rfl) fun found outcome => ?_
    cases found with
    | none => exact writesOnly_of_nil rfl
    | some stored =>
      have written := Value.plain_written_of_number (isNumber_of_weightOf outcome)
      simp only [WeightTable.scoreOfStored]
      split
      · exact writesOnly_of_nil rfl
      · refine WritesOnly.bind (writesOnly_of_nil rfl) fun s shows => ?_
        obtain ⟨-, rfl⟩ := Numeral.writeIf_eq_ok_iff.1 shows
        refine WritesOnly.bind (writesOnly_of_nil rfl) fun t writes => ?_
        obtain ⟨-, rfl⟩ := Numeral.writeIf_eq_ok_iff.1 writes
        exact List.forall_mem_singleton.2 ((Consists.append (by decide +kernel)
          stored.harmless_shown).append_append (by decide +kernel) written.harmless |>.append
            (by decide +kernel))
  · exact writesOnly_of_nil rfl

/-! ## Building -/

theorem writesOnly_build {source : Option Source} (provided : ∀ t ∈ source, t.Provided)
    (supported : Bool) (values : Option (ParamSet α ρ)) :
    (build source supported values : Logged Fault (Store α ρ)).WritesOnly Harmless := by
  cases values with
  | none =>
    have loaded := ((writesOnly_loadSet provided).mapError Fault.load).map
      (ParamSet.ofIntegers : IntParams → ParamSet α ρ)
    exact loaded.bind fun _ _ => writesOnly_of_nil rfl
  | some p => exact (writesOnly_of_nil rfl).bind fun _ _ => writesOnly_of_nil rfl

theorem writesOnly_start {source : Option Source} (provided : ∀ t ∈ source, t.Provided)
    (settings : Settings) : (start settings source).WritesOnly Harmless := by
  refine (writesOnly_build provided _ none).bind fun s _ => ?_
  split
  · split
    · exact writesOnly_of_nil rfl
    · rename_i t _ _
      have plain := (s.brief_update (some t)).plain
      rcases updated : s.update (some t) with ⟨s', answer⟩
      rw [updated] at plain
      have harmless : answer.WritesOnly Harmless := plain.mono fun _ => Plain.harmless
      refine harmless.bind fun b _ => ?_
      cases b with
      | true => exact writesOnly_of_nil rfl
      | false =>
        exact WritesOnly.bind (writesOnly_note (by decide +kernel)) fun _ _ => writesOnly_of_nil rfl
  · exact writesOnly_of_nil rfl

/-! ## Journals -/

/-- What is done to a store that may have a record: an operation, or a look-up of the score
    of a frequency of any kind. -/
inductive Deed where
  | operation (o : Operation)
  | score (frequency : Value)

/-- The store after a deed. -/
def undergo (s : Store α ρ) : Deed → Store α ρ
  | .operation o => s.apply o
  | .score _ => s

/-- What a deed logs, even if it ends with a fault. -/
def logOf (s : Store α ρ) : Deed → List Record
  | .operation (.write w) => (s.write w).2.log
  | .operation (.commitDuring outer inner) => (s.commitDuring outer inner).2.log
  | .operation (.setWeights _) => []
  | .score frequency => (s.scoreOf frequency).log

/-- What deeds log one after the other. -/
def journal (s : Store α ρ) : List Deed → List Record
  | [] => []
  | d :: r => s.logOf d ++ (s.undergo d).journal r

theorem source_undergo (s : Store α ρ) (d : Deed) : (s.undergo d).source = s.source := by
  cases d with
  | operation o => exact (sameSetup_apply s o).1
  | score frequency => rfl

/-- A commit logs what the updates log that disturb it. -/
theorem log_commitDuring (s : Store α ρ) (outer : String) (inner : List (Option String)) :
    (s.commitDuring outer inner).2.log = (s.updates inner).2.log := by
  rw [commitDuring, commitAfter]
  split <;> rfl

/-- One deed has harmless records. -/
theorem harmless_logOf {s : Store α ρ} (provided : ∀ t ∈ s.source, t.Provided) (d : Deed) :
    ∀ r ∈ s.logOf d, Harmless r.message := by
  cases d with
  | operation o =>
    cases o with
    | write w => exact writesOnly_write provided w
    | commitDuring outer inner =>
      rw [logOf, log_commitDuring]
      exact writesOnly_updates inner
    | setWeights weights => exact nofun
  | score frequency => exact s.writesOnly_scoreOf frequency

/-- So have deeds in a row. -/
theorem harmless_journal {s : Store α ρ} (provided : ∀ t ∈ s.source, t.Provided)
    (deeds : List Deed) : ∀ r ∈ s.journal deeds, Harmless r.message := by
  induction deeds generalizing s with
  | nil => exact nofun
  | cons d r ih =>
    have later : ∀ t ∈ (s.undergo d).source, t.Provided := by rwa [source_undergo]
    exact List.forall_mem_append.2 ⟨harmless_logOf provided d, ih later⟩

end Store

/-! ## Refusals in replies -/

namespace Control

variable {α ρ σ : Type} [Quantity α] [Row ρ α]

theorem eq_override_of_callOf {body : Option String} {call : Call}
    (h : callOf .params .put body = .ok call) : ∃ text, call = .override text := by
  obtain ⟨document, -, h⟩ := Outcome.bind_eq_ok_iff.1 h
  rw [Outcome.mapError_eq_ok_iff] at h
  cases decoded : decodeOverride document with
  | ok text =>
    rw [decoded] at h
    exact ⟨text, (Except.ok.inj h).symm⟩
  | error findings =>
    rw [decoded] at h
    cases h

theorem status_paramsReply {p : ParamSet α ρ} {r : Reply} (h : paramsReply p = .ok r) :
    r.status = 200 := by
  unfold paramsReply at h
  split at h
  · exact Except.ok.inj h ▸ rfl
  · cases h

/-- The status 400 means that a write is refused. -/
theorem reply_of_refused_write {setup : Setup} {s : σ} {answer : Logged Fault Bool}
    {p : ParamSet α ρ} {refusal : String}
    (h : (conclude setup s (writeReply answer (paramsReply p) refusal)).reply.status = 400) :
    (conclude setup s (writeReply answer (paramsReply p) refusal)).reply
      = detailed 400 refusal := by
  rcases answer with ⟨log, e | _ | _⟩
  · cases h
  · rfl
  · cases reply : paramsReply p with
    | error message =>
      rw [reply] at h
      cases h
    | ok r =>
      rw [reply] at h
      have okay : r.status = 400 := h
      rw [status_paramsReply reply] at okay
      cases okay

/-- Of the requests that are refused unread, one gets this status. -/
theorem reply_of_refused {setup : Setup} {s : σ} {e : Refusal}
    (h : (refuse setup s e).reply.status = 400) :
    (refuse setup s e).reply = detailed 400 "There was an error parsing the body" := by
  cases e with
  | unreadable => rfl
  | invalid findings =>
    simp only [refuse] at h
    split at h <;> cases h
  | _ => cases h

/-- **Why override text is refused is said plainly**, whatever a request holds. -/
theorem plain_refusal {setup : Setup} {s : Store α ρ} {r : Request}
    (put : routeOf r.method r.path = .endpoint .params .put)
    (status : (serve setup s r).reply.status = 400) :
    ∃ detail, (serve setup s r).reply = detailed 400 detail ∧ Plain detail := by
  have decoded : r.decode = callOf .params .put r.body := by simp only [Request.decode, put]
  rw [serve, decoded] at status ⊢
  cases called : callOf .params .put r.body with
  | error e =>
    rw [called] at status
    exact ⟨_, reply_of_refused status, by decide +kernel⟩
  | ok call =>
    rw [called] at status
    obtain ⟨text, rfl⟩ := eq_override_of_callOf called
    exact ⟨_, reply_of_refused_write status,
      Consists.append (by decide +kernel) (Override.plain_sanitize text)⟩

end Control

namespace Store

open Control (Setup Request routeOf serve detailed)

variable {α ρ : Type} [Quantity α] [Row ρ α]

/-- What a store says of override text: an update has one plain record at most, and a
    request that is refused with status 400 is told a plain reason. -/
structure SpeaksPlainly (s : Store α ρ) : Prop where
  update : ∀ text, (s.update text).2.Brief
  refusal : ∀ (setup : Setup) (r : Request), routeOf r.method r.path = .endpoint .params .put →
    (serve setup s r).reply.status = 400 →
      ∃ detail, (serve setup s r).reply = detailed 400 detail ∧ Plain detail

/-- **Nothing that a store is given breaks a line of its log.** A store without a source or
    with a provided one, whatever values or variables that is over, is built and started with
    harmless records, and whatever is done to it afterwards, with texts, bands, thresholds,
    weights and frequencies of any kind, has harmless records. At any time an update has one
    record at most, and that is plain, like the detail of a refusal. -/
theorem log_harmless {source : Option Source} (provided : ∀ t ∈ source, t.Provided)
    (supported : Bool) (values : Option (ParamSet α ρ)) :
    (build source supported values : Logged Fault (Store α ρ)).WritesOnly Harmless
      ∧ (∀ settings, (start settings source).WritesOnly Harmless)
      ∧ ∀ s : Store α ρ, (build source supported values).outcome = .ok s →
        (∀ deeds, ∀ r ∈ s.journal deeds, Harmless r.message)
          ∧ ∀ history, (s.run history).SpeaksPlainly := by
  refine ⟨writesOnly_build provided supported values, writesOnly_start provided, fun s built => ?_⟩
  obtain ⟨same, -⟩ := setup_of_build built
  exact ⟨harmless_journal (same ▸ provided),
    fun history => ⟨brief_update _, fun _ _ => Control.plain_refusal⟩⟩

/-- A source with a text for a default, which breaks a line. -/
def garbledSource : Source :=
  .ofValues (Table.ofPairs [("saved_network_bonus", .text "5\nsaved_network_bonus=5")])

/-- The store that is built from it. -/
def garbled : IntStore := ⟨some garbledSource, true, ⟨0, ParamSet.builtIn⟩, Table.empty⟩

/-- Line breaks and another control character in override text, in the name of a band and
    in a weight. -/
def garbling : List Deed := [
  .operation (.write (.update (some "nud=3\nscoring params updated"))),
  .operation (.write (.thresholds (.text "5\u0085ghz") .null)),
  .operation (.setWeights [(5180, .text "high\r")]),
  .score (.int 5180)]

theorem log_harmless_garbled :
    (build (some garbledSource) true none : Logged Fault IntStore).outcome = .ok garbled
      ∧ (garbled.journal garbling).length = 3
      ∧ (∀ r ∈ garbled.journal garbling, Harmless r.message)
      ∧ (garbled.run []).SpeaksPlainly := by
  have provided : ∀ t ∈ some garbledSource, t.Provided := by
    rintro t ⟨⟩
    exact .values _
  have loaded : (loadSet (some garbledSource)).outcome = .ok ParamSet.builtIn := by decide +kernel
  have built := build_of_loadSet loaded true
  obtain ⟨-, -, later⟩ := log_harmless provided true (none : Option IntParams)
  obtain ⟨harmless, plain⟩ := later garbled built
  exact ⟨built, by decide +kernel, harmless garbling, plain []⟩

end Store

end RoamTuning
