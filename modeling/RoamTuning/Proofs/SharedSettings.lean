import Mathlib.Data.List.DropRight
import Mathlib.Data.List.Induction
import RoamTuning.Outcome
import RoamTuning.Settings

/-!
# The settings that are shared

The settings of a process are made, asked for, configured and dropped in any order, and
each time in another environment. What is answered follows from the events since they
were last dropped: the first request that succeeded read its environment, and whatever
was given since then lies over that. A request that fails because of the environment
keeps nothing, so the next one may succeed.

Results:

* `make_eq`: what an environment sets, and when it sets nothing.
* `Overlays.configured`: configuring lays the values that are given over settings.
* `request_take`: what a request for the shared settings does.
* `Prescribed.unique`: events prescribe one answer at most.
* `tracks_take`, `tracks_of`: what is kept is what the events since a reset prescribe.
* `answer_prescribed`: what is answered after any steps.
-/

namespace RoamTuning

/-! ## What an environment sets -/

/-- The port number that an environment sets. Without a variable, or with an empty one,
    it is the built-in one. -/
def Environment.portNumber (env : Environment) : Except Numeral.Problem Int :=
  match env.filled? "API_PORT" with
  | some text => Numeral.readAny text
  | none => .ok 8000

/-- What cannot be read is a text that is there and not empty. -/
theorem Environment.portNumber_eq_error_iff {env : Environment} {p : Numeral.Problem} :
    env.portNumber = .error p
      ↔ ∃ text, env.get? "API_PORT" = some text ∧ text ≠ "" ∧ Numeral.readAny text = .error p := by
  unfold Environment.portNumber
  cases filled : env.filled? "API_PORT" with
  | none =>
    simp only [reduceCtorEq, false_iff, not_exists, not_and]
    intro text found nonempty
    simp [Environment.filled?, found, nonempty] at filled
  | some text =>
    obtain ⟨found, nonempty⟩ := Option.filter_eq_some_iff.1 filled
    simp only [found, Option.some.injEq, exists_eq_left']
    exact ⟨fun problem => ⟨by simpa using nonempty, problem⟩, And.right⟩

namespace Settings

/-- The settings that an environment with a port number sets. -/
def ofEnvironment (env : Environment) (portNumber : Int) : Settings where
  override := .text ((env.get? "SCORE_PARAMS_OVERRIDE").getD "")
  weightsSupported := .bool ((env.filled? "FREQUENCY_WEIGHTS_SUPPORTED").any fun text =>
    onWords.contains (switchWord text))
  host := .text ((env.get? "API_HOST").getD "0.0.0.0")
  portNumber := .int portNumber
  logLevel := .text ((env.get? "LOG_LEVEL").getD "INFO")
  logFormat := builtIn.logFormat
  obstacle := none

section Environment

variable {env : Environment}

theorem textFrom_text (variableName text : String) :
    textFrom env variableName (.text text) = .text ((env.get? variableName).getD text) := by
  unfold textFrom
  cases env.get? variableName <;> rfl

theorem switchFrom_false (variableName : String) :
    switchFrom env variableName (.bool false)
      = .bool ((env.filled? variableName).any fun text => onWords.contains (switchWord text)) := by
  unfold switchFrom
  cases env.filled? variableName with
  | none => simp only [Option.any_none]
  | some text => simp only [Option.any_some]

theorem integerFrom_portNumber :
    integerFrom env "API_PORT" (.int 8000) = env.portNumber.map .int := by
  unfold integerFrom Environment.portNumber
  cases env.filled? "API_PORT" <;> rfl

/-- The settings of an environment can be made exactly if it has a port number. -/
theorem make_eq (env : Environment) :
    make env [] = (env.portNumber.map (ofEnvironment env)).mapError .portNumber := by
  show overlaid builtIn env = _
  unfold overlaid
  simp only [builtIn, textFrom_text, switchFrom_false, integerFrom_portNumber]
  cases env.portNumber <;> rfl

end Environment

/-! ## Laying values over settings -/

/-- The names that are no settings and still are not passed over. -/
def ownNames : List String :=
  [Attribute.className, Attribute.membersName, Attribute.referencesName, reportName]

/-- Whether settings are others with the values over them that are given to their names:
    the last ones count. -/
structure Overlays (s : Settings) (given : List (String × Value)) (t : Settings) : Prop where
  get : ∀ k : Setting, t.get k = (given.reverse.lookup k.name).getD (s.get k)
  obstacle : t.obstacle = s.obstacle

variable {s t u : Settings} {given : List (String × Value)}

theorem eq_of_get (get : ∀ k, s.get k = t.get k) (obstacle : s.obstacle = t.obstacle) : s = t := by
  cases s
  cases t
  simp only [mk.injEq]
  exact ⟨get .override, get .weightsSupported, get .host, get .portNumber, get .logLevel,
    get .logFormat, obstacle⟩

theorem Overlays.unique (ht : Overlays s given t) (hu : Overlays s given u) : t = u :=
  eq_of_get (fun k => (ht.get k).trans (hu.get k).symm) (ht.obstacle.trans hu.obstacle.symm)

theorem get_put (s : Settings) (name : String) (v : Value) (k : Setting) :
    (s.put name v).get k = if k.name = name then v else s.get k := by
  unfold put
  cases found : Setting.ofName? name with
  | some j =>
    have named : j.name = name := by simpa using List.find?_some found
    have same : k.name = name ↔ k = j := by
      constructor
      · intro h
        rw [← h, Setting.ofName?_name] at found
        exact Option.some.inj found
      · rintro rfl
        exact named
    simp only [get_set, same]
  | none =>
    have other : k.name ≠ name := fun h => by
      rw [← h, Setting.ofName?_name] at found
      cases found
    rw [if_neg other]
    show (if name = reportName then { s with obstacle := some v } else s).get k = s.get k
    split
    · cases k <;> rfl
    · rfl

theorem obstacle_put {name : String} (h : name ≠ reportName) (s : Settings) (v : Value) :
    (s.put name v).obstacle = s.obstacle := by
  unfold put
  cases Setting.ofName? name with
  | some j => cases j <;> rfl
  | none => rw [if_neg h]

/-- Values are laid over settings one after the other. -/
theorem Overlays.configured {more : List (String × Value)} (h : Overlays s given t)
    (ordinary : ∀ g ∈ more, g.1 ∉ ownNames) : Overlays s (given ++ more) (t.configured more) := by
  induction more generalizing given t with
  | nil => simpa [Settings.configured] using h
  | cons g r ih =>
    have notReport : g.1 ≠ reportName := fun e => ordinary g (by simp) (by simp [e, ownNames])
    have first : Overlays s (given ++ [g]) (t.put g.1 g.2) := by
      refine ⟨fun k => ?_, (obstacle_put notReport t g.2).trans h.obstacle⟩
      rw [get_put, List.reverse_append, List.reverse_singleton, List.singleton_append,
        List.lookup_cons, h.get k]
      by_cases named : k.name = g.1
      · simp [named]
      · simp [named, beq_false_of_ne named]
    have rest := ih first fun e he => ordinary e (by simp [he])
    rwa [List.append_assoc] at rest

end Settings

/-- A settings object with values given to its settings. -/
def SettingsObject.configured (o : SettingsObject) (given : List (String × Value)) :
    SettingsObject :=
  { o with settings := o.settings.configured given }

namespace SettingsCache

/-! ## Steps and events -/

/-- What is done with the settings of a process, and in which environment. -/
inductive Step where
  | make (env : Environment) (given : List (String × Value))
  | get (env : Environment)
  | configure (env : Environment) (given : List (String × Value))
  | reset

namespace Step

/-- The environment in which a step asks for the shared settings. -/
def asking? : Step → Option Environment
  | get env => some env
  | configure env _ => some env
  | _ => none

/-- The values that a step gives to the shared settings. -/
def given : Step → List (String × Value)
  | configure _ given => given
  | _ => []

def isReset : Step → Bool
  | reset => true
  | _ => false

/-- Whether a step gives values to settings and to names that are passed over only. -/
def Ordinary (st : Step) : Prop := ∀ g ∈ st.given, g.1 ∉ Settings.ownNames

instance : DecidablePred Ordinary := fun st =>
  inferInstanceAs (Decidable (∀ g ∈ st.given, g.1 ∉ Settings.ownNames))

end Step

/-- Takes a step; a reset is not answered. -/
def take (c : SettingsCache) :
    Step → SettingsCache × Option (Except SettingsError SettingsObject)
  | .make env given => ((c.make env given).1, some (c.make env given).2)
  | .get env => ((c.get env).1, some (c.get env).2)
  | .configure env given => ((c.configure env given).1, some (c.configure env given).2)
  | .reset => (c.reset, none)

/-- A step that was taken, and its answer. -/
structure Event where
  step : Step
  answer : Option (Except SettingsError SettingsObject)

/-- Whether an event is a successful request for the shared settings. -/
def Event.Succeeded (e : Event) : Prop :=
  e.step.asking?.isSome ∧ ∃ o, e.answer = some (.ok o)

/-- The steps that were taken so far, and what they left. -/
structure History where
  cache : SettingsCache
  events : List Event

namespace History

def after (h : History) (st : Step) : History where
  cache := (h.cache.take st).1
  events := h.events ++ [⟨st, (h.cache.take st).2⟩]

/-- The history of a process that takes steps. -/
def of (steps : List Step) : History := steps.foldl after ⟨.empty, []⟩

/-- The events since the last reset. -/
def sinceReset (h : History) : List Event := h.events.rtakeWhile fun e => !e.step.isReset

variable (h : History)

theorem sinceReset_of_isReset {st : Step} (resets : st.isReset = true) :
    (h.after st).sinceReset = [] := by
  simp [sinceReset, after, List.rtakeWhile_concat_neg, resets]

theorem sinceReset_after {st : Step} (goesOn : st.isReset = false) :
    (h.after st).sinceReset = h.sinceReset ++ [⟨st, (h.cache.take st).2⟩] := by
  simp [sinceReset, after, List.rtakeWhile_concat_pos, goesOn]

theorem of_append_singleton (steps : List Step) (st : Step) :
    of (steps ++ [st]) = (of steps).after st := by
  simp [of]

end History

/-! ## Requests -/

/-- What a request for the shared settings, which gives them values, may come to. -/
inductive Request (c : SettingsCache) (env : Environment) (given : List (String × Value)) :
    SettingsCache × Except SettingsError SettingsObject → Prop
  /-- The settings that are kept are given the values. -/
  | kept {o : SettingsObject} (found : c.kept = some o) :
    Request c env given (⟨c.made, some (o.configured given)⟩, .ok (o.configured given))
  /-- New settings are read from the environment and given the values. -/
  | made {port : Int} (nothing : c.kept = none) (readable : env.portNumber = .ok port) :
    Request c env given
      (⟨c.made + 1, some ⟨c.made, (Settings.ofEnvironment env port).configured given⟩⟩,
        .ok ⟨c.made, (Settings.ofEnvironment env port).configured given⟩)
  /-- The environment has no port number, and nothing is kept. -/
  | failed {p : Numeral.Problem} (nothing : c.kept = none) (problem : env.portNumber = .error p) :
    Request c env given (c, .error (.portNumber p))

variable {c : SettingsCache} {st : Step} {env : Environment} {given : List (String × Value)}

theorem request_get (c : SettingsCache) (env : Environment) : Request c env [] (c.get env) := by
  cases found : c.kept with
  | some o =>
    have same : c = ⟨c.made, some o⟩ := by rw [← found]
    rw [get_of_cached found]
    nth_rewrite 2 [same]
    exact .kept found
  | none =>
    simp only [get, found, Settings.make_eq]
    cases port : env.portNumber with
    | ok n => exact .made found port
    | error p => exact .failed found port

/-- Settings with ordinary names are given values. -/
theorem configure_of_get {o : SettingsObject} {c' : SettingsCache}
    (got : c.get env = (c', .ok o)) (ordinary : ∀ g ∈ given, g.1 ∉ Settings.ownNames) :
    c.configure env given = (⟨c'.made, some (o.configured given)⟩, .ok (o.configured given)) := by
  have assignable : ∀ g ∈ given,
      g.1 ∉ [Attribute.className, Attribute.membersName, Attribute.referencesName] := by
    intro g hg named
    exact ordinary g hg (List.mem_append_left [Settings.reportName] named)
  simp only [configure, got, Settings.assignAll_of_ordinary assignable]
  rfl

theorem request_configure (ordinary : ∀ g ∈ given, g.1 ∉ Settings.ownNames) :
    Request c env given (c.configure env given) := by
  cases got : c.get env with
  | mk c' answer =>
    have asked := request_get c env
    rw [got] at asked
    cases asked with
    | kept found =>
      rw [configure_of_get got ordinary]
      exact .kept found
    | made nothing readable =>
      rw [configure_of_get got ordinary]
      exact .made nothing readable
    | failed nothing problem =>
      simp only [configure, got]
      exact .failed nothing problem

/-- What a step that asks for the shared settings comes to. -/
theorem request_take (asks : st.asking? = some env) (ordinary : st.Ordinary) :
    ∃ c' answer, c.take st = (c', some answer) ∧ Request c env st.given (c', answer) := by
  cases st with
  | get =>
    obtain rfl := Option.some.inj asks
    exact ⟨_, _, rfl, request_get c _⟩
  | configure =>
    obtain rfl := Option.some.inj asks
    exact ⟨_, _, rfl, request_configure ordinary⟩
  | make => cases asks
  | reset => cases asks

/-! ## What events prescribe -/

/-- Whether events prescribe settings: the first request that succeeded read its
    environment, and the values that were given since then lie over that. -/
inductive Prescribed (es : List Event) (t : Settings) : Prop
  | intro {failed later : List Event} {first : Event} {env : Environment} {port : Int}
    (events : es = failed ++ first :: later)
    (before : ∀ e ∈ failed, ¬ e.Succeeded) (succeeded : first.Succeeded)
    (asked : first.step.asking? = some env) (readable : env.portNumber = .ok port)
    (overlays : (Settings.ofEnvironment env port).Overlays
      ((first :: later).flatMap (·.step.given)) t)

variable {es : List Event} {e : Event} {t u : Settings}

/-- One more event gives its values. -/
theorem Prescribed.extend (h : Prescribed es t) (ordinary : e.step.Ordinary) :
    Prescribed (es ++ [e]) (t.configured e.step.given) := by
  obtain @⟨failed, later, first, env, port, rfl, before, succeeded, asked, readable, overlays⟩ := h
  have values : (first :: (later ++ [e])).flatMap (·.step.given)
      = (first :: later).flatMap (·.step.given) ++ e.step.given := by simp
  refine ⟨List.append_assoc _ _ _, before, succeeded, asked, readable, ?_⟩
  exact values ▸ overlays.configured ordinary

/-- The first request that succeeds prescribes what it reads. -/
theorem Prescribed.first {port : Int} (before : ∀ e ∈ es, ¬ e.Succeeded) (succeeded : e.Succeeded)
    (asked : e.step.asking? = some env) (readable : env.portNumber = .ok port)
    (ordinary : e.step.Ordinary) :
    Prescribed (es ++ [e]) ((Settings.ofEnvironment env port).configured e.step.given) := by
  refine ⟨rfl, before, succeeded, asked, readable, ?_⟩
  rw [List.flatMap_singleton]
  have bare : (Settings.ofEnvironment env port).Overlays [] (Settings.ofEnvironment env port) :=
    ⟨fun _ => rfl, rfl⟩
  exact bare.configured ordinary

theorem Prescribed.exists_succeeded (h : Prescribed es t) : ∃ e ∈ es, e.Succeeded := by
  obtain ⟨rfl, -, succeeded, -, -, -⟩ := h
  exact ⟨_, by simp, succeeded⟩

/-- There is only one first request that succeeded. -/
theorem first_succeeded_unique {as bs r q : List Event} {a b : Event}
    (ha : ∀ e ∈ as, ¬ e.Succeeded) (hb : ∀ e ∈ bs, ¬ e.Succeeded) (sa : a.Succeeded)
    (sb : b.Succeeded) (same : as ++ a :: r = bs ++ b :: q) : a = b ∧ r = q := by
  induction as generalizing bs with
  | nil =>
    cases bs with
    | nil => exact List.cons.inj same
    | cons b' _ =>
      obtain rfl := (List.cons.inj same).1
      exact absurd sa (hb a (by simp))
  | cons a' as ih =>
    cases bs with
    | nil =>
      obtain rfl := (List.cons.inj same).1
      exact absurd sb (ha a' (by simp))
    | cons b' bs =>
      exact ih (fun e he => ha e (by simp [he])) (fun e he => hb e (by simp [he]))
        (List.cons.inj same).2

/-- Events prescribe one answer at most. No environment but the first one counts, and no
    settings that were made for themselves. -/
theorem Prescribed.unique (ht : Prescribed es t) (hu : Prescribed es u) : t = u := by
  obtain @⟨_, _, _, _, _, rfl, before, succeeded, asked, readable, overlays⟩ := ht
  obtain @⟨_, _, _, _, _, same, before', succeeded', asked', readable', overlays'⟩ := hu
  obtain ⟨rfl, rfl⟩ := first_succeeded_unique before before' succeeded succeeded' same
  obtain rfl := Option.some.inj (asked.symm.trans asked')
  obtain rfl := Except.ok.inj (readable.symm.trans readable')
  exact overlays.unique overlays'

/-! ## What is kept -/

/-- Whether what is kept is what the events since the last reset prescribe. -/
structure Tracks (c : SettingsCache) (es : List Event) : Prop where
  nothing : c.kept = none → ∀ e ∈ es, ¬ e.Succeeded
  kept : ∀ o, c.kept = some o → Prescribed es o.settings

/-- After a request that succeeds the settings that it answers are kept, and after one
    that fails nothing is kept. -/
theorem Tracks.request (h : Tracks c es) (asks : st.asking? = some env)
    (ordinary : st.Ordinary) {c' : SettingsCache} {answer : Except SettingsError SettingsObject}
    (r : Request c env st.given (c', answer)) :
    (∀ o, answer = .ok o → c'.kept = some o ∧ Prescribed (es ++ [⟨st, some answer⟩]) o.settings)
      ∧ (∀ e, answer = .error e → c.kept = none ∧ c'.kept = none
        ∧ ∃ p, env.portNumber = .error p ∧ e = .portNumber p) := by
  cases r with
  | @kept o found =>
    refine ⟨fun o' answered => ?_, nofun⟩
    obtain rfl := Except.ok.inj answered
    exact ⟨rfl, (h.kept o found).extend (e := ⟨st, _⟩) ordinary⟩
  | made nothing readable =>
    refine ⟨fun o answered => ?_, nofun⟩
    obtain rfl := Except.ok.inj answered
    refine ⟨rfl, .first (e := ⟨st, _⟩) (h.nothing nothing) ?_ asks readable ordinary⟩
    exact ⟨by simp [asks], _, rfl⟩
  | failed nothing problem =>
    refine ⟨nofun, fun e answered => ?_⟩
    exact ⟨nothing, nothing, _, problem, (Except.error.inj answered).symm⟩

theorem kept_make (c : SettingsCache) (env : Environment) (given : List (String × Value)) :
    (c.make env given).1.kept = c.kept := by
  unfold make
  cases Settings.make env given <;> rfl

/-- A step that does not drop what is kept keeps track of the events. -/
theorem tracks_take (h : Tracks c es) (ordinary : st.Ordinary) (goesOn : st.isReset = false) :
    Tracks (c.take st).1 (es ++ [⟨st, (c.take st).2⟩]) := by
  cases asks : st.asking? with
  | some env =>
    obtain ⟨c', answer, taken, r⟩ := request_take (c := c) asks ordinary
    obtain ⟨answered, refused⟩ := h.request asks ordinary r
    rw [taken]
    cases answer with
    | ok o =>
      obtain ⟨found, prescribed⟩ := answered o rfl
      refine ⟨fun nothing => ?_, fun o' found' => ?_⟩
      · cases found.symm.trans nothing
      · obtain rfl := Option.some.inj (found.symm.trans found')
        exact prescribed
    | error e =>
      obtain ⟨nothing, nothing', -⟩ := refused e rfl
      refine ⟨fun _ => ?_, fun o found => by cases nothing'.symm.trans found⟩
      refine List.forall_mem_append.2 ⟨h.nothing nothing, List.forall_mem_singleton.2 ?_⟩
      rintro ⟨-, o, succeeded⟩
      cases succeeded
  | none =>
    cases st with
    | make env given =>
      have same := kept_make c env given
      refine ⟨fun nothing => ?_, fun o found => ?_⟩
      · refine List.forall_mem_append.2
          ⟨h.nothing (same.symm.trans nothing), List.forall_mem_singleton.2 ?_⟩
        rintro ⟨asks, -⟩
        cases asks
      · exact (h.kept o (same.symm.trans found)).extend (e := ⟨.make env given, _⟩) nofun
    | get => cases asks
    | configure => cases asks
    | reset => cases goesOn

/-- **What is kept is what the events since the last reset prescribe.** -/
theorem tracks_of {steps : List Step} (ordinary : ∀ st ∈ steps, st.Ordinary) :
    Tracks (History.of steps).cache (History.of steps).sinceReset := by
  induction steps using List.reverseRecOn with
  | nil => exact ⟨fun _ => nofun, nofun⟩
  | append_singleton steps st ih =>
    have before := ih fun st' h => ordinary st' (by simp [h])
    rw [History.of_append_singleton]
    cases resets : st.isReset with
    | true =>
      rw [History.sinceReset_of_isReset _ resets]
      cases st with
      | reset => exact ⟨fun _ => nofun, nofun⟩
      | _ => cases resets
    | false =>
      rw [History.sinceReset_after _ resets]
      exact tracks_take before (ordinary st (by simp)) resets

/-- **What is answered after any steps.** A request for the shared settings succeeds
    exactly if one did since the last reset or its own environment has a port number. What
    is answered then, and kept, is what the events prescribe. Otherwise it fails because of
    the port number, and nothing is kept. -/
theorem answer_prescribed {steps : List Step} (ordinary : ∀ st ∈ steps, st.Ordinary) {now : Step}
    {env : Environment} (asks : now.asking? = some env) (named : now.Ordinary) :
    ∃ c answer, (History.of steps).cache.take now = (c, some answer)
      ∧ ((∃ o, answer = .ok o)
        ↔ (∃ e ∈ (History.of steps).sinceReset, e.Succeeded) ∨ ∃ port, env.portNumber = .ok port)
      ∧ (∀ o, answer = .ok o → c.kept = some o
        ∧ Prescribed ((History.of steps).sinceReset ++ [⟨now, some answer⟩]) o.settings)
      ∧ (∀ e, answer = .error e → c.kept = none ∧ ∃ text p, env.get? "API_PORT" = some text
        ∧ text ≠ "" ∧ Numeral.readAny text = .error p ∧ e = .portNumber p) := by
  have tracked := tracks_of ordinary
  obtain ⟨c, answer, taken, r⟩ := request_take (c := (History.of steps).cache) asks named
  obtain ⟨answered, refused⟩ := tracked.request asks named r
  refine ⟨c, answer, taken, ⟨?_, ?_⟩, answered, ?_⟩
  · rintro ⟨o, rfl⟩
    cases r with
    | kept found => exact .inl (tracked.kept _ found).exists_succeeded
    | made _ readable => exact .inr ⟨_, readable⟩
  · intro possible
    cases answer with
    | ok o => exact ⟨o, rfl⟩
    | error e =>
      obtain ⟨nothing, -, p, problem, -⟩ := refused e rfl
      rcases possible with ⟨e', since, succeeded⟩ | ⟨port, readable⟩
      · exact absurd succeeded (tracked.nothing nothing e' since)
      · cases problem.symm.trans readable
  · rintro e rfl
    obtain ⟨-, nothing, p, problem, rfl⟩ := refused e rfl
    obtain ⟨text, found, nonempty, unreadable⟩ := Environment.portNumber_eq_error_iff.1 problem
    exact ⟨nothing, text, p, found, nonempty, unreadable, rfl⟩

/-- An environment whose port number cannot be read. -/
def portless : Environment := Table.ofPairs [("API_PORT", "http"), ("API_HOST", "elsewhere")]

/-- Settings that are configured in vain, made for themselves, and configured. -/
def secondAttempt : List Step := [
  .configure portless [("log_level", .text "DEBUG")],
  .make .empty [("api_port", .int 1)],
  .configure (Table.ofPairs [("API_PORT", " 80_80 "), ("API_HOST", "here")])
    [("log_level", .text "ERROR"), ("unknown_setting", .int 1), ("api_host", .text "there")]]

theorem answer_prescribed_twice :
    (∀ st ∈ secondAttempt, st.Ordinary)
      ∧ ∃ c o, (History.of secondAttempt).cache.take (.get portless) = (c, some (.ok o))
        ∧ c.kept = some o
        ∧ o.settings = { Settings.builtIn with
            host := .text "there", portNumber := .int 8080, logLevel := .text "ERROR" }
        ∧ ∃ answer, Prescribed
          ((History.of secondAttempt).sinceReset ++ [⟨.get portless, answer⟩]) o.settings := by
  have ordinary : ∀ st ∈ secondAttempt, st.Ordinary := by decide
  obtain ⟨c, answer, taken, -, answered, -⟩ :=
    @answer_prescribed secondAttempt ordinary (.get portless) portless rfl nofun
  have value : ((History.of secondAttempt).cache.take (.get portless)).2
      = some (.ok ⟨1, { Settings.builtIn with
          host := .text "there", portNumber := .int 8080, logLevel := .text "ERROR" }⟩) := rfl
  rw [taken] at value
  obtain rfl := Option.some.inj value
  obtain ⟨kept, prescribed⟩ := answered _ rfl
  exact ⟨ordinary, c, _, taken, kept, rfl, _, prescribed⟩

end SettingsCache
end RoamTuning
