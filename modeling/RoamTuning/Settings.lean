import RoamTuning.Attribute
import RoamTuning.Defaults.Source
import RoamTuning.Store
import RoamTuning.Value

/-!
# Settings of the process

Settings are given by their names or have defaults, and the variables of the
environment count more than either. One settings object is kept and shared:
it is read from the environment when it is first asked for, may be configured,
and may be dropped so that it is read again.

Results:

* `get_of_cached`: what is kept is not read again.
* `assignAll_of_ordinary`: ordinary names can always be given values.
-/

namespace RoamTuning

/-- The settings. -/
inductive Setting where
  | override
  | weightsSupported
  | host
  | portNumber
  | logLevel
  | logFormat
deriving DecidableEq, Repr

namespace Setting

/-- The settings in the order in which they are declared. -/
def all : List Setting := [override, weightsSupported, host, portNumber, logLevel, logFormat]

def name : Setting → String
  | override => "score_params_override"
  | weightsSupported => "frequency_weights_supported"
  | host => "api_host"
  | portNumber => "api_port"
  | logLevel => "log_level"
  | logFormat => "log_format"

/-- The setting of a name. -/
def ofName? (s : String) : Option Setting :=
  all.find? fun k => k.name == s

theorem ofName?_name (k : Setting) : ofName? k.name = some k := by
  cases k <;> decide

end Setting

/-- A value for each setting. Values that are given are kept as they are. Model of
    `Settings`. -/
structure Settings where
  override : Value
  weightsSupported : Value
  host : Value
  portNumber : Value
  logLevel : Value
  logFormat : Value
  /-- A value that stands in the way of the report, if there is one. -/
  obstacle : Option Value

/-- Why settings could not be made. -/
inductive SettingsError where
  /-- No setting has that name. -/
  | unexpected (name : String)
  /-- The name is the one of the settings themselves. -/
  | reserved (name : String)
  /-- A value of that kind stands in the way of the report. -/
  | obstructed (kind : String)
  /-- The text of `API_PORT` in the environment is no integer. -/
  | portNumber (problem : Numeral.Problem)
  /-- A name cannot be given the value. -/
  | refused (e : Attribute.Refusal)
deriving DecidableEq, Repr

/-- What is said of settings that could not be made. -/
def SettingsError.message : SettingsError → String
  | unexpected name => "Settings.__init__() got an unexpected keyword argument '" ++ name ++ "'"
  | reserved name => "Settings.__init__() got multiple values for argument '" ++ name ++ "'"
  | obstructed kind => "'" ++ kind ++ "' object is not callable"
  | portNumber p => p.message
  | refused e => e.message

namespace Settings

/-- The name of the settings themselves. -/
def selfName : String := "self"

/-- The name of the report. A value of that name stands in its way. -/
def reportName : String := "to_dict"

/-- The settings that nobody has given. -/
def builtIn : Settings where
  override := .text ""
  weightsSupported := .bool false
  host := .text "0.0.0.0"
  portNumber := .int 8000
  logLevel := .text "INFO"
  logFormat := .text "%(asctime)s - %(name)s - %(levelname)s - %(message)s"
  obstacle := none

def get (s : Settings) : Setting → Value
  | .override => s.override
  | .weightsSupported => s.weightsSupported
  | .host => s.host
  | .portNumber => s.portNumber
  | .logLevel => s.logLevel
  | .logFormat => s.logFormat

def set (s : Settings) (k : Setting) (v : Value) : Settings :=
  match k with
  | .override => { s with override := v }
  | .weightsSupported => { s with weightsSupported := v }
  | .host => { s with host := v }
  | .portNumber => { s with portNumber := v }
  | .logLevel => { s with logLevel := v }
  | .logFormat => { s with logFormat := v }

theorem get_set (s : Settings) (k j : Setting) (v : Value) :
    (s.set k v).get j = if j = k then v else s.get j := by
  cases k <;> cases j <;> rfl

/-- The settings that are reported: all but the format of the log. Model of `to_dict`. -/
def report (s : Settings) : Except SettingsError (List (String × Value)) :=
  match s.obstacle with
  | none => .ok ((Setting.all.filter (· ≠ .logFormat)).map fun k => (k.name, s.get k))
  | some v => .error (.obstructed v.kindName)

/-- Gives a setting a value by its name. A name that is no setting is passed
    over. -/
def put (s : Settings) (name : String) (v : Value) : Settings :=
  match Setting.ofName? name with
  | some k => s.set k v
  | none => if name = reportName then { s with obstacle := some v } else s

/-- Gives settings values by name. -/
def configured (s : Settings) (given : List (String × Value)) : Settings :=
  given.foldl (fun s g => s.put g.1 g.2) s

/-- The kind of object that settings are. -/
def objectName : String := "Settings"

/-- Gives a name of finished settings a value. -/
def assign (s : Settings) (name : String) (v : Value) : Except Attribute.Refusal Settings :=
  match Attribute.effect objectName name v with
  | .ordinary => .ok (s.put name v)
  | .replaced ms => .ok (builtIn.configured ms)
  | .refused e => .error e

/-- Gives names of finished settings values, one after the other, up to the first
    that cannot be given one. -/
def assignAll (s : Settings) : List (String × Value) → Settings × Except Attribute.Refusal Unit
  | [] => (s, .ok ())
  | g :: r =>
    match s.assign g.1 g.2 with
    | .ok s' => s'.assignAll r
    | .error e => (s, .error e)

theorem assignAll_of_ordinary {given : List (String × Value)}
    (h : ∀ g ∈ given,
      g.1 ∉ [Attribute.className, Attribute.membersName, Attribute.referencesName])
    (s : Settings) : s.assignAll given = (s.configured given, .ok ()) := by
  induction given generalizing s with
  | nil => rfl
  | cons g r ih =>
    have first : s.assign g.1 g.2 = .ok (s.put g.1 g.2) := by
      simp [assign, Attribute.effect_of_other (h g (by simp))]
    simp only [assignAll, first]
    rw [ih (fun e he => h e (by simp [he]))]
    rfl

/-! ## The environment -/

/-- A text setting, taken from its variable if there is one. -/
def textFrom (env : Environment) (variableName : String) (given : Value) : Value :=
  match env.get? variableName with
  | some text => .text text
  | none => given

/-- A switch, taken from its variable if that is not empty. Model of `_env_flag`. -/
def switchFrom (env : Environment) (variableName : String) (given : Value) : Value :=
  match env.filled? variableName with
  | some text => .bool (onWords.contains (switchWord text))
  | none => given

/-- An integer setting, taken from its variable if that is not empty. -/
def integerFrom (env : Environment) (variableName : String) (given : Value) :
    Except Numeral.Problem Value :=
  match env.filled? variableName with
  | some text => (Numeral.readAny text).map .int
  | none => .ok given

/-- The settings with the variables of an environment laid over them. Model of
    `__post_init__`. -/
def overlaid (s : Settings) (env : Environment) : Except SettingsError Settings := do
  let portNumber ← (integerFrom env "API_PORT" s.portNumber).mapError .portNumber
  return { s with
    override := textFrom env "SCORE_PARAMS_OVERRIDE" s.override
    weightsSupported := switchFrom env "FREQUENCY_WEIGHTS_SUPPORTED" s.weightsSupported
    host := textFrom env "API_HOST" s.host
    logLevel := textFrom env "LOG_LEVEL" s.logLevel
    portNumber }

/-- Why new settings cannot be given a value by a name. -/
def nameError? (name : String) : Option SettingsError :=
  if name = selfName then some (.reserved name)
  else if (Setting.ofName? name).isNone then some (.unexpected name)
  else none

/-- New settings: the given ones, with the environment laid over them. -/
def make (env : Environment) (given : List (String × Value)) : Except SettingsError Settings :=
  match given.findSome? fun g => nameError? g.1 with
  | some e => .error e
  | none => (builtIn.configured given).overlaid env

end Settings

/-! ## The shared settings -/

/-- Settings with the number under which they were made. -/
structure SettingsObject where
  serial : Nat
  settings : Settings

/-- How many settings objects were made, and the one that is kept. -/
structure SettingsCache where
  made : Nat
  kept : Option SettingsObject

namespace SettingsCache

/-- Nothing made and nothing kept. -/
def empty : SettingsCache := ⟨0, none⟩

/-- Makes settings that are not kept. -/
def make (c : SettingsCache) (env : Environment) (given : List (String × Value)) :
    SettingsCache × Except SettingsError SettingsObject :=
  match Settings.make env given with
  | .ok s => ({ c with made := c.made + 1 }, .ok ⟨c.made, s⟩)
  | .error e => (c, .error e)

/-- The settings that are kept, or else new ones, which then are kept. Model of
    `get_settings`. -/
def get (c : SettingsCache) (env : Environment) :
    SettingsCache × Except SettingsError SettingsObject :=
  match c.kept with
  | some o => (c, .ok o)
  | none =>
    match Settings.make env [] with
    | .ok s =>
      let o : SettingsObject := ⟨c.made, s⟩
      (⟨c.made + 1, some o⟩, .ok o)
    | .error e => (c, .error e)

/-- Gives the settings that are kept other values. What was given before a value
    that is refused stays. Model of `configure`. -/
def configure (c : SettingsCache) (env : Environment) (given : List (String × Value)) :
    SettingsCache × Except SettingsError SettingsObject :=
  match c.get env with
  | (c', .ok o) =>
    let (settings, result) := o.settings.assignAll given
    let o' := { o with settings }
    ({ c' with kept := some o' }, (result.map fun _ => o').mapError .refused)
  | (c', .error e) => (c', .error e)

/-- Drops what is kept. Model of `reset_settings`. -/
def reset (c : SettingsCache) : SettingsCache := { c with kept := none }

theorem get_of_cached {c : SettingsCache} {o : SettingsObject} (h : c.kept = some o)
    (env : Environment) : c.get env = (c, .ok o) := by
  simp [get, h]

end SettingsCache

/-! ## Starting a store -/

/-- A store that starts as the settings say: from the defaults of a source, with
    the override of the settings applied. A rejected override is logged and
    leaves the defaults. Model of `create_scoring_params`. -/
def Store.start (settings : Settings) (source : Option Source) : Logged Fault IntStore := do
  let s ← Store.build source settings.weightsSupported.isSet none
  match settings.override with
  | .text t =>
    if t.isEmpty then return s
    else
      let (s', answer) := s.update (some t)
      if ← answer then return s'
      else
        Logged.note .warning "Start-up scoring params override rejected, keeping defaults"
        return s'
  | _ => return s

end RoamTuning
