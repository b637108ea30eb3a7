import RoamTuning.Table
import RoamTuning.Text.Case
import RoamTuning.Value

/-!
# Environments and sources of platform defaults

The variables of a process are texts, and some words switch something on or
off. A source is asked for named defaults, integers and truth values apart, and
answers with a value or says why it has none. Two sources are provided: one
over a table of values, one over the variables of an environment.
`Source.ofAnswers` gives prepared answers without looking at them.
-/

namespace RoamTuning

open Text

/-! ## Environments -/

/-- The variables of an environment with their values. -/
abbrev Environment := Table String String

/-- The text of a variable; an empty one counts as absent. -/
def Environment.filled? (env : Environment) (name : String) : Option String :=
  (env.get? name).filter fun text => !text.isEmpty

/-- The words that switch something on. -/
def onWords : List String := ["1", "true", "yes", "on"]

/-- The words that switch something off. -/
def offWords : List String := ["0", "false", "no", "off"]

/-- The word that a text writes in any case and between blanks. -/
def switchWord (text : String) : String := lower (trim text)

/-! ## Sources -/

/-- What a source says when it is asked for a default. -/
inductive Answer where
  /-- A value, which need not be of the wanted kind. -/
  | value (v : Value)
  /-- There is no default of that name. -/
  | absent (name : String)
  /-- The default is of the wrong kind. -/
  | wrongKind (message : String)
  /-- The default is of the right kind and makes no sense. -/
  | wrongValue (message : String)
  /-- The source itself does not work. -/
  | broken (message : String)

/-- A source of platform defaults. Model of `DefaultsProvider`. -/
structure Source where
  integer : String → Answer
  truth : String → Answer

namespace Answer

/-- What an answer without a value says. -/
def message : Answer → String
  | value v => v.shown
  | absent name => quoted name
  | wrongKind m => m
  | wrongValue m => m
  | broken m => m

end Answer

namespace Source

/-! ## A table of values -/

/-- A source over a table of values, which have to be of the wanted kind. Model of
    `MappingDefaultsProvider`. -/
def ofValues (values : Table String Value) : Source where
  integer name :=
    match values.get? name with
    | none => .absent name
    | some (.int n) => .value (.int n)
    | some v => .wrongKind ("Resource " ++ name ++ " is not an integer: " ++ v.shown)
  truth name :=
    match values.get? name with
    | none => .absent name
    | some (.bool b) => .value (.bool b)
    | some v => .wrongKind ("Resource " ++ name ++ " is not a boolean: " ++ v.shown)

/-! ## An environment -/

/-- What the name of a variable starts with if nothing else is asked for. -/
def defaultStem : String := "SCORE_DEFAULT_"

/-- The name of the variable that holds a default. -/
def variableName (stem name : String) : String := stem ++ upper name

/-- The text of the variable that holds a default; an empty one counts as absent. Model of
    `_lookup`. -/
def lookup? (env : Environment) (stem name : String) : Option String :=
  env.filled? (variableName stem name)

/-- A source over the variables of an environment. Model of `EnvironmentDefaultsProvider`. -/
def ofEnvironment (env : Environment) (stem : String) : Source where
  integer name :=
    match lookup? env stem name with
    | none => .absent name
    | some text =>
      match Numeral.readAny text with
      | .ok n => .value (.int n)
      | .error p => .wrongValue p.message
  truth name :=
    match lookup? env stem name with
    | none => .absent name
    | some text =>
      let word := switchWord text
      if onWords.contains word then .value (.bool true)
      else if offWords.contains word then .value (.bool false)
      else .wrongValue ("Resource " ++ name ++ " is not a boolean: " ++ quoted word)

/-- Why no name of a variable can start with a value. -/
def notAStem (v : Value) : String :=
  match v with
  | .list _ => "can only concatenate list (not \"str\") to list"
  | v => "unsupported operand type(s) for +: '" ++ v.kindName ++ "' and 'str'"

/-- A source over the variables whose names start with a value. Names start with
    texts only, so with any other value every question has the wrong kind. -/
def ofStem (env : Environment) (stem : Value) : Source :=
  match stem with
  | .text s => ofEnvironment env s
  | v => ⟨fun _ => .wrongKind (notAStem v), fun _ => .wrongKind (notAStem v)⟩

/-! ## Prepared answers -/

/-- A source that gives the same prepared answer to both questions. -/
def ofAnswers (answers : Table String Answer) : Source where
  integer name := (answers.get? name).getD (.absent name)
  truth name := (answers.get? name).getD (.absent name)

end Source

end RoamTuning
