/-!
# Routes of the control interface

Which endpoint a method and a path lead to. A path is matched as a whole, but
for one line feed that may end a fixed path; an item in a path is any text
without a slash. A path with slashes too many at its end is redirected.
-/

namespace RoamTuning.Control

/-- What a path leads to. -/
inductive Resource where
  | root
  | health
  | params
  | thresholds (frequency : String)
  | rssi (band : String)
  | weights
  | weight (frequency : String)
deriving DecidableEq, Repr

/-- What is done with a resource. -/
inductive Method where
  | get
  | put
deriving DecidableEq, Repr

/-- Whether a resource knows a method. -/
def Resource.allows : Resource → Method → Bool
  | root, .get => true
  | health, .get => true
  | params, _ => true
  | thresholds _, .get => true
  | rssi _, .put => true
  | weights, .put => true
  | weight _, .get => true
  | _, _ => false

/-- The method of a name. -/
def Method.ofName? (name : String) : Option Method :=
  if name = "GET" then some get else if name = "PUT" then some put else none

/-- The fixed paths. -/
def fixedPaths : List (String × Resource) :=
  [("/", .root), ("/health", .health), ("/params", .params),
    ("/params/frequency-weights", .weights)]

/-- The paths that end in an item. -/
def itemPaths : List (String × (String → Resource)) :=
  [("/params/thresholds/", .thresholds), ("/params/rssi/", .rssi),
    ("/params/frequency-weights/", .weight)]

/-- The item that follows a stem to the end of a path: not empty, and without a
    slash. -/
def itemAfter? (stem path : List Char) : Option String :=
  if stem.isPrefixOf path then
    let item := path.drop stem.length
    if item.isEmpty || item.contains '/' then none else some (String.ofList item)
  else none

/-- The resource of a path. -/
def resourceOf? (path : List Char) : Option Resource :=
  let fixed := fixedPaths.find? fun f =>
    f.1.toList == path || f.1.toList ++ ['\n'] == path
  match fixed with
  | some f => some f.2
  | none => itemPaths.findSome? fun p => (itemAfter? p.1.toList path).map p.2

/-- A path without the slashes at its end. -/
def withoutSlashes (path : List Char) : List Char :=
  (path.reverse.dropWhile (· == '/')).reverse

/-- Where a path leads once the slashes at its end are put right: a path that
    has some loses them all, and another one gets one. -/
def redirectTarget (path : List Char) : List Char :=
  if path.getLast? = some '/' then withoutSlashes path else path ++ ['/']

/-- What a method and a path lead to. -/
inductive Route where
  | endpoint (resource : Resource) (method : Method)
  | methodNotAllowed
  | redirect
  | notFound
deriving DecidableEq, Repr

/-- The route of a method and a path. -/
def routeOf (method path : String) : Route :=
  let cs := path.toList
  match resourceOf? cs with
  | some r =>
    match Method.ofName? method with
    | some m => if r.allows m then .endpoint r m else .methodNotAllowed
    | none => .methodNotAllowed
  | none => if (resourceOf? (redirectTarget cs)).isSome then .redirect else .notFound

end RoamTuning.Control
