import PathRoute.Text.Character

/-!
# What routes report

Counters of matches and of built URLs, notices to observers, and events for a log, each at one of
its levels. Reports are values: who calls a route decides what becomes of them.
-/

namespace PathRoute

/-! ## Levels of a log -/

/-- A level of a log. A filter shows the events at its level and before it. -/
inductive LogLevel where
  | off | error | warn | info | debug | trace
  deriving DecidableEq, Repr

namespace LogLevel

/-- Every level, in the order of their numbers. -/
def all : List LogLevel := [.off, .error, .warn, .info, .debug, .trace]

def name : LogLevel → String
  | .off => "off"
  | .error => "error"
  | .warn => "warn"
  | .info => "info"
  | .debug => "debug"
  | .trace => "trace"

/-- A number in decimal digits, with or without a plus sign, that fits in 64 bits. -/
def number? (text : String) : Option Nat :=
  let digits := match text.toList with
    | '+' :: cs => cs
    | cs => cs
  if digits.isEmpty || !digits.all Char.isDigit then none
  else
    let n := numberOf 10 digits
    if n < 0x10000000000000000 then some n else none

/-- The level of a text: its number, or its name without regard to ASCII case. -/
def ofText? (text : String) : Option LogLevel :=
  ((number? text).bind (all[·]?)) <|> all.find? (·.name == text.toLower)

theorem ofText?_name (l : LogLevel) : ofText? l.name = some l := by
  cases l <;> decide +kernel

/-- The filter for a level given as text. Without a text everything is shown, and a text that is no
level counts as `info`. -/
def filter (text : String) : String :=
  let level := if text = "" then .trace else (ofText? text).getD .info
  "api_route=" ++ level.name

end LogLevel

/-! ## Reports -/

/-- Why a route does not answer a request. -/
inductive Refusal where
  | disabled
  | pathMismatch
  | unsupportedMethod
  /-- A placeholder that every path must fill matched nothing. -/
  | missingParameter (placeholder : String)
  deriving DecidableEq, Repr

def Refusal.label : Refusal → String
  | .disabled => "disabled"
  | .pathMismatch => "path_mismatch"
  | .unsupportedMethod => "unsupported_method"
  | .missingParameter _ => "missing_parameter"

/-- One count, of a route. -/
inductive Count where
  | matched (route : String)
  | refused (route : String) (reason : Refusal)
  | built (route : String)
  | notBuilt (route : String)
  deriving DecidableEq, Repr

namespace Count

/-- The counter that counts it. -/
def name : Count → String
  | .matched _ | .refused .. => "api_route_match_total"
  | .built _ | .notBuilt _ => "api_route_build_total"

def route : Count → String
  | .matched r | .refused r _ | .built r | .notBuilt r => r

def outcome : Count → String
  | .matched _ => "matched"
  | .refused _ reason => reason.label
  | .built _ => "built"
  | .notBuilt _ => "no_match"

end Count

/-- What an observer is told of a match. -/
structure Notice where
  observer : String
  route : String
  method : String
  action : String
  deriving DecidableEq, Repr

/-- An event for a log. -/
inductive Event where
  | compiled (template expression : String)
  | matched (route method action : String)
  | emptyPlaceholder (route placeholder : String)
  | notMatched (route path : String) (reason : Refusal)
  | built (route action url : String)
  | notBuilt (route action : String)
  | noVerb (route action : String)
  deriving DecidableEq, Repr

namespace Event

def level : Event → LogLevel
  | .matched .. | .built .. | .noVerb .. => .debug
  | .compiled .. | .emptyPlaceholder .. | .notMatched .. | .notBuilt .. => .trace

def message : Event → String
  | .compiled .. => "Compiled route template"
  | .matched .. => "Route matched"
  | .emptyPlaceholder .. => "Required placeholder is empty"
  | .notMatched .. => "Route did not match"
  | .built .. => "Built URL"
  | .notBuilt .. => "Route cannot build URL"
  | .noVerb .. => "No verb for action, ignoring"

def fields : Event → List (String × String)
  | .compiled template expression => [("template", template), ("expression", expression)]
  | .matched route method action => [("route", route), ("method", method), ("action", action)]
  | .emptyPlaceholder route placeholder => [("route", route), ("placeholder", placeholder)]
  | .notMatched route path reason =>
    [("route", route), ("path", path), ("reason", reason.label)]
  | .built route action url => [("route", route), ("action", action), ("url", url)]
  | .notBuilt route action => [("route", route), ("action", action)]
  | .noVerb route action => [("route", route), ("action", action)]

end Event

end PathRoute
