import PathRoute.Cli.Command
import PathRoute.Inspect
import PathRoute.Invocation
import PathRoute.Routes

/-!
# Running commands

What a command prints, and the status that it ends with.
-/

namespace PathRoute.Cli

open Quoted

structure Outcome where
  status : Nat := 0
  output : String := ""
  errors : String := ""
  deriving DecidableEq, Repr

namespace Outcome

/-- Print a line. -/
def print (line : String) : Outcome := { output := line ++ "\n" }

/-- Fail with a line for people. -/
def fail (line : String) : Outcome := { status := 1, errors := line ++ "\n" }

end Outcome

/-- The parts of a text before and after the first of a character. -/
def splitOnce? (c : Char) (text : String) : Option (String × String) :=
  match text.toList.dropWhile (· != c) with
  | [] => none
  | _ :: rest => some (.ofList (text.toList.takeWhile (· != c)), .ofList rest)

/-- A name and a value with a colon between them. -/
def readHeader (text : String) : Except String (String × String) :=
  match splitOnce? ':' text with
  | some (name, value) => .ok (trim name, trim value)
  | none => .error s!"invalid header '{text}', expected 'Name: value'"

/-- A name and a value with an equals sign between them. -/
def readParameter (text : String) : Except String (String × String) :=
  match splitOnce? '=' text with
  | some pair => .ok pair
  | none => .error s!"invalid parameter '{text}', expected 'name=value'"

/-- The request that arguments describe. What is accepted is set after the headers. -/
def readRequest (target method : String) (headers : List String) (accept : Option String) :
    Except String Request := do
  let headers ← headers.mapM readHeader
  let r := headers.foldl (fun (r : Request) (name, value) => r.withHeader name value)
    (Request.ofTarget target method)
  return match accept with
    | some value => r.withHeader "Accept" value
    | none => r

/-- The parameters that arguments describe. Of several for one name the last counts. -/
def readParameters (texts : List String) : Except String Parameters := do
  let pairs ← texts.mapM readParameter
  return .ofList (pairs.map fun (name, value) => (name, some value))

/-- A route in lines that each begin with what they tell. -/
def describe (r : Route) : String :=
  let lines := [
    r.path,
    "  handler:    " ++ r.handler.getD "-",
    "  methods:    " ++ ", ".intercalate (r.actions.verbs.map Verb.name),
    "  expression: " ++ r.pattern.expression,
    "  captures:   " ++ bracket (r.pattern.captureOrder.map quoteOption),
    "  required:   " ++ bracket (r.pattern.required.map quote)] ++
    if r.enabled then [] else ["  (disabled)"]
  String.join (lines.map (· ++ "\n"))

/-- An argument that cannot be read. -/
def faultyArgument (message : String) : Outcome := .fail ("Error: " ++ quote message)

/-- Run a command on routes, whose URLs begin with a base. -/
def run (routes : List Route) (base : String) : Command → Outcome
  | .check => { output := String.join (routes.map describe) }
  | .matchRequest target method headers accept =>
    match readRequest target method headers accept with
    | .error message => faultyArgument message
    | .ok q =>
      match (Routes.firstMatch q 0 routes).found with
      | some (_, i) => .print i.toJson
      | none => .fail s!"No route matched {method} {target}"
  | .buildUrl action handler parameters =>
    match readParameters parameters with
    | .error message => faultyArgument message
    | .ok ps =>
      match (Routes.firstBuild handler action ps base 0 routes).found with
      | some (_, url) => .print url
      | none => .fail s!"No route can build action '{action}'"

/-- Run a command on a configuration, if it could be loaded and its routes can be made. -/
def runOn (config : Except Config.Error Config) (command : Command) : Outcome :=
  let built := do
    let c ← config
    let routes ← c.build.mapError .route
    return (c, routes)
  match built with
  | .error e => .fail ("Error: " ++ e.inspect)
  | .ok (c, routes) => run routes c.baseUrl command

/-- How the command line is used. -/
def usage : String :=
  "Usage: api-route [--config FILE] check
       api-route [--config FILE] match [--method METHOD] [--header HEADER]... [--accept TYPE] PATH
       api-route [--config FILE] build [--presenter NAME] [--param NAME=VALUE]... ACTION"

/-- What is answered where there is no command. -/
def refuse : Refusal → Outcome
  | .help => .print usage
  | .usage => { status := 2, errors := usage ++ "\n" }

end PathRoute.Cli
