/-!
# Command lines

Arguments are options with a value each, operands, and requests for help. An option is written with
its letter or its name, and its value follows it, or stands in the same argument. Two dashes end the
options.

What a command line asks for is to check the routes of a file, to match a request against them, or
to build a URL from them.
-/

namespace PathRoute.Cli

/-! ## Arguments -/

/-- An option: its letter and its name. -/
structure OptionKey where
  letter : Char
  name : String
  deriving DecidableEq, Repr

/-- What an argument is when it is looked at alone. -/
inductive Shape where
  | operand (text : String)
  /-- An option with its value. -/
  | valued (name value : String)
  /-- An option whose value is the next argument. -/
  | open (name : String)
  | endOfOptions
  | help
  | unknown
  deriving DecidableEq, Repr

/-- The name of the option that asks for help. Its letter is `h`. -/
def helpName : String := "help"

/-- The shape of an option with a name. -/
def longShape (options : List OptionKey) (body : List Char) : Shape :=
  let name : String := .ofList (body.takeWhile (· != '='))
  let known := options.any (·.name == name)
  match body.dropWhile (· != '=') with
  | [] => if name = helpName then .help else if known then .open name else .unknown
  | _ :: value => if known then .valued name (.ofList value) else .unknown

/-- The shape of an option with a letter. -/
def shortShape (options : List OptionKey) (letter : Char) (value : List Char) : Shape :=
  if letter = 'h' then .help
  else match options.find? (·.letter == letter), value with
    | none, _ => .unknown
    | some o, [] => .open o.name
    | some o, '=' :: value => .valued o.name (.ofList value)
    | some o, value => .valued o.name (.ofList value)

def shape (options : List OptionKey) (arg : String) : Shape :=
  match arg.toList with
  | ['-', '-'] => .endOfOptions
  | '-' :: '-' :: body => longShape options body
  | '-' :: letter :: value => shortShape options letter value
  | _ => .operand arg

/-- Whether an argument can be the value of the option before it. A dash alone can. -/
def isValue (arg : String) : Bool :=
  match arg.toList with
  | '-' :: _ :: _ => false
  | _ => true

/-- One part of a command line. -/
inductive Item where
  | operand (text : String)
  | option (name value : String)
  | help
  /-- An option that is not known or has no value. -/
  | fault
  deriving DecidableEq, Repr

/-- The parts of a command line. Nothing is looked at after a request for help or a fault. -/
def items (options : List OptionKey) : List String → List Item
  | [] => []
  | arg :: rest =>
    match shape options arg with
    | .operand text => .operand text :: items options rest
    | .valued name value => .option name value :: items options rest
    | .endOfOptions => rest.map .operand
    | .help => [.help]
    | .unknown => [.fault]
    | .open name =>
      match rest with
      | [] => [.fault]
      | value :: rest =>
        if isValue value then .option name value :: items options rest else [.fault]

/-! ## Commands -/

inductive Command where
  | check
  | matchRequest (target method : String) (headers : List String) (accept : Option String)
  | buildUrl (action : String) (handler : Option String) (parameters : List String)
  deriving DecidableEq, Repr

/-- A command with the file of the routes. -/
structure Task where
  file : String
  command : Command
  deriving DecidableEq, Repr

/-- Why there is no command: help was asked for, or the command line is wrong. -/
inductive Refusal where
  | help
  | usage
  deriving DecidableEq, Repr

/-- What a command takes. -/
structure Signature where
  /-- Whether it needs an operand. -/
  hasOperand : Bool := false
  /-- The options that may be given once. -/
  single : List OptionKey := []
  /-- The options that may be repeated. -/
  repeated : List OptionKey := []

/-- What arguments have set: an operand, and options with their values. -/
structure Settings where
  operand : Option String := none
  options : List (String × String) := []

namespace Settings

/-- Go on by one part of the command line. -/
def add (sig : Signature) (s : Settings) : Item → Except Refusal Settings
  | .help => .error .help
  | .fault => .error .usage
  | .operand text =>
    if sig.hasOperand && s.operand.isNone then .ok { s with operand := some text }
    else .error .usage
  | .option name value =>
    if sig.repeated.any (·.name == name) || (s.options.lookup name).isNone then
      .ok { s with options := s.options ++ [(name, value)] }
    else .error .usage

/-- What arguments set for a command. -/
def read (sig : Signature) (args : List String) : Except Refusal Settings := do
  let s ← (items (sig.single ++ sig.repeated) args).foldlM (add sig) {}
  if sig.hasOperand && s.operand.isNone then .error .usage else .ok s

/-- The value of an option. -/
def value? (s : Settings) (name : String) : Option String := s.options.lookup name

/-- All values of an option. -/
def values (s : Settings) (name : String) : List String :=
  (s.options.filter (·.1 == name)).map (·.2)

end Settings

def commandNames : List String := ["check", "match", "build", "help"]

def matchSignature : Signature := {
  hasOperand := true
  single := [⟨'m', "method"⟩, ⟨'a', "accept"⟩]
  repeated := [⟨'H', "header"⟩] }

def buildSignature : Signature := {
  hasOperand := true
  single := [⟨'p', "presenter"⟩]
  repeated := [⟨'P', "param"⟩] }

/-- The command with a name and arguments. -/
def readCommand (name : String) (args : List String) : Except Refusal Command :=
  match name with
  | "check" => do
    let _ ← Settings.read {} args
    return .check
  | "match" => do
    let s ← Settings.read matchSignature args
    return .matchRequest (s.operand.getD "") ((s.value? "method").getD "GET") (s.values "header")
      (s.value? "accept")
  | "build" => do
    let s ← Settings.read buildSignature args
    return .buildUrl (s.operand.getD "") (s.value? "presenter") (s.values "param")
  | "help" => .error (if args.all commandNames.contains && args.length ≤ 1 then .help else .usage)
  | _ => .error .usage

def fileKey : OptionKey := ⟨'c', "config"⟩

/-- The file of the routes where none is named. -/
def defaultFile : String := "routes.toml"

/-- The task that arguments describe, where a file may have been named before them. -/
def readTask (file : Option String) : List String → Except Refusal Task
  | [] => .error .usage
  | arg :: rest =>
    if commandNames.contains arg then
      (readCommand arg rest).map (⟨file.getD defaultFile, ·⟩)
    else match shape [fileKey] arg with
      | .help => .error .help
      | .valued _ value =>
        if value = "" ∨ file.isSome then .error .usage else readTask (some value) rest
      | .open _ =>
        match rest with
        | [] => .error .usage
        | value :: rest =>
          if value = "" ∨ file.isSome ∨ isValue value = false then .error .usage
          else readTask (some value) rest
      | _ => .error .usage

end PathRoute.Cli
