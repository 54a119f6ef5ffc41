import CuckooFilter.Text.Decimal

/-!
# Options on a command line

An option has a long name and may have a letter. One that takes a value finds it behind an equals
sign, behind its letter, or in the next argument, which must not look like an option itself. Letters
of options that take none may be run together. No option may be given twice, and nothing else may
stand between the options.

Arguments are read from the left and a value as soon as it is met, so of several faults the first one
counts, and a request for help counts unless a fault stands before it.
-/

namespace CuckooFilter.CommandLine

variable {σ : Type}

/-- Why arguments do not make a command. -/
inductive Usage
  /-- Help was asked for. -/
  | help
  /-- The version was asked for. -/
  | version
  /-- The arguments are wrong. -/
  | invalid
  deriving DecidableEq

/-- An option that a command understands; `σ` is what the command is told by its options. -/
structure OptionSpec (σ : Type) where
  name : String
  letter : Option Char := none
  takesValue : Bool := true
  /-- What the option adds, given its value; one without a value is given the empty text. -/
  set : σ → String → Except Usage σ

/-- The option that asks for help. -/
def helpSpec : OptionSpec σ :=
  { name := "help", letter := some 'h', takesValue := false, set := fun _ _ => .error .help }

/-- The option that asks for the version. -/
def versionSpec : OptionSpec σ :=
  { name := "version", letter := some 'V', takesValue := false, set := fun _ _ => .error .version }

/-- What the options read so far have come to, and the names of those options. -/
structure Reading (σ : Type) where
  settings : σ
  given : List String := []

/-- Takes an option with its value. -/
def Reading.take (r : Reading σ) (option : OptionSpec σ) (value : String) :
    Except Usage (Reading σ) :=
  if r.given.contains option.name then .error .invalid
  else (option.set r.settings value).map fun settings => { settings, given := option.name :: r.given }

/-- What an argument says, apart from the others. -/
inductive Argument
  /-- Only operands follow. -/
  | terminator
  | long (name : String) (value : Option String)
  | letters (cs : List Char)
  | operand (text : String)

def Argument.read (argument : String) : Argument :=
  match argument.toList with
  | ['-'] => .operand argument
  | ['-', '-'] => .terminator
  | '-' :: '-' :: cs =>
    let name := String.ofList (cs.takeWhile (· != '='))
    match cs.dropWhile (· != '=') with
    | [] => .long name none
    | _ :: value => .long name (some (String.ofList value))
  | '-' :: cs => .letters cs
  | _ => .operand argument

/-- Takes letters that stand together; the last one may be of an option whose value is still to
come. -/
def Reading.takeLetters (specs : List (OptionSpec σ)) (r : Reading σ) :
    List Char → Except Usage (Reading σ × Option (OptionSpec σ))
  | [] => .ok (r, none)
  | c :: cs =>
    match specs.find? (·.letter == some c) with
    | none => .error .invalid
    | some option =>
      if option.takesValue then
        match cs with
        | [] => .ok (r, some option)
        | '=' :: value => (r.take option (String.ofList value)).map (·, none)
        | value => (r.take option (String.ofList value)).map (·, none)
      else
        match r.take option "" with
        | .error usage => .error usage
        | .ok r => r.takeLetters specs cs

/-- Takes one argument; it may leave an option whose value is still to come. -/
def Reading.takeArgument (specs : List (OptionSpec σ)) (r : Reading σ) (argument : Argument) :
    Except Usage (Reading σ × Option (OptionSpec σ)) :=
  match argument with
  | .terminator | .operand _ => .error .invalid
  | .letters cs => r.takeLetters specs cs
  | .long name value =>
    match specs.find? (·.name == name), value with
    | none, _ => .error .invalid
    | some option, none =>
      if option.takesValue then .ok (r, some option) else (r.take option "").map (·, none)
    | some option, some value =>
      if option.takesValue then (r.take option value).map (·, none) else .error .invalid

/-- Takes arguments; `waiting` is the option whose value comes next. -/
def Reading.takeArguments (specs : List (OptionSpec σ)) :
    (waiting : Option (OptionSpec σ)) → Reading σ → List String → Except Usage (Reading σ)
  | none, r, [] => .ok r
  | some _, _, [] => .error .invalid
  | waiting, r, argument :: arguments =>
    match waiting, Argument.read argument with
    | some option, .operand value =>
      match r.take option value with
      | .error usage => .error usage
      | .ok r => takeArguments specs none r arguments
    | some _, _ => .error .invalid
    | none, .terminator => if arguments.isEmpty then .ok r else .error .invalid
    | none, argument =>
      match r.takeArgument specs argument with
      | .error usage => .error usage
      | .ok (r, waiting) => takeArguments specs waiting r arguments

/-- What a command is told by its arguments, if `settings` is what it takes without any. Every
command can be asked for help. -/
def readOptions (specs : List (OptionSpec σ)) (settings : σ) (arguments : List String) :
    Except Usage σ :=
  (Reading.takeArguments (helpSpec :: specs) none { settings } arguments).map (·.settings)

/-- A path is not empty. -/
def path (value : String) : Except Usage String :=
  if value.isEmpty then .error .invalid else .ok value

/-- A number below `bound`. -/
def number (bound : Nat) (value : String) : Except Usage Nat :=
  match Decimal.parse bound value with
  | .ok n => .ok n
  | .error _ => .error .invalid

/-- A number below `bound` that may have a sign; a minus sign only before zero. -/
def signedNumber (bound : Nat) (value : String) : Except Usage Nat :=
  match value.toList with
  | '-' :: c :: cs =>
    match Decimal.digits 1 0 (c :: cs) with
    | .ok n => .ok n
    | .error _ => .error .invalid
  | _ => number bound value

/-- What has to be given. -/
def required {α : Type} : Option α → Except Usage α
  | none => .error .invalid
  | some a => .ok a

end CuckooFilter.CommandLine
