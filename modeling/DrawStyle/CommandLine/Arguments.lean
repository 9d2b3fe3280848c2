import DrawStyle.Files.Path

/-!
The arguments of the program.

A command comes first, then its options in any order. Arguments are read from left to right:
the first one that cannot be accepted refuses them all, and the first one that asks for help
wins over all that follow it.
-/

namespace DrawStyle.CommandLine

inductive Command where
  | build
  | merge
deriving DecidableEq, Repr

def Command.name : Command → Text
  | build => "build".toList
  | merge => "merge".toList

structure Options where
  dir : Option Path := none
  tokens : Option Path := none
  keepDuplicates : Bool := false
deriving DecidableEq, Repr

inductive Request where
  | help
  | run (command : Command) (options : Options)
deriving DecidableEq, Repr

inductive Refusal where
  | noCommand
  | unknownCommand (arg : Text)
  | unexpected (arg : Text)
  | repeated (arg : Text)
  | noValue (arg : Text)
  | valueNotTaken (arg : Text)
deriving DecidableEq, Repr

inductive ValueOption where
  | dir
  | tokens
deriving DecidableEq, Repr

inductive Argument where
  | valued (option : ValueOption) (value : Option Text)
  | keepDuplicates
  | help
  | endOfOptions
  | refused (reason : Refusal)
deriving DecidableEq, Repr

/-- Cuts a text at its first equals sign: what stands before and, if there is one, behind it. -/
def splitAtEquals (t : Text) : Text × Option Text :=
  match t.dropWhile (· != '=') with
  | [] => (t, none)
  | _ :: value => (t.takeWhile (· != '='), some value)

/-- The value that is written right behind the letter of an option, perhaps with an equals sign
between. -/
def attached : Text → Option Text
  | [] => none
  | '=' :: value => some value
  | value => some value

/-- An option that is written with two dashes, by what stands behind them. -/
def longOption (command : Command) (arg body : Text) : Argument :=
  let (name, value) := splitAtEquals body
  if name = "dir".toList then .valued .dir value
  else if name = "tokens".toList then .valued .tokens value
  else if name = "help".toList then
    if value = none then .help else .refused (.valueNotTaken arg)
  else if name = "keep-duplicates".toList ∧ command = .merge then
    if value = none then .keepDuplicates else .refused (.valueNotTaken arg)
  else .refused (.unexpected arg)

/-- An option that is written with one dash, by its letter and what stands behind it. -/
def shortOption (arg : Text) (letter : Char) (body : Text) : Argument :=
  if letter = 'd' then .valued .dir (attached body)
  else if letter = 't' then .valued .tokens (attached body)
  else if letter = 'h' then .help
  else .refused (.unexpected arg)

def classify (command : Command) (arg : Text) : Argument :=
  match arg with
  | ['-', '-'] => .endOfOptions
  | '-' :: '-' :: body => longOption command arg body
  | '-' :: letter :: body => shortOption arg letter body
  | _ => .refused (.unexpected arg)

/-- Whether an argument is read as an option and so is no value; a single dash is a value. -/
def looksLikeOption : Text → Bool
  | '-' :: _ :: _ => true
  | _ => false

namespace Options

def value? (options : Options) : ValueOption → Option Path
  | .dir => options.dir
  | .tokens => options.tokens

def withValue (options : Options) (value : Path) : ValueOption → Options
  | .dir => { options with dir := some value }
  | .tokens => { options with tokens := some value }

def give (options : Options) (arg : Text) (option : ValueOption) (value : Text) :
    Except Refusal Options :=
  if value = [] then .error (.noValue arg)
  else if (options.value? option).isSome then .error (.repeated arg)
  else .ok (options.withValue value option)

end Options

def readOptions (command : Command) (options : Options) : List Text → Except Refusal Request
  | [] => .ok (.run command options)
  | arg :: args =>
    match classify command arg with
    | .refused reason => .error reason
    | .help => .ok .help
    | .endOfOptions =>
      match args with
      | [] => .ok (.run command options)
      | extra :: _ => .error (.unexpected extra)
    | .keepDuplicates =>
      if options.keepDuplicates then .error (.repeated arg)
      else readOptions command { options with keepDuplicates := true } args
    | .valued option (some value) =>
      match options.give arg option value with
      | .error reason => .error reason
      | .ok options => readOptions command options args
    | .valued option none =>
      match args with
      | [] => .error (.noValue arg)
      | value :: args =>
        if looksLikeOption value then .error (.noValue arg)
        else match options.give arg option value with
          | .error reason => .error reason
          | .ok options => readOptions command options args

def helpWord : Text := "help".toList

def readHelp : List Text → Except Refusal Request
  | [] => .ok .help
  | [topic] =>
    if topic = Command.build.name ∨ topic = Command.merge.name ∨ topic = helpWord then .ok .help
    else .error (.unknownCommand topic)
  | _ :: topic :: _ => .error (.unknownCommand topic)

def readArguments : List Text → Except Refusal Request
  | [] => .error .noCommand
  | arg :: args =>
    if arg = Command.build.name then readOptions .build {} args
    else if arg = Command.merge.name then readOptions .merge {} args
    else if arg = helpWord then readHelp args
    else if arg = "--help".toList then .ok .help
    else match arg with
      | '-' :: 'h' :: _ => .ok .help
      | '-' :: _ :: _ => .error (.unexpected arg)
      | _ => .error (.unknownCommand arg)

end DrawStyle.CommandLine
