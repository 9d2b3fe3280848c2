import DrawStyle.CommandLine.Arguments
import DrawStyle.CommandLine.LogFilter
import DrawStyle.Run
import DrawStyle.Text.Lines

/-!
What the program does with its arguments.

The token file, if one is given, is layered over the built-in table and read before the
stylesheets. Both it and the stylesheets are looked for in the given directory, or else beside
the program, never in the working directory.
-/

namespace DrawStyle.CommandLine

structure Failure where
  doing : Text
  error : RunError
deriving Repr

inductive Outcome where
  | refused (reason : Refusal)
  | helped
  | done
  | failed (failure : Failure)
deriving Repr

def Outcome.code : Outcome → Nat
  | refused _ => 2
  | helped => 0
  | done => 0
  | failed _ => 1

/-- How a failure is reported: what was being done, and then each cause behind the one before. -/
def Failure.report (failure : Failure) : Text :=
  "Error: ".toList ++ failure.doing ++ "\n\nCaused by:".toList ++
    "\n    0: ".toList ++ indentRest 7 failure.error.message ++
    "\n    1: ".toList ++ indentRest 7 failure.error.reason

variable {m : Type → Type} [Monad m] [Host m]

def whileDoing {α : Type} (doing : Text) (run : ExceptT RunError m α) : ExceptT Failure m α :=
  ExceptT.adapt (Failure.mk doing) run

/-- The built-in table with a token file layered over it; each token of the file is noted. -/
def loadTokens (baseDir : Path) : Option Path → ExceptT Failure m TokenTable
  | none => pure .drawingDefaults
  | some file => do
    let path := baseDir.join file
    let custom ← whileDoing ("loading tokens from ".toList ++ path) (loadTable path)
    custom.entries.forM fun (name, value) =>
      ExceptT.lift <| Host.log ⟨.debug, .commanding,
        name ++ ": ".toList ++ value ++ " (from ".toList ++ path ++ [')']⟩
    pure (TokenTable.drawingDefaults.extend custom)

def runCommand (command : Command) (options : Options) (baseDir : Path) :
    ExceptT Failure m Report := do
  let layout : Layout := { baseDir }
  let table ← loadTokens baseDir options.tokens
  whileDoing (command.name ++ " failed in ".toList ++ baseDir) <|
    match command with
    | .build => runSingle layout table
    | .merge => runMerge layout table { dedupeLines := !options.keepDuplicates }

/-- Notes the names that were left without a value. -/
def noteUnresolved (names : List Text) : m Unit :=
  if names = [] then pure ()
  else Host.log ⟨.info, .commanding,
    Nat.toDigits 10 names.length ++ " unknown token(s) left in place: ".toList ++
      ", ".toList.intercalate names⟩

/-- Does what the arguments ask for; `programDir` is the directory in which the program lies. -/
def execute (programDir : Path) (args : List Text) : m Outcome :=
  match readArguments args with
  | .error reason => pure (.refused reason)
  | .ok .help => pure .helped
  | .ok (.run command options) => do
    match ← (runCommand command options (options.dir.getD programDir)).run with
    | .error failure => pure (.failed failure)
    | .ok report => do
      noteUnresolved report.unresolved
      pure .done

/-- What the program writes on standard error when `filter` chooses the messages of its log, and
`faults` are what was wrong with the filter as it was written. -/
def errorOutput (filter : LogFilter) (faults : List FilterFault) (log : List LogEntry)
    (outcome : Outcome) : Text :=
  let failure := match outcome with
    | .failed failure => [failure.report]
    | _ => []
  unlines (faults.map FilterFault.message) ++ (log.filter filter.shows).flatMap entryText ++
    unlines failure

def defaultFilter : LogFilter := .upTo .info

end DrawStyle.CommandLine
