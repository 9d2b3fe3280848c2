import DrawStyle.Clean
import DrawStyle.Merge
import DrawStyle.Stylesheet
import DrawStyle.Token.Reference

/-!
Preparing a stylesheet: from its sources to the file that drawings use.

A single run only replaces tokens. A merge run lays the local override over the base, replaces
tokens and cleans the result. Every source is read before the output is written, so the output
is not touched when a source cannot be read.
-/

namespace DrawStyle

/-- The names of the files of a run, and the directory from which they are seen. -/
structure Layout where
  baseDir : Path
  singleInput : Path := "default_DK_RAW.css".toList
  mergeBase : Path := "default_RAW.css".toList
  mergeOverride : Path := "default_DK_RAW.css".toList
  output : Path := "default_DK.css".toList
deriving DecidableEq, Repr

namespace Layout

def path (layout : Layout) (name : Path) : Path := layout.baseDir.join name

def singleInputPath (layout : Layout) : Path := layout.path layout.singleInput

def mergeBasePath (layout : Layout) : Path := layout.path layout.mergeBase

def mergeOverridePath (layout : Layout) : Path := layout.path layout.mergeOverride

def outputPath (layout : Layout) : Path := layout.path layout.output

end Layout

structure Report where
  output : Path
  bytes : Nat
  substitutions : Nat
  /-- The names without a value, sorted, each once. -/
  unresolved : List Text
  /-- The selectors of the override that replaced rules of the base. -/
  overridden : List Text
deriving DecidableEq, Repr

variable {m : Type → Type} [Monad m] [Host m]

/-- Replaces tokens, and notes each name without a value. -/
def resolveNoting (table : TokenTable) (t : Text) : ExceptT RunError m Resolution := do
  let resolution := table.resolution t
  resolution.unresolved.forM fun name =>
    note .debug .resolving
      ("leaving unknown token reference var(".toList ++ name ++ ") in place".toList)
  pure resolution

/-- Lays an override over a base, and notes each selector that is passed over, then each selector
whose rules are replaced. -/
def mergeNoting (base override : Text) : ExceptT RunError m Merged := do
  let merged := merge base override
  ((selectors override).filter fun selector => !Rule.fits selector).forM fun selector =>
    note .debug .parsing ("skipping selector '".toList ++ selector ++ "': ".toList ++
      Automaton.tooLargeMessage)
  merged.replaced.forM fun selector =>
    note .debug .merging ("override replaces .".toList ++ selector)
  pure merged

def wroteNote (path : Path) (counts : Text) : Text :=
  "wrote ".toList ++ path ++ " (".toList ++ counts ++ [')']

def runSingle (layout : Layout) (table : TokenTable) : ExceptT RunError m Report := do
  let source ← readStylesheet layout.singleInputPath
  let resolution ← resolveNoting table source
  writeStylesheet layout.outputPath resolution.text
  note .info .running <| wroteNote layout.outputPath <|
    Nat.toDigits 10 resolution.replaced ++ " substitutions".toList
  pure
    { output := layout.outputPath
      bytes := resolution.text.byteSize
      substitutions := resolution.replaced
      unresolved := resolution.unresolved
      overridden := [] }

/-- Lays the override over the base, replaces tokens and cleans the result. -/
def runMerge (layout : Layout) (table : TokenTable) (cleaner : Cleaner) :
    ExceptT RunError m Report := do
  let base ← readStylesheet layout.mergeBasePath
  let override ← readStylesheet layout.mergeOverridePath
  let merged ← mergeNoting base override
  let resolution ← resolveNoting table merged.text
  let cleaned := cleaner.clean resolution.text
  writeStylesheet layout.outputPath cleaned
  note .info .running <| wroteNote layout.outputPath <|
    Nat.toDigits 10 resolution.replaced ++ " substitutions, ".toList ++
      Nat.toDigits 10 merged.replaced.length ++ " overridden rules".toList
  pure
    { output := layout.outputPath
      bytes := cleaned.byteSize
      substitutions := resolution.replaced
      unresolved := resolution.unresolved
      overridden := merged.replaced }

end DrawStyle
