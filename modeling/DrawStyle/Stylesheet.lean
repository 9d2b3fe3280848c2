import DrawStyle.Host
import DrawStyle.Token.File

/-!
Reading and writing stylesheets and token files in a host.
-/

namespace DrawStyle

/-- Why a stylesheet cannot be prepared. References to unknown tokens and rules that are not
closed are no errors. -/
inductive RunError where
  | read (path : Path) (fault : FileFault)
  | write (path : Path) (fault : FileFault)
  | tokenFile (path : Path) (fault : TokenFileFault)
deriving Repr

namespace RunError

def reason : RunError → Text
  | read _ fault => fault.message
  | write _ fault => fault.message
  | tokenFile _ fault => fault.message

def message : RunError → Text
  | read path fault => "failed to read ".toList ++ path ++ ": ".toList ++ fault.message
  | write path fault => "failed to write ".toList ++ path ++ ": ".toList ++ fault.message
  | tokenFile path fault => "invalid token file ".toList ++ path ++ ": ".toList ++ fault.message

end RunError

variable {m : Type → Type} [Monad m] [Host m]

def note (level : Level) (topic : Topic) (message : Text) : ExceptT RunError m Unit :=
  ExceptT.lift (Host.log ⟨level, topic, message⟩)

def readText (path : Path) : ExceptT RunError m Text := do
  match ← ExceptT.lift (Host.read path) with
  | .error fault => throw (.read path fault)
  | .ok bytes =>
    match Text.decode? bytes with
    | none => throw (.read path .notText)
    | some t => pure t

def sizeNote (done : Text) (path : Path) (t : Text) : Text :=
  done ++ ' ' :: path ++ " (".toList ++ Nat.toDigits 10 t.byteSize ++ " bytes)".toList

def readStylesheet (path : Path) : ExceptT RunError m Text := do
  let t ← readText path
  note .debug .reading (sizeNote "read".toList path t)
  pure t

def writeStylesheet (path : Path) (t : Text) : ExceptT RunError m Unit := do
  match ← ExceptT.lift (Host.replace path (Text.encode t)) with
  | .error fault => throw (.write path fault)
  | .ok () => note .debug .writing (sizeNote "wrote".toList path t)

def loadTable (path : Path) : ExceptT RunError m TokenTable := do
  let t ← readText path
  match TokenTable.parse t with
  | .error fault => throw (.tokenFile path fault)
  | .ok table => pure table

end DrawStyle
