import DrawStyle.Text

/-!
Why a file cannot be read or written.
-/

namespace DrawStyle

/-- Why the system refuses to read or to write a file, or why its bytes are no text. -/
inductive FileFault where
  | notFound
  | notDirectory
  | isDirectory
  | denied
  | busy
  | notText
deriving DecidableEq, Repr

/-- What is said when the system refuses, with the number of the refusal. -/
def refusal (description : Text) (code : Nat) : Text :=
  description ++ " (os error ".toList ++ Nat.toDigits 10 code ++ [')']

def FileFault.message : FileFault → Text
  | notFound => refusal "No such file or directory".toList 2
  | notDirectory => refusal "Not a directory".toList 20
  | isDirectory => refusal "Is a directory".toList 21
  | denied => refusal "Permission denied".toList 13
  | busy => refusal "Device or resource busy".toList 16
  | notText => "stream did not contain valid UTF-8".toList

end DrawStyle
