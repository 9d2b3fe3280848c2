import DrawStyle.Text

/-!
Paths, as they are written.

A path is cut at its slashes and never simplified as a text: what `.`, `..` and a slash at the
end mean is found out when the path is followed.
-/

namespace DrawStyle

abbrev Path := Text

namespace Path

def isAbsolute (p : Path) : Bool := p.head? == some '/'

def endsInSlash (p : Path) : Bool := p.getLast? == some '/'

/-- A file name seen from a directory. An absolute name stands for itself. -/
def join (base name : Path) : Path :=
  if isAbsolute name then name
  else if base = [] ∨ endsInSlash base then base ++ name
  else base ++ '/' :: name

def parts (p : Path) : List Text := p.splitOn '/'

/-- A list without the members at its end that satisfy `skip`. -/
def dropEnd (skip : Text → Bool) (names : List Text) : List Text :=
  (names.reverse.dropWhile skip).reverse

def target (p : Path) : List Text := dropEnd (· == []) (parts p)

/-- The parts that lead to the directory in which a path names something; parts at its end that
name nothing are left out first. -/
def parent (p : Path) : List Text := (dropEnd (fun n => n == [] || n == ['.']) (parts p)).dropLast

def directory (p : Path) : Path :=
  match parent p with
  | [] => ['.']
  | [[]] => ['/']
  | names => ['/'].intercalate names

end Path

end DrawStyle
