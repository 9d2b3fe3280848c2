import DrawStyle.Expression.Fault

/-!
How deep the parts of an expression stand within each other.

For every level below a part of an expression the first stretch on it is kept, in the order of
reading. Where there is one level too many, its stretch is the one that stands too deep.
-/

namespace DrawStyle

/-- The first stretch on each level, from the outside to the inside. -/
abbrev Levels := List Stretch

namespace Levels

def beside : Levels → Levels → Levels
  | [], ms => ms
  | ls, [] => ls
  | l :: ls, _ :: ms => l :: beside ls ms

/-- The levels of a stretch around others; those behind the first level too many do not matter. -/
def under (around : Stretch) (ls : Levels) : Levels := around :: ls.take maxDepth

def tooDeep? (ls : Levels) : Option Stretch := ls[maxDepth]?

end Levels

end DrawStyle
