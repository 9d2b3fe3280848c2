import DrawStyle.Text.Lines

/-!
What can be wrong with a regular expression, and how it is shown.

A fault marks a stretch of the expression, and sometimes an earlier one with which it collides.
The report repeats the expression and underlines what is marked. An expression of several lines
is framed, its lines are numbered, and a stretch that goes on over a line end is told by numbers.
-/

namespace DrawStyle

inductive ExpressionCause where
  | anchorInSet
  | setRangeReversed
  | setRangeNoCharacter
  | setUnclosed
  | hexEmpty
  | hexNoCharacter
  | hexInvalidDigit
  | escapeUnfinished
  | escapeUnknown
  | flagNegationUnused
  | flagTwice
  | flagNegatedTwice
  | flagUnfinished
  | flagUnknown
  | groupNameTwice
  | groupNameEmpty
  | groupNameInvalid
  | groupNameUnfinished
  | groupUnclosed
  | groupUnopened
  | repetitionReversed
  | repetitionNoNumber
  | repetitionNumberTooBig
  | repetitionUnclosed
  | repetitionOfNothing
  | wordEdgeUnclosed
  | wordEdgeUnknown
  | wordEdgeUnfinished
  | propertyInvalid
  | propertyUnknown
  | propertyValueUnknown
  | tooDeep
  | backReference
  | lookAround
  | unicodeNotAllowed
  | noText
deriving DecidableEq, Repr

def maxDepth : Nat := 250

def ExpressionCause.message : ExpressionCause → Text
  | anchorInSet => "invalid escape sequence found in character class".toList
  | setRangeReversed => "invalid character class range, the start must be <= the end".toList
  | setRangeNoCharacter => "invalid range boundary, must be a literal".toList
  | setUnclosed => "unclosed character class".toList
  | hexEmpty => "hexadecimal literal empty".toList
  | hexNoCharacter => "hexadecimal literal is not a Unicode scalar value".toList
  | hexInvalidDigit => "invalid hexadecimal digit".toList
  | escapeUnfinished =>
    "incomplete escape sequence, reached end of pattern prematurely".toList
  | escapeUnknown => "unrecognized escape sequence".toList
  | flagNegationUnused => "dangling flag negation operator".toList
  | flagTwice => "duplicate flag".toList
  | flagNegatedTwice => "flag negation operator repeated".toList
  | flagUnfinished => "expected flag but got end of regex".toList
  | flagUnknown => "unrecognized flag".toList
  | groupNameTwice => "duplicate capture group name".toList
  | groupNameEmpty => "empty capture group name".toList
  | groupNameInvalid => "invalid capture group character".toList
  | groupNameUnfinished => "unclosed capture group name".toList
  | groupUnclosed => "unclosed group".toList
  | groupUnopened => "unopened group".toList
  | repetitionReversed =>
    "invalid repetition count range, the start must be <= the end".toList
  | repetitionNoNumber => "repetition quantifier expects a valid decimal".toList
  | repetitionNumberTooBig => "decimal literal invalid".toList
  | repetitionUnclosed => "unclosed counted repetition".toList
  | repetitionOfNothing => "repetition operator missing expression".toList
  | wordEdgeUnclosed => ("special word boundary assertion is either unclosed or contains an " ++
      "invalid character").toList
  | wordEdgeUnknown => ("unrecognized special word boundary assertion, valid choices are: " ++
      "start, end, start-half or end-half").toList
  | wordEdgeUnfinished => ("found either the beginning of a special word boundary or a bounded " ++
      "repetition on a \\b with an opening brace, but no closing brace").toList
  | propertyInvalid => "invalid Unicode character class".toList
  | propertyUnknown => "Unicode property not found".toList
  | propertyValueUnknown => "Unicode property value not found".toList
  | tooDeep => "exceed the maximum number of nested parentheses/brackets (".toList ++
      Nat.toDigits 10 maxDepth ++ [')']
  | backReference => "backreferences are not supported".toList
  | lookAround => "look-around, including look-ahead and look-behind, is not supported".toList
  | unicodeNotAllowed => "Unicode not allowed here".toList
  | noText => "pattern can match invalid UTF-8".toList

/-- A part of an expression, by the number of characters before it and up to its end. -/
structure Stretch where
  first : Nat
  past : Nat
deriving DecidableEq, Repr

structure ExpressionFault where
  cause : ExpressionCause
  stretch : Stretch
  earlier : Option Stretch := none
deriving DecidableEq, Repr

/-- A place in a text by its line and column, both counted from zero. -/
structure LineColumn where
  line : Nat
  column : Nat
deriving DecidableEq, Repr

def lineColumn (t : Text) (offset : Nat) : LineColumn :=
  let front := t.take offset
  ⟨front.count '\n', (front.reverse.takeWhile (· ≠ '\n')).length⟩

/-- Marks under the columns of stretches, the first of which comes first; at least one mark
each. `column` columns are done. -/
def underlines (column : Nat) : List Stretch → Text
  | [] => []
  | s :: ss =>
    let size := max 1 (s.past - s.first)
    List.replicate (s.first - column) ' ' ++ List.replicate size '^' ++
      underlines (max column s.first + size) ss

namespace ExpressionFault

def stretches (fault : ExpressionFault) : List Stretch :=
  fault.earlier.toList ++ [fault.stretch]

def columnsIn (fault : ExpressionFault) (t : Text) (line : Nat) : List Stretch :=
  fault.stretches.filterMap fun s =>
    let first := lineColumn t s.first
    let past := lineColumn t s.past
    if first.line = line ∧ past.line = line then some ⟨first.column, past.column⟩ else none

/-- A line of an expression behind a margin, with the marks under it. -/
def shownLine (fault : ExpressionFault) (t : Text) (margin : Text) (line : Nat)
    (content : Text) : Text :=
  let columns := fault.columnsIn t line
  margin ++ content ++ ['\n'] ++
    if columns = [] then []
    else List.replicate margin.length ' ' ++ underlines 0 columns ++ ['\n']

def acrossLines (fault : ExpressionFault) (t : Text) : List Text :=
  fault.stretches.filterMap fun s =>
    let first := lineColumn t s.first
    let past := lineColumn t s.past
    if first.line = past.line then none
    else some ("on line ".toList ++ Nat.toDigits 10 (first.line + 1) ++ " (column ".toList ++
      Nat.toDigits 10 (first.column + 1) ++ ") through line ".toList ++
      Nat.toDigits 10 (past.line + 1) ++ " (column ".toList ++ Nat.toDigits 10 past.column ++
      [')'])

def report (fault : ExpressionFault) (t : Text) : Text :=
  let content := lines t
  let count := content.length + if t.getLast? = some '\n' then 1 else 0
  let width := (Nat.toDigits 10 count).length
  let margin (line : Nat) : Text :=
    if count ≤ 1 then List.replicate 4 ' '
    else
      let number := Nat.toDigits 10 (line + 1)
      List.replicate (width - number.length) ' ' ++ number ++ ": ".toList
  let shown := content.zipIdx.flatMap fun (line, n) => fault.shownLine t (margin n) n line
  let frame := if t.contains '\n' then List.replicate 79 '~' ++ ['\n'] else []
  let across := if t.contains '\n' ∧ fault.acrossLines t ≠ [] then
      ['\n'].intercalate (fault.acrossLines t) ++ ['\n']
    else []
  "regex parse error:\n".toList ++ frame ++ shown ++ frame ++ across ++ "error: ".toList ++
    fault.cause.message

end ExpressionFault

end DrawStyle
