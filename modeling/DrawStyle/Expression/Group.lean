import DrawStyle.Expression.Cursor
import DrawStyle.Unicode.Addition

/-!
What stands behind an opening parenthesis in an expression: a name, flags, or nothing.
-/

namespace DrawStyle

inductive GroupKind where
  | plain
  | named (name : Text) (stretch : Stretch)
  | flagged (flags : Flags)
  | change (flags : Flags)
deriving Repr

namespace GroupKind

def setFlag (value : Bool) (letter : Char) (flags : Flags) : Flags :=
  if letter = 'i' then { flags with caseless := value }
  else if letter = 'm' then { flags with multiLine := value }
  else if letter = 's' then { flags with dotAll := value }
  else if letter = 'u' then { flags with unicode := value }
  else if letter = 'x' then { flags with spaced := value }
  else if letter = 'R' then { flags with anyLine := value }
  else if letter = 'U' then { flags with markedGreed := value }
  else flags

/-- Flags changed by the letters of a list; those behind a dash are cleared. -/
def setFlags (flags : Flags) (letters : Text) : Flags :=
  (letters.foldl (fun (value, flags) letter =>
    if letter = '-' then (false, flags) else (value, setFlag value letter flags))
    (true, flags)).2

def seenAt? (seen : List (Char × Nat)) (letter : Char) : Option Stretch :=
  (seen.find? fun (d, _) => d == letter).map fun (_, n) => ⟨n, n + 1⟩

/-- Reads the letters of flags, up to a colon or a closing parenthesis; `seen` are those that
were read, the last one first, with the characters before them. -/
def readLetters (seen : List (Char × Nat)) : Text → Nat → Read (Text × Cursor)
  | [], n => refuse .flagUnfinished ⟨n, n⟩
  | c :: t, n =>
    let stretch : Stretch := ⟨n, n + 1⟩
    if c = ':' ∨ c = ')' then
      match seen with
      | ('-', k) :: _ => refuse .flagNegationUnused ⟨k, k + 1⟩
      | _ => .ok ((seen.map Prod.fst).reverse, ⟨c :: t, n⟩)
    else if c ≠ '-' ∧ !"imsUuRx".toList.contains c then refuse .flagUnknown stretch
    else
      match seenAt? seen c with
      | some earlier =>
        .error ⟨if c = '-' then .flagNegatedTwice else .flagTwice, stretch, some earlier⟩
      | none => readLetters ((c, n) :: seen) t (n + 1)

/-- Whether a character may stand in the name of a group: an underscore or a letter, and behind
the first one also a number, a dot or a bracket. -/
def isNameCharacter (first : Bool) (c : Char) : Bool :=
  c == '_' || Unicode.isLatestAlphabetic c ||
    (!first && (Unicode.isLatestNumber c || c == '.' || c == '[' || c == ']'))

/-- Reads the name of a group up to its angle; `name` was read, the last character first. -/
def readName (name : Text) : Text → Nat → Read (Text × Cursor)
  | [], n => refuse .groupNameUnfinished ⟨n, n⟩
  | c :: t, n =>
    if c = '>' then
      if name = [] then refuse .groupNameEmpty ⟨n, n⟩ else .ok (name.reverse, ⟨t, n + 1⟩)
    else if isNameCharacter (name == []) c then readName (c :: name) t (n + 1)
    else refuse .groupNameInvalid ⟨n, n + 1⟩

/-- Reads what stands behind a parenthesis, from the parenthesis on. -/
def read (flags : Flags) (parenthesis : Cursor) : Read (GroupKind × Cursor) :=
  let c := parenthesis.advance flags
  let look := ["?=", "?!", "?<=", "?<!"].findSome? fun front => c.behind? front.toList
  let name := ["?P<", "?<"].findSome? fun front => c.behind? front.toList
  match look, name, c.behind? ['?'] with
  | some c, _, _ => refuse .lookAround (c.since parenthesis.offset)
  | none, some c, _ =>
    match readName [] c.rest c.offset with
    | .error fault => .error fault
    | .ok (name, behind) => .ok (.named name ⟨c.offset, behind.offset - 1⟩, behind)
  | none, none, some inside =>
    if inside.rest = [] then refuse .groupUnclosed parenthesis.ahead
    else
      match readLetters [] inside.rest inside.offset with
      | .error fault => .error fault
      | .ok (letters, stop) =>
        let flags := setFlags flags letters
        if stop.rest.head? = some ':' then .ok (.flagged flags, stop.next)
        else if letters = [] then refuse .repetitionOfNothing c.here
        else .ok (.change flags, stop.next)
  | none, none, none => .ok (.plain, c)

end GroupKind

end DrawStyle
