import DrawStyle.Json.Members
import DrawStyle.Token.Table

/-!
Token files: a table written as a JSON object of names and values.

The members are first sorted by their names as written, where of equal names the last one
counts, and then inserted in that order. So the bare spelling of a name, which is sorted behind
the spelling with dashes, wins over it, and the first invalid name in the order is reported.
-/

namespace DrawStyle

inductive TokenFileFault where
  | json (cause : Json.Cause) (position : Json.Position)
  | invalidName (e : InvalidName)
deriving Repr

namespace TokenFileFault

/-- What is said about a fault of a token file; a fault of the text is said with its place. -/
def message : TokenFileFault → Text
  | json cause position =>
    cause.message ++ " at line ".toList ++ Nat.toDigits 10 position.line ++
      " column ".toList ++ Nat.toDigits 10 position.column
  | invalidName e => e.message

/-- The place of a fault; a wrong name has none. -/
def position : TokenFileFault → Json.Position
  | json _ position => position
  | invalidName _ => ⟨0, 0⟩

def category : TokenFileFault → Json.Category
  | json cause _ => cause.category
  | invalidName _ => .data

end TokenFileFault

/-- The members of the object with which a file begins, and what follows the object. -/
def readMemberList (file : Text) : Except Json.Fault (List (Text × Text) × Text) :=
  match Json.skipBlanks file with
  | '\x7b' :: t => Json.readObject t
  | t => .error (Json.valueFault .map t)

/-- The table of some members, in whatever order they are written. -/
def TokenTable.ofMembers (members : List (Text × Text)) : Except InvalidName TokenTable :=
  TokenTable.empty.insertAll (Entries.ofMembers members)

/-- Reads a table from the text of a token file. A wrong name is found before what stands
behind the object. -/
def TokenTable.parse (file : Text) : Except TokenFileFault TokenTable :=
  match readMemberList file with
  | .error fault => .error (.json fault.cause (fault.position file))
  | .ok (members, rest) =>
    match TokenTable.ofMembers members with
    | .error e => .error (.invalidName e)
    | .ok table =>
      match Json.skipBlanks rest with
      | [] => .ok table
      | t => .error (.json .trailingCharacters ((Json.Fault.on .trailingCharacters t).position file))

end DrawStyle
