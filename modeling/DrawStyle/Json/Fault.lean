import DrawStyle.Decimal.Shortest
import DrawStyle.Text.Quoted

/-!
What can be wrong with a JSON text, and where.

A fault is found after some part of the text was read; it holds what was not read yet, from
which the line and the column follow.
-/

namespace DrawStyle.Json

inductive Found where
  | null
  | boolean (b : Bool)
  | integer (negative : Bool) (size : Nat)
  | float (x : Float)
  | string (t : Text)
  | sequence
  | map
deriving Repr

inductive Expected where
  | map
  | string
deriving DecidableEq, Repr

inductive Unfinished where
  | value
  | object
  | string
deriving DecidableEq, Repr

inductive Cause where
  | unfinished (what : Unfinished)
  | expectedValue
  | expectedIdentifier
  | keyMustBeString
  | expectedColon
  | expectedCommaOrBrace
  | trailingComma
  | trailingCharacters
  | invalidNumber
  | numberOutOfRange
  | controlCharacter
  | invalidEscape
  | unfinishedSurrogatePair
  | loneSurrogate
  | unexpectedType (found : Found) (expected : Expected)
deriving Repr

/-- The kinds of faults: the text ends too early, it is no JSON text, or its values are not
of the wanted types. -/
inductive Category where
  | early
  | malformed
  | data
deriving DecidableEq, Repr

def Found.text : Found → Text
  | null => "null".toList
  | boolean b => "boolean `".toList ++ (if b then "true" else "false").toList ++ ['`']
  | integer negative size =>
    "integer `".toList ++ (if negative then ['-'] else []) ++ Nat.toDigits 10 size ++ ['`']
  | float x => "floating point `".toList ++ floatText x ++ ['`']
  | string t => "string ".toList ++ t.quoted
  | sequence => "sequence".toList
  | map => "map".toList

def Expected.text : Expected → Text
  | map => "a map".toList
  | string => "a string".toList

def Unfinished.text : Unfinished → Text
  | value => "a value".toList
  | object => "an object".toList
  | string => "a string".toList

namespace Cause

def message : Cause → Text
  | unfinished what => "EOF while parsing ".toList ++ what.text
  | expectedValue => "expected value".toList
  | expectedIdentifier => "expected ident".toList
  | keyMustBeString => "key must be a string".toList
  | expectedColon => "expected `:`".toList
  | expectedCommaOrBrace => "expected `,` or `\x7d`".toList
  | trailingComma => "trailing comma".toList
  | trailingCharacters => "trailing characters".toList
  | invalidNumber => "invalid number".toList
  | numberOutOfRange => "number out of range".toList
  | controlCharacter => "control character (\\u0000-\\u001F) found while parsing a string".toList
  | invalidEscape => "invalid escape".toList
  | unfinishedSurrogatePair => "unexpected end of hex escape".toList
  | loneSurrogate => "lone leading surrogate in hex escape".toList
  | unexpectedType found expected =>
    "invalid type: ".toList ++ found.text ++ ", expected ".toList ++ expected.text

def category : Cause → Category
  | unfinished _ => .early
  | unexpectedType _ _ => .data
  | _ => .malformed

end Cause

/-- A fault, with what was not read yet when it was found, and the number of bytes of that
which belong to the fault. -/
structure Fault where
  cause : Cause
  rest : Text
  extent : Nat
deriving Repr

namespace Fault

def before (cause : Cause) (rest : Text) : Fault := ⟨cause, rest, 0⟩

def on (cause : Cause) (rest : Text) : Fault := ⟨cause, rest, 1⟩

def early (what : Unfinished) : Fault := ⟨.unfinished what, [], 0⟩

end Fault

/-- A place in a file: a line, and the number of bytes of the line before the place. -/
structure Position where
  line : Nat
  column : Nat
deriving DecidableEq, Repr

def Position.after (bytes : List UInt8) : Position :=
  ⟨1 + bytes.count 10, (bytes.reverse.takeWhile (· != 10)).length⟩

def Fault.position (text : Text) (fault : Fault) : Position :=
  let bytes := text.flatMap String.utf8EncodeChar
  .after (bytes.take (bytes.length - fault.rest.byteSize + fault.extent))

end DrawStyle.Json
