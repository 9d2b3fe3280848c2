import DrawStyle.Json.Fault
import DrawStyle.Text.Digit

/-!
Numbers of a JSON text.

A number is collected as a significand of at most 64 bits and a power of ten; digits that no
longer fit only count for the power. A number without fraction and exponent that fits into 64
bits is an integer, all others are doubles: the significand as a double, multiplied or divided
by the power. A number that is no finite double is out of range.
-/

namespace DrawStyle.Json

def maxSignificand : Nat := 0xFFFFFFFFFFFFFFFF

def maxExponent : Nat := 0x7FFFFFFF

/-- Appends digits to a significand as long as they fit: the new significand, and the number
of digits that did not fit. -/
def appendDigits (significand : Nat) : Text → Nat × Nat
  | [] => (significand, 0)
  | d :: ds =>
    let next := significand * 10 + digitValue d
    if next ≤ maxSignificand then appendDigits next ds else (significand, ds.length + 1)

def powerOfTen (n : Nat) : Float := Float.ofScientific 1 false n

/-- Divides a double by powers of ten until the exponent is at least -308. -/
def scaleDown (x : Float) (exponent : Int) : Float × Int :=
  if exponent < -308 ∧ x != 0 then scaleDown (x / powerOfTen 308) (exponent + 308)
  else (x, exponent)
termination_by (-exponent).toNat

/-- The double for a significand and a power of ten, if it is finite. -/
def toDouble? (significand : Nat) (exponent : Int) : Option Float :=
  let (x, e) := scaleDown (Float.ofNat significand) exponent
  if e < -308 then some x
  else if e < 0 then some (x / powerOfTen e.natAbs)
  else if e ≤ 308 then
    let y := x * powerOfTen e.toNat
    if y.isInf then none else some y
  else if x == 0 then some x
  else none

/-- Reads the digits of an exponent: its size and what follows, or what follows the first digit
with which it is too large. -/
def readExponentDigits (size : Nat) : Text → Except Text (Nat × Text)
  | [] => .ok (size, [])
  | c :: t =>
    if isDigit c then
      let next := size * 10 + digitValue c
      if next ≤ maxExponent then readExponentDigits next t else .error t
    else .ok (size, c :: t)

def digitFault : Text → Fault
  | [] => .early .value
  | t => .on .invalidNumber t

/-- A number that has a fraction, an exponent or too many digits, with its sign. -/
def toFound (negative : Bool) (significand : Nat) (exponent : Int) (rest : Text) :
    Except Fault (Found × Text) :=
  match toDouble? significand exponent with
  | some x => .ok (.float (if negative then -x else x), rest)
  | none => .error (.before .numberOutOfRange rest)

/-- Splits the sign from an exponent: whether it is negative, and what follows. -/
def exponentSign : Text → Bool × Text
  | '+' :: t => (false, t)
  | '-' :: t => (true, t)
  | t => (false, t)

/-- Reads an exponent behind its letter. One that is too large makes the number zero, or puts
it out of range. -/
def readExponent (negative : Bool) (significand : Nat) (exponent : Int) (t : Text) :
    Except Fault (Found × Text) :=
  let (down, t) := exponentSign t
  match t with
  | [] => .error (.early .value)
  | c :: _ =>
    if !isDigit c then .error (digitFault t)
    else match readExponentDigits 0 t with
      | .ok (size, rest) =>
        toFound negative significand (if down then exponent - size else exponent + size) rest
      | .error rest =>
        if significand ≠ 0 ∧ !down then .error (.before .numberOutOfRange rest)
        else .ok (.float (if negative then -0.0 else 0.0), rest.dropWhile isDigit)

/-- Reads what may follow the digits of a number that is a double. -/
def readScale (negative : Bool) (significand : Nat) (exponent : Int) (t : Text) :
    Except Fault (Found × Text) :=
  match t with
  | 'e' :: t => readExponent negative significand exponent t
  | 'E' :: t => readExponent negative significand exponent t
  | t => toFound negative significand exponent t

def readFraction (negative : Bool) (significand : Nat) (exponent : Int) (t : Text) :
    Except Fault (Found × Text) :=
  let digits := t.takeWhile isDigit
  let rest := t.dropWhile isDigit
  if digits = [] then .error (digitFault rest)
  else
    let (significand, lost) := appendDigits significand digits
    readScale negative significand (exponent - (digits.length - lost : Nat)) rest

/-- The integer for a significand, or the double if no 64 bits hold it. -/
def integerOrDouble (negative : Bool) (significand : Nat) : Found :=
  if !negative then .integer false significand
  else if significand ≠ 0 ∧ significand ≤ 0x8000000000000000 then .integer true significand
  else .float (-Float.ofNat significand)

def readUnsigned (negative : Bool) (t : Text) : Except Fault (Found × Text) :=
  let digits := t.takeWhile isDigit
  let rest := t.dropWhile isDigit
  match digits with
  | [] => .error (digitFault rest)
  | '0' :: _ :: _ => .error (.on .invalidNumber (t.drop 1))
  | _ =>
    let (significand, lost) := appendDigits 0 digits
    match rest with
    | '.' :: rest => readFraction negative significand lost rest
    | rest =>
      if lost = 0 ∧ rest.head? ≠ some 'e' ∧ rest.head? ≠ some 'E' then
        .ok (integerOrDouble negative significand, rest)
      else readScale negative significand lost rest

def readNumber : Text → Except Fault (Found × Text)
  | '-' :: t => readUnsigned true t
  | t => readUnsigned false t

end DrawStyle.Json
