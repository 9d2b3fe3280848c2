import DrawStyle.Text

/-!
The shortest decimal for a binary floating-point number, and how it is written.

A double stands for all reals that round to it. Of the decimals among these the one with the
fewest digits is taken, and of two such the one nearer to the double. All comparisons are made
on natural numbers.
-/

namespace DrawStyle

/-- The positive number `mantissa * 2 ^ exponent` as a double holds it. -/
structure Binary where
  mantissa : Nat
  exponent : Int
deriving DecidableEq, Repr

structure Decimal where
  digits : Nat
  exponent : Int
deriving DecidableEq, Repr

namespace Binary

/-- The bit that a mantissa has in front of the bits that are stored. -/
def leadingBit : Nat := 0x10000000000000

def ofBits (bits : Nat) : Binary :=
  let fraction : Nat := bits % leadingBit
  let field : Nat := bits / leadingBit % 0x800
  if field = 0 then ⟨fraction, -1074⟩ else ⟨leadingBit + fraction, (field : Int) - 1075⟩

/-- Four times the mantissa: in units of a quarter of the last place, the double itself. -/
def quarters (x : Binary) : Nat := 4 * x.mantissa

/-- The lower end of the reals that round to a double, in quarters of its last place. Below a
power of two the doubles lie closer. -/
def lower (x : Binary) : Nat :=
  if x.mantissa = leadingBit ∧ x.exponent ≠ -1074 then x.quarters - 1 else x.quarters - 2

/-- The upper end of the reals that round to a double, in quarters of its last place. -/
def upper (x : Binary) : Nat := x.quarters + 2

/-- Factors that make quarters of `x` and units of `10 ^ k` comparable as natural numbers. -/
def factors (x : Binary) (k : Int) : Nat × Nat :=
  let q := x.exponent - 2
  (Nat.pow 2 q.toNat * Nat.pow 10 (-k).toNat, Nat.pow 10 k.toNat * Nat.pow 2 (-q).toNat)

/-- Whether `d * 10 ^ k` rounds to a double; the ends do if the mantissa is even. -/
def readsBack (x : Binary) (k : Int) (d : Nat) : Bool :=
  let (a, b) := x.factors k
  if x.mantissa % 2 = 0 then x.lower * a ≤ d * b && d * b ≤ x.upper * a
  else x.lower * a < d * b && d * b < x.upper * a

/-- The multiple of `10 ^ k` that is nearest to a double among those that round to it; of two
equally near ones the even one. -/
def nearest? (x : Binary) (k : Int) : Option Nat :=
  let (a, b) := x.factors k
  let d := x.quarters * a / b
  match x.readsBack k d, x.readsBack k (d + 1) with
  | true, true =>
    match compare (2 * x.quarters * a) ((2 * d + 1) * b) with
    | .lt => some d
    | .gt => some (d + 1)
    | .eq => some (if d % 2 = 0 then d else d + 1)
  | true, false => some d
  | false, true => some (d + 1)
  | false, false => none

/-- The exponent of the leading decimal digit of a positive double. -/
def leadingExponent (x : Binary) : Int :=
  let num := x.mantissa * Nat.pow 2 x.exponent.toNat
  let den := Nat.pow 2 (-x.exponent).toNat
  if den ≤ num then (Nat.toDigits 10 (num / den)).length - 1
  else
    let places := (Nat.toDigits 10 (den / num)).length - 1
    if den ≤ num * Nat.pow 10 places then -places else -places - 1

def shortest (x : Binary) : Decimal :=
  let e := x.leadingExponent
  let found := (List.range 17).findSome? fun (n : Nat) =>
    (x.nearest? (e - n)).map fun d => Decimal.mk d (e - n)
  found.getD ⟨0, 0⟩

end Binary

namespace Decimal

/-- The digits of a decimal without the zeros at the end. -/
def significant (d : Decimal) : Text :=
  ((Nat.toDigits 10 d.digits).reverse.dropWhile (· == '0')).reverse

def leadingExponent (d : Decimal) : Int := d.exponent + (Nat.toDigits 10 d.digits).length - 1

def exponentText (e : Int) : Text := (if e < 0 then '-' else '+') :: Nat.toDigits 10 e.natAbs

/-- Writes a positive decimal: plainly, with at least one place, if the exponent of the leading
digit is between -5 and 15, else with one digit before the point and an exponent. -/
def text (d : Decimal) : Text :=
  let ds := d.significant
  let e := d.leadingExponent
  if -5 ≤ e ∧ e ≤ 15 then
    if e < 0 then ['0', '.'] ++ List.replicate (-e - 1).toNat '0' ++ ds
    else
      let whole := ds.take (e.toNat + 1)
      let places := ds.drop (e.toNat + 1)
      whole ++ List.replicate (e.toNat + 1 - whole.length) '0' ++ '.' ::
        (if places = [] then ['0'] else places)
  else
    ds.take 1 ++ (if ds.length ≤ 1 then [] else '.' :: ds.drop 1) ++ 'e' :: exponentText e

end Decimal

/-- The text of a finite double, which reads back as the same double. -/
def floatText (x : Float) : Text :=
  let bits := x.toBits.toNat
  let signBit := 0x8000000000000000
  let size := Binary.ofBits (bits % signBit)
  (if signBit ≤ bits then ['-'] else []) ++
    if size.mantissa = 0 then ['0', '.', '0'] else size.shortest.text

end DrawStyle
