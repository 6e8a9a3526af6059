import ProtocolTypes.Binary64.Basic

/-!
# ProtocolTypes.Binary64.Decimal

Decimal text of binary64 words. `shortest` finds the decimal with the fewest digits that rounds
back to the word, and of several the nearest one. Two notations print it: `positional` never uses
an exponent, `general` switches to one outside `10 ^ -5 .. 10 ^ 16`.
-/

namespace ProtocolTypes

/-- The decimal number `coefficient * 10 ^ exponent`. -/
structure Decimal where
  coefficient : Nat
  exponent : Int
deriving DecidableEq, Repr

namespace Decimal

def digits (d : Decimal) : List Char :=
  Nat.toDigits 10 d.coefficient

/-- The exponent of the leading digit. -/
def leadingExponent (d : Decimal) : Int :=
  (d.digits.length : Int) + d.exponent - 1

/-- Digits with a point where the value has a fractional part, and no exponent. -/
def positional (d : Decimal) : String :=
  let ds := d.digits
  if 0 ≤ d.exponent then
    String.ofList (ds ++ List.replicate d.exponent.toNat '0')
  else
    let places := (-d.exponent).toNat
    if places < ds.length then
      String.ofList (ds.take (ds.length - places) ++ '.' :: ds.drop (ds.length - places))
    else
      String.ofList ('0' :: '.' :: (List.replicate (places - ds.length) '0' ++ ds))

/-- One digit, a point before the others, and the exponent with its sign. -/
def scientific (d : Decimal) : String :=
  let head := d.digits.take 1
  let tail := d.digits.drop 1
  let body := if tail.isEmpty then head else head ++ '.' :: tail
  let e := d.leadingExponent
  String.ofList body ++ (if 0 ≤ e then "e+" else "e-") ++ toString e.natAbs

end Decimal

namespace Binary64

/-- Which way a value goes that lies halfway between two decimals of equal length. -/
inductive Tie where
  | even
  | up
deriving DecidableEq, Repr

/-- `num / den` lies among the reals that round to `x`. They reach half a unit of the last place
to either side, a quarter below a power of two, ends included when the significand is even. -/
def roundsBack (x : Binary64) (num den : Nat) : Bool :=
  let m := x.significand
  let unitNum : Nat := 1 <<< x.exponent.toNat
  let unitDen : Nat := 1 <<< (-x.exponent).toNat
  let lower := if x.fraction = 0 && 1 < x.exponentField then 4 * m - 1 else 4 * m - 2
  let upper := 4 * m + 2
  let scaled := 4 * num * unitDen
  let low := lower * unitNum * den
  let high := upper * unitNum * den
  if m % 2 = 0 then decide (low ≤ scaled && scaled ≤ high)
  else decide (low < scaled && scaled < high)

/-- The better of the two neighbours of `x` on the grid of multiples of `10 ^ k` that round back
to `x`. -/
def nearestOnGrid (tie : Tie) (x : Binary64) (k : Int) : Option Decimal :=
  let num := x.numerator * Nat.pow 10 (-k).toNat
  let den := x.denominator * Nat.pow 10 k.toNat
  let below := num / den
  let rest := 2 * (num % den)
  let hit (n : Nat) : Bool := x.roundsBack (n * Nat.pow 10 k.toNat) (Nat.pow 10 (-k).toNat)
  let upFirst : Bool :=
    decide (den < rest) || (decide (rest = den) && (tie = .up || below % 2 = 1))
  let first := if upFirst then below + 1 else below
  let second := if upFirst then below else below + 1
  if hit first then some ⟨first, k⟩
  else if hit second then some ⟨second, k⟩
  else none

/-- The exponent of the leading decimal digit of a nonzero finite word. -/
def leadingExponent (x : Binary64) : Int :=
  let guess := (x.numerator.log2 : Int) - x.denominator.log2
  let k := guess * 30103 / 100000
  let reaches (k : Int) : Bool :=
    decide (x.denominator * Nat.pow 10 k.toNat ≤ x.numerator * Nat.pow 10 (-k).toNat)
  if reaches (k + 1) then k + 1 else if reaches k then k else k - 1

/-- Without trailing zeros in the coefficient; `fuel` bounds their number. -/
def stripZeros (fuel : Nat) (d : Decimal) : Decimal :=
  match fuel with
  | 0 => d
  | fuel + 1 =>
    if d.coefficient % 10 = 0 && d.coefficient != 0 then
      stripZeros fuel ⟨d.coefficient / 10, d.exponent + 1⟩
    else d

/-- The shortest decimal that rounds back to a nonzero finite word; seventeen digits always do. -/
def shortest (tie : Tie) (x : Binary64) : Decimal :=
  let top := x.leadingExponent
  match (List.range 17).findSome? fun (n : Nat) => nearestOnGrid tie x (top - n) with
  | some d => stripZeros 20 d
  | none => ⟨x.significand, x.exponent⟩

/-- Positional text of a finite word's absolute value, with a point even for whole numbers. -/
def positional (x : Binary64) : String :=
  if x.isZero then "0.0"
  else
    let d := shortest .up x
    if 0 ≤ d.exponent then d.positional ++ ".0" else d.positional

/-- Text of a finite word with its sign: positional from `10 ^ -5` to below `10 ^ 16`, and with an
exponent elsewhere. -/
def general (x : Binary64) : String :=
  let sign := if x.isNegative then "-" else ""
  if x.isZero then sign ++ "0.0"
  else
    let d := shortest .even x
    let e := d.leadingExponent
    if -5 ≤ e && e < 16 then
      sign ++ (if 0 ≤ d.exponent then d.positional ++ ".0" else d.positional)
    else sign ++ d.scientific

end Binary64

end ProtocolTypes
