/-!
# ProtocolTypes.Binary64.Basic

The 64-bit binary floating-point format as plain words and natural numbers: a finite word stands
for `significand * 2 ^ exponent`, and every operation rounds an exact ratio once, to the nearest
word, ties to the even significand (`ofRatio`). Nothing here depends on machine floats, so each
result can be computed and reasoned about.
-/

namespace ProtocolTypes

/-- A binary64 word: sign bit, eleven exponent bits, fifty-two fraction bits. -/
structure Binary64 where
  bits : UInt64
deriving DecidableEq, Repr

namespace Binary64

/-! ## Fields of a word -/

def isNegative (x : Binary64) : Bool :=
  decide (1 <<< 63 ≤ x.bits.toNat)

/-- The word without its sign. Magnitudes are ordered as the numbers they stand for. -/
def magnitude (x : Binary64) : Nat :=
  x.bits.toNat % (1 <<< 63)

/-- The magnitude of the infinities; larger magnitudes are not numbers. -/
def infinity : Nat := 2047 <<< 52

def isFinite (x : Binary64) : Bool :=
  decide (x.magnitude < infinity)

def isNaN (x : Binary64) : Bool :=
  decide (infinity < x.magnitude)

def isZero (x : Binary64) : Bool :=
  decide (x.magnitude = 0)

/-- The biased exponent; zero for zeros and subnormal numbers. -/
def exponentField (x : Binary64) : Nat :=
  x.magnitude >>> 52

def fraction (x : Binary64) : Nat :=
  x.magnitude % (1 <<< 52)

/-- The integral significand of a finite word, the hidden bit included. -/
def significand (x : Binary64) : Nat :=
  if x.exponentField = 0 then x.fraction else (1 <<< 52) + x.fraction

/-- A finite word has the absolute value `significand * 2 ^ exponent`. -/
def exponent (x : Binary64) : Int :=
  (max x.exponentField 1 : Nat) - 1075

/-- The absolute value of a finite word is `numerator / denominator`. -/
def numerator (x : Binary64) : Nat :=
  x.significand <<< x.exponent.toNat

def denominator (x : Binary64) : Nat :=
  1 <<< (-x.exponent).toNat

/-! ## Rounding -/

def ofSignMagnitude (negative : Bool) (magnitude : Nat) : Binary64 :=
  ⟨UInt64.ofNat ((if negative then 1 <<< 63 else 0) + magnitude)⟩

/-- The natural number nearest to `num / den`, a tie going to the even one. -/
def roundHalfEven (num den : Nat) : Nat :=
  let q := num / den
  let r := num % den
  if 2 * r < den then q
  else if den < 2 * r then q + 1
  else q + q % 2

/-- The exponent `l` with `2 ^ l ≤ num / den < 2 ^ (l + 1)`, for positive arguments. -/
def ratioLog2 (num den : Nat) : Int :=
  let s : Int := (num.log2 : Int) - den.log2
  if den <<< s.toNat ≤ num <<< (-s).toNat then s else s - 1

/-- The word nearest to `num / den` with the given sign: subnormal below `2 ^ -1022`, infinite
where the rounded magnitude leaves the finite range. -/
def ofRatio (negative : Bool) (num den : Nat) : Binary64 :=
  if num = 0 then ofSignMagnitude negative 0
  else
    let e : Int := max (-1074) (ratioLog2 num den - 52)
    let m := roundHalfEven (num <<< (-e).toNat) (den <<< e.toNat)
    ofSignMagnitude negative (min infinity (((e + 1074).toNat <<< 52) + m))

def ofNat (n : Nat) : Binary64 :=
  ofRatio false n 1

/-- The word nearest to an integer; zero is positive. -/
def ofInt (i : Int) : Binary64 :=
  ofRatio (decide (i < 0)) i.natAbs 1

/-! ## Operations on finite words -/

def neg (x : Binary64) : Binary64 :=
  ofSignMagnitude (!x.isNegative) x.magnitude

def mul (x y : Binary64) : Binary64 :=
  ofRatio (x.isNegative != y.isNegative) (x.numerator * y.numerator)
    (x.denominator * y.denominator)

/-- The quotient by a nonzero word. -/
def div (x y : Binary64) : Binary64 :=
  ofRatio (x.isNegative != y.isNegative) (x.numerator * y.denominator)
    (x.denominator * y.numerator)

/-- The integer part of a finite word, rounded toward zero. -/
def truncate (x : Binary64) : Int :=
  let n : Int := (x.numerator / x.denominator : Nat)
  if x.isNegative then -n else n

/-- The integer part brought into `[lo, hi]`: an infinity gives the bound on its side, and what
is not a number gives zero. -/
def clampTo (lo hi : Int) (x : Binary64) : Int :=
  if x.isNaN then 0
  else if x.isFinite then max lo (min hi x.truncate)
  else if x.isNegative then lo
  else hi

end Binary64

end ProtocolTypes
