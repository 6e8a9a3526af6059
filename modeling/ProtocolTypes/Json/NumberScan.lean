import ProtocolTypes.Json.Input
import ProtocolTypes.Json.SyntaxFault
import ProtocolTypes.Json.Value

/-!
# ProtocolTypes.Json.NumberScan

Reading numbers. The digits of a number are absorbed into a 64-bit significand while they fit,
and the rest only moves the decimal exponent. A number with a point, an exponent or too many
digits is the significand times a power of ten, rounded at each step.
-/

namespace ProtocolTypes
namespace Json

/-- The outcome of reading something at a cursor. -/
abbrev Scan (α : Type) := Except SyntaxFault (α × Cursor)

namespace Cursor

/-- A fault reported at the place itself. -/
def fault {α : Type} (c : Cursor) (cause : SyntaxCause) : Except SyntaxFault α :=
  .error ⟨cause, c.offset⟩

/-- A fault reported one byte on, at the symbol that was looked at. -/
def peekFault {α : Type} (c : Cursor) (cause : SyntaxCause) : Except SyntaxFault α :=
  .error ⟨cause, c.peekOffset⟩

def isDigit (c : Char) : Bool :=
  '0' ≤ c && c ≤ '9'

/-- The run of digits at the cursor. -/
def digits (c : Cursor) : List Nat × Cursor :=
  go c.offset [] c.rest
where
  go (offset : Nat) (acc : List Nat) : List Symbol → List Nat × Cursor
    | .char d :: rest =>
      if isDigit d then go (offset + 1) ((d.toNat - 48) :: acc) rest
      else (acc.reverse, ⟨offset, .char d :: rest⟩)
    | rest => (acc.reverse, ⟨offset, rest⟩)

end Cursor

namespace NumberScan

/-! ## Value of the digits -/

/-- Appends digits to a number as long as the result stays within `limit`; the second part counts
the digits taken. -/
def absorb (limit : Nat) (n : Nat) : List Nat → Nat × Nat
  | [] => (n, 0)
  | d :: ds =>
    if limit < n * 10 + d then (n, 0)
    else
      let (m, taken) := absorb limit (n * 10 + d) ds
      (m, taken + 1)

def significandLimit : Nat := UInt64.size - 1

def exponentLimit : Nat := (1 <<< 31) - 1

/-- The largest power of ten that is one factor. -/
def largestFactor : Nat := 308

def powerOfTen (k : Nat) : Binary64 :=
  Binary64.ofNat (Nat.pow 10 k)

/-- Multiplies by a power of ten, in steps when the power is very small; `none` when the result
is too large. A value that has become zero stays zero, which happens within `fuel` steps. -/
def scale (fuel : Nat) (x : Binary64) (exponent : Int) : Option Binary64 :=
  if exponent.natAbs ≤ largestFactor then
    if 0 ≤ exponent then
      let y := x.mul (powerOfTen exponent.natAbs)
      if y.isFinite then some y else none
    else some (x.div (powerOfTen exponent.natAbs))
  else if x.isZero then some x
  else if 0 ≤ exponent then none
  else
    match fuel with
    | 0 => some x
    | fuel + 1 => scale fuel (x.div (powerOfTen largestFactor)) (exponent + largestFactor)

/-- The signed number `significand * 10 ^ exponent`. -/
def float (negative : Bool) (significand : Nat) (exponent : Int) : Option Binary64 :=
  (scale 4 (Binary64.ofNat significand) exponent).map fun x => if negative then x.neg else x

/-- A whole number is exact when it fits 64 bits, signed if negative; minus zero is not whole. -/
def whole (negative : Bool) (significand : Nat) : JsonNumber :=
  if negative then
    if significand = 0 || 1 <<< 63 < significand then
      .float (Binary64.ofNat significand).neg
    else .integer (-significand)
  else .integer significand

/-! ## Scanning -/

def finish (negative : Bool) (significand : Nat) (exponent : Int) (c : Cursor) :
    Scan JsonNumber :=
  match float negative significand exponent with
  | some x => .ok (.float x, c)
  | none => c.fault .numberOutOfRange

/-- The sign of an exponent, if one is written. -/
def exponentSign (c : Cursor) : Bool × Cursor :=
  match c.next? with
  | some '+' => (false, c.advance)
  | some '-' => (true, c.advance)
  | _ => (false, c)

/-- From after the letter of an exponent. -/
def scanExponent (negative : Bool) (significand : Nat) (exponent : Int) (c : Cursor) :
    Scan JsonNumber :=
  let (down, c) := exponentSign c
  match c.rest with
  | [] => c.fault .endInValue
  | _ :: _ =>
    match c.digits with
    | ([], _) => c.advance.fault .invalidNumber
    | (ds, after) =>
      let (e, taken) := absorb exponentLimit 0 ds
      if taken < ds.length then
        if significand ≠ 0 && !down then
          .error ⟨.numberOutOfRange, c.offset + taken + 1⟩
        else .ok (.float (Binary64.ofSignMagnitude negative 0), after)
      else finish negative significand (if down then exponent - e else exponent + e) after

/-- From after the point. -/
def scanFraction (negative : Bool) (significand : Nat) (exponent : Int) (c : Cursor) :
    Scan JsonNumber :=
  match c.digits with
  | ([], after) => after.peekFault (if after.atEnd then .endInValue else .invalidNumber)
  | (ds, after) =>
    let (s, taken) := absorb significandLimit significand ds
    match after.next? with
    | some 'e' | some 'E' => scanExponent negative s (exponent - taken) after.advance
    | _ => finish negative s (exponent - taken) after

/-- From after the sign. -/
def scan (negative : Bool) (c : Cursor) : Scan JsonNumber :=
  match c.rest with
  | [] => c.fault .endInValue
  | _ :: _ =>
    match c.digits with
    | ([], _) => c.advance.fault .invalidNumber
    | (0 :: _ :: _, _) => c.advance.peekFault .invalidNumber
    | (ds, after) =>
      let (s, taken) := absorb significandLimit 0 ds
      let exponent : Int := (ds.length - taken : Nat)
      match after.next? with
      | some '.' => scanFraction negative s exponent after.advance
      | some 'e' | some 'E' => scanExponent negative s exponent after.advance
      | _ =>
        if exponent = 0 then .ok (whole negative s, after)
        else finish negative s exponent after

/-! ## Skipping

The form is checked and the value is not looked at. -/

def skipExponent (c : Cursor) : Except SyntaxFault Cursor :=
  let (_, c) := exponentSign c
  match c.digits with
  | ([], _) => (if c.atEnd then c else c.advance).fault .invalidNumber
  | (_, after) => .ok after

def skipFraction (c : Cursor) : Except SyntaxFault Cursor :=
  match c.digits with
  | ([], after) => after.peekFault .invalidNumber
  | (_, after) =>
    match after.next? with
    | some 'e' | some 'E' => skipExponent after.advance
    | _ => .ok after

def skip (c : Cursor) : Except SyntaxFault Cursor :=
  match c.digits with
  | ([], _) => (if c.atEnd then c else c.advance).fault .invalidNumber
  | (0 :: _ :: _, _) => c.advance.peekFault .invalidNumber
  | (_, after) =>
    match after.next? with
    | some '.' => skipFraction after.advance
    | some 'e' | some 'E' => skipExponent after.advance
    | _ => .ok after

end NumberScan
end Json
end ProtocolTypes
