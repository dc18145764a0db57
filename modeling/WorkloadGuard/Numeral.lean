import WorkloadGuard.Text

/-!
# Numerals

Which texts write a number. A decimal numeral has a sign if it wants one, digits with at most one
point among or around them, and perhaps an exponent. Its value matters only in so far as it may lie
beyond the largest number of binary64.
-/

namespace WorkloadGuard.Numeral

/-- The digits of a decimal numeral without sign, and the power of ten they are multiplied by. -/
structure Decimal where
  /-- The digits before and behind the point. -/
  digits : List Char
  /-- The exponent that belongs to the last digit. -/
  exponent : Int

def valueOfDigits (digits : List Char) : Nat :=
  digits.foldl (fun n c => 10 * n + (c.toNat - '0'.toNat)) 0

def exponent? : List Char → Option Int
  | [] => some 0
  | e :: cs =>
    if e = 'e' ∨ e = 'E' then
      let (negative, digits) := match cs with
        | '-' :: digits => (true, digits)
        | '+' :: digits => (false, digits)
        | digits => (false, digits)
      if digits.isEmpty ∨ ¬ digits.all Char.isDigit then none
      else
        let size : Int := valueOfDigits digits
        some (if negative then -size else size)
    else none

def decimal? (cs : List Char) : Option Decimal := do
  let (whole, rest) := cs.span Char.isDigit
  let (fraction, rest) := match rest with
    | '.' :: rest => rest.span Char.isDigit
    | rest => ([], rest)
  if whole.isEmpty ∧ fraction.isEmpty then none
  let exponent ← exponent? rest
  return ⟨whole ++ fraction, exponent - fraction.length⟩

/-- Half a step beyond the largest number of binary64; what is not below it counts as infinite. -/
def binary64Bound : Nat :=
  Nat.pow 2 1024 - Nat.pow 2 970

/-- Whether a numeral writes a number of binary64, infinity excluded. -/
def Decimal.isFinite (decimal : Decimal) : Bool :=
  -- numerals of more than 310 places before the point are infinite, which bounds the numbers that
  -- are computed with
  let digits := decimal.digits.dropWhile (· == '0')
  let places : Int := digits.length + decimal.exponent
  digits.isEmpty || places < 309
    || (places ≤ 310
      && (if decimal.exponent < 0 then
          Nat.blt (valueOfDigits digits) (binary64Bound * Nat.pow 10 decimal.exponent.natAbs)
        else Nat.blt (valueOfDigits digits * Nat.pow 10 decimal.exponent.natAbs) binary64Bound))

def dropSign : List Char → List Char
  | '+' :: cs | '-' :: cs => cs
  | cs => cs

/-! ## Other bases -/

/-- The number that digits write in a base of at most sixteen, if there are any and all of them are
digits of the base. -/
def radixValue? (base : Nat) (cs : List Char) : Option Nat :=
  if cs.isEmpty then none
  else
    cs.foldlM
      (fun n c => do
        let digit ← Text.hexDigit? c
        if digit < base then some (n * base + digit) else none) 0

/-- The number that a text without sign writes in base sixteen, eight or two. -/
def prefixed? : List Char → Option Nat
  | '0' :: 'x' :: cs => radixValue? 16 cs
  | '0' :: 'o' :: cs => radixValue? 8 cs
  | '0' :: 'b' :: cs => radixValue? 2 cs
  | _ => none

/-- Whether a text writes a whole number in base sixteen, eight or two that has 128 bits: as an
unsigned number, or behind a minus sign as a signed one. -/
def isPrefixed : List Char → Bool
  | '-' :: cs => (prefixed? cs).any (Nat.ble · (Nat.pow 2 127))
  | '+' :: cs => (prefixed? cs).any (Nat.blt · (Nat.pow 2 128))
  | cs => (prefixed? cs).any (Nat.blt · (Nat.pow 2 128))

end WorkloadGuard.Numeral
