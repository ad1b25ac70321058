/-!
# Exact values of floating point numbers

A binary floating point number stands for an exact quantity: not a number, an infinity, or an
integer times a power of two. Comparisons and conversions are decided on that quantity, in integer
arithmetic, so an integer of any size compares exactly with a float.
-/

namespace TransactionRules

/-- What a number stands for; `finite m e` is `m * 2 ^ e`. -/
inductive Exact where
  | nan
  | infinite (negative : Bool)
  | finite (mantissa exponent : Int)
deriving DecidableEq, Repr

namespace Exact

/-- The sign bit, the biased exponent and the fraction of a float. -/
def fields (x : Float) : Bool × Nat × Nat :=
  let bits := x.toBits.toNat
  (bits >>> 63 == 1, (bits >>> 52) % 2048, bits % (1 <<< 52))

def ofFloat (x : Float) : Exact :=
  match fields x with
  | (negative, 2047, 0) => .infinite negative
  | (_, 2047, _) => .nan
  | (negative, 0, fraction) => .finite (if negative then -fraction else fraction) (-1074)
  | (negative, exponent, fraction) =>
    let mantissa : Int := ((1 <<< 52) + fraction : Nat)
    .finite (if negative then -mantissa else mantissa) (exponent - 1075)

def ofInt (n : Int) : Exact := .finite n 0

/-- The order of `m * 2 ^ e` and `n * 2 ^ f`: both are brought to the smaller exponent. -/
def compareScaled (m e n f : Int) : Ordering :=
  let least := min e f
  compare (m <<< (e - least).toNat) (n <<< (f - least).toNat)

/-- The order of two quantities; nothing is ordered with `nan`. -/
def order : Exact → Exact → Option Ordering
  | .nan, _ | _, .nan => none
  | .infinite true, .infinite true | .infinite false, .infinite false => some .eq
  | .infinite true, _ | _, .infinite false => some .lt
  | .infinite false, _ | _, .infinite true => some .gt
  | .finite m e, .finite n f => some (compareScaled m e n f)

theorem order_ofInt (m n : Int) : order (ofInt m) (ofInt n) = some (compare m n) := by
  simp [order, ofInt, compareScaled]

/-- The sign of a float, which zero and infinity have too. -/
def isNegative (x : Float) : Bool := (fields x).1

/-- The quotient `num / den` rounded to the nearest integer, a half to the even neighbour. -/
def roundHalfEven (num den : Nat) : Nat :=
  let q := num / den
  let r := num % den
  if 2 * r < den then q else if den < 2 * r then q + 1 else q + q % 2

/-- `m * 2 ^ e` without its fraction. -/
def truncated (m e : Int) : Int := Int.tdiv (m <<< e.toNat) ((1 : Int) <<< (-e).toNat)

/-- The whole number that `m * 2 ^ e` is. -/
def whole? (m e : Int) : Option Int :=
  if (m <<< e.toNat) % ((1 : Int) <<< (-e).toNat) = 0 then some (truncated m e) else none

/-- The number of binary digits of `n`. -/
def bitLength (n : Nat) : Nat := if n = 0 then 0 else Nat.log2 n + 1

/-- The float nearest to `num / den`, a tie to the even mantissa, beyond the range an infinity. -/
def nearestFloat (negative : Bool) (num den : Nat) : Float :=
  let sign : Nat := if negative then 1 <<< 63 else 0
  if num = 0 then Float.ofBits sign.toUInt64
  else
    -- at this exponent the rounded mantissa has 53 digits, or one more
    let least : Int := max (-1074) ((bitLength num : Int) - bitLength den - 53)
    let mantissa (e : Int) : Nat := roundHalfEven (num <<< (-e).toNat) (den <<< e.toNat)
    let e := if 1 <<< 53 < mantissa least then least + 1 else least
    let m := mantissa e
    -- a mantissa of 2 ^ 53 carries into the exponent field by itself
    let bits : Nat := if m < 1 <<< 52 then m else (e + 1075).toNat <<< 52 + (m - 1 <<< 52)
    Float.ofBits (sign + min bits (2047 <<< 52)).toUInt64

/-- An infinity: what a quotient beyond the range of floats is rounded to. -/
def infinity (negative : Bool) : Float := nearestFloat negative (1 <<< 1100) 1

end Exact

end TransactionRules
