import TransactionRules.Number.Exact

/-!
# Shortest decimals

A finite nonzero float is read back from every decimal in its rounding interval. `shortest` gives
the decimal with the fewest digits in that interval and, of two with equally many, the nearer one.
`rounded` gives the nearest decimal with a stated number of digits, whether it reads back or not.
-/

namespace TransactionRules

/-- The decimal `digits * 10 ^ exponent`. -/
structure Decimal where
  digits : Nat
  exponent : Int
deriving DecidableEq, Repr

namespace Decimal

/-- The number of decimal digits of `n`, at least one. -/
def digitCount (n : Nat) : Nat := (Nat.toDigits 10 n).length

/-- A positive quotient. -/
structure Quotient where
  num : Nat
  den : Nat

namespace Quotient

/-- `num / den * 10 ^ k` -/
def scale (q : Quotient) (k : Int) : Quotient := ⟨q.num * Nat.pow 10 k.toNat, q.den * Nat.pow 10 (-k).toNat⟩

def floor (q : Quotient) : Nat := q.num / q.den

def le (a b : Quotient) : Bool := a.num * b.den ≤ b.num * a.den

def lt (a b : Quotient) : Bool := a.num * b.den < b.num * a.den

/-- The largest `k` with `10 ^ k ≤ num / den`. -/
def magnitude (q : Quotient) : Int :=
  let k : Int := (digitCount q.num : Int) - digitCount q.den
  if (scale ⟨1, 1⟩ k).le q then k else k - 1

end Quotient

/-- The quotient that `m * 2 ^ e` is. -/
def binary (m : Nat) (e : Int) : Quotient := ⟨m <<< e.toNat, 1 <<< (-e).toNat⟩

/-- The reals that round to a float: an interval, with its ends if the mantissa is even. -/
structure Interval where
  low : Quotient
  high : Quotient
  closed : Bool

namespace Interval

/-- Below a power of two the floats lie twice as densely, so the interval is shorter there. -/
def ofBinary (m : Nat) (e : Int) : Interval :=
  let dense := m == 1 <<< 52 && -1074 < e
  let low := if dense then binary (4 * m - 1) (e - 2) else binary (2 * m - 1) (e - 1)
  ⟨low, binary (2 * m + 1) (e - 1), m % 2 == 0⟩

def contains (i : Interval) (q : Quotient) : Bool :=
  if i.closed then i.low.le q && q.le i.high else i.low.lt q && q.lt i.high

end Interval

/-- The two neighbours of `q` on the grid of the multiples of `10 ^ s`, the nearer one first. -/
def neighbours (q : Quotient) (s : Int) : List Decimal :=
  let scaled := q.scale (-s)
  let below := scaled.floor
  let rest := 2 * (scaled.num % scaled.den)
  let upFirst := scaled.den < rest || (rest == scaled.den && below % 2 == 1)
  if upFirst then [⟨below + 1, s⟩, ⟨below, s⟩] else [⟨below, s⟩, ⟨below + 1, s⟩]

/-- The nearest multiple of `10 ^ s`, a tie to the even multiple. -/
def roundTo (q : Quotient) (s : Int) : Decimal :=
  let scaled := q.scale (-s)
  ⟨Exact.roundHalfEven scaled.num scaled.den, s⟩

/-- Trailing zeros of the digits moved into the exponent. -/
def normalize : Nat → Decimal → Decimal
  | fuel + 1, ⟨digits, exponent⟩ =>
    if digits ≠ 0 ∧ digits % 10 = 0 then normalize fuel ⟨digits / 10, exponent + 1⟩
    else ⟨digits, exponent⟩
  | 0, d => d

/-- Tries `n` digits, then one more, up to seventeen, which always suffice. -/
def search (q : Quotient) (i : Interval) (top : Int) : Nat → Nat → Option Decimal
  | _, 0 => none
  | n, more + 1 =>
    match (neighbours q (top - n + 1)).find? fun d => i.contains (Quotient.scale ⟨d.digits, 1⟩ d.exponent) with
    | some d => some d
    | none => search q i top (n + 1) more

/-- The shortest decimal that reads back as the positive float `m * 2 ^ e`. -/
def shortest (m : Nat) (e : Int) : Decimal :=
  let q := binary m e
  let top := q.magnitude
  let d := (search q (.ofBinary m e) top 1 17).getD (roundTo q (top - 16))
  normalize (digitCount d.digits) d

/-- The nearest decimal to the positive `m * 2 ^ e` with at most `n` digits. -/
def rounded (m : Nat) (e : Int) (n : Nat) : Decimal :=
  let q := binary m e
  let d := roundTo q (q.magnitude - n + 1)
  normalize (digitCount d.digits) d

end Decimal

end TransactionRules
