import TransactionRules.Number.Shortest

/-!
# Written numbers

How a float is written: the digits come from `Decimal.shortest` or `Decimal.rounded`, all other
decisions are a `FloatStyle`. Amounts of money have fixed places (`AmountStyle`). Reading accepts
digits with an optional point and exponent.
-/

namespace TransactionRules

/-- The decisions of a notation for floats, apart from the digits. -/
structure FloatStyle where
  nan : String
  infinity : String
  /-- Decimals `d.ddd * 10 ^ k` with `k` in this half open range have no exponent. -/
  positional : Int × Int
  /-- A positional whole number gets a point and a zero. -/
  pointAfterWhole : Bool
  /-- With an exponent, a mantissa of one digit gets a point and a zero. -/
  pointBeforeExponent : Bool
  /-- The number of digits, if it is not the shortest that reads back. -/
  precision : Option Nat
  /-- A zero keeps its sign. -/
  signedZero : Bool
deriving Repr

namespace FloatStyle

/-- A float inside a text: the shortest digits, positional from 0.0001 to below 10 ^ 16. -/
def display : FloatStyle := ⟨"nan", "inf", (-4, 16), true, false, none, true⟩

/-- The same, a whole number without a point. -/
def bare : FloatStyle := { display with pointAfterWhole := false }

/-- A float in a JSON text. -/
def json : FloatStyle := ⟨"NaN", "Infinity", (-4, 16), true, false, none, true⟩

/-- A float that a text column of the store keeps: fifteen digits. -/
def column : FloatStyle := ⟨"", "Inf", (-4, 15), true, true, some 15, false⟩

/-- The exponent with its sign and at least two digits. -/
def exponentText (k : Int) : String :=
  let digits := Nat.repr k.natAbs
  (if k < 0 then "e-" else "e+") ++ (if digits.length < 2 then "0" ++ digits else digits)

/-- What stands behind the digits of a whole number. -/
def wholeEnd (style : FloatStyle) : String := if style.pointAfterWhole then ".0" else ""

/-- Digits of a positive decimal; `point` digits stand before the point. -/
def positionalText (style : FloatStyle) (digits : String) (point : Int) : String :=
  let zeros (n : Int) : String := String.ofList (List.replicate n.toNat '0')
  if point ≤ 0 then "0." ++ zeros (-point) ++ digits
  else if (digits.length : Int) ≤ point then digits ++ zeros (point - digits.length) ++ wholeEnd style
  else (digits.take point.toNat).toString ++ "." ++ (digits.drop point.toNat).toString

def decimalText (style : FloatStyle) (d : Decimal) : String :=
  let digits := Nat.repr d.digits
  let k : Int := d.exponent + digits.length - 1
  if style.positional.1 ≤ k ∧ k < style.positional.2 then style.positionalText digits (k + 1)
  else
    let fraction := (digits.drop 1).toString
    let fraction := if fraction.isEmpty && style.pointBeforeExponent then "0" else fraction
    (digits.take 1).toString ++ (if fraction.isEmpty then "" else "." ++ fraction) ++ exponentText k

def write (style : FloatStyle) (x : Float) : String :=
  let sign := if Exact.isNegative x then "-" else ""
  match Exact.ofFloat x with
  | .nan => style.nan
  | .infinite _ => sign ++ style.infinity
  | .finite 0 _ => (if style.signedZero then sign else "") ++ "0" ++ style.wholeEnd
  | .finite m e =>
    let d := match style.precision with
      | none => Decimal.shortest m.natAbs e
      | some n => Decimal.rounded m.natAbs e n
    sign ++ style.decimalText d

end FloatStyle

/-- Fixed places, groups of digits, and the sign first. -/
structure AmountStyle where
  places : Nat
  group : Nat
  separator : Char
deriving Repr

namespace AmountStyle

/-- Two places and a comma after every third digit from the point. -/
def money : AmountStyle := ⟨2, 3, ','⟩

/-- The separator is set between groups of digits, counted from the right. -/
def grouped (style : AmountStyle) (digits : List Char) : List Char :=
  (digits.zipIdx.flatMap fun (c, i) =>
    let left := digits.length - i
    if 0 < i ∧ left % style.group = 0 then [style.separator, c] else [c])

/-- `m * 2 ^ e` without its sign, the places rounded half to even. -/
def magnitudeText (style : AmountStyle) (m : Nat) (e : Int) : String :=
  let d := Decimal.roundTo (Decimal.binary m e) (-style.places)
  let unit := Nat.pow 10 style.places
  let whole := (Nat.repr (d.digits / unit)).toList
  let fraction := (Nat.repr (d.digits % unit + unit)).toList.drop 1
  String.ofList (style.grouped whole ++ '.' :: fraction)

def write (style : AmountStyle) (x : Float) : String :=
  let sign := if Exact.isNegative x then "-" else ""
  match Exact.ofFloat x with
  | .nan => "nan"
  | .infinite _ => sign ++ "inf"
  | .finite m e => sign ++ style.magnitudeText m.natAbs e

end AmountStyle

/-- The float nearest to `digits * 10 ^ exponent`. -/
def Decimal.toFloat (negative : Bool) (d : Decimal) : Float :=
  -- outside this range of magnitudes every decimal is an infinity, or a zero
  let top : Int := d.exponent + Decimal.digitCount d.digits
  if d.digits = 0 ∨ top < -400 then Exact.nearestFloat negative 0 1
  else if 400 < top then Exact.infinity negative
  else 
    Exact.nearestFloat negative (d.digits * Nat.pow 10 d.exponent.toNat)
      (Nat.pow 10 (-d.exponent).toNat)

/-- The value of a decimal digit, ASCII only. -/
def digitValue? (c : Char) : Option Nat := if c.isDigit then some (c.toNat - '0'.toNat) else none

/-- The number that ASCII digits spell. -/
def digitsValue (cs : List Char) : Nat := cs.foldl (fun n c => 10 * n + (c.toNat - '0'.toNat)) 0

/-- `digits [. digits] [e [sign] digits]`: the decimal, if all of `cs` is one. A digit stands
before or after the point. -/
def Decimal.ofChars? (cs : List Char) : Option Decimal :=
  let whole := cs.takeWhile Char.isDigit
  let cs := cs.dropWhile Char.isDigit
  let (fraction, cs) := match cs with
    | '.' :: cs => (cs.takeWhile Char.isDigit, cs.dropWhile Char.isDigit)
    | cs => ([], cs)
  let mantissa := digitsValue (whole ++ fraction)
  let places : Int := fraction.length
  if whole.isEmpty && fraction.isEmpty then none
  else match cs with
    | [] => some ⟨mantissa, -places⟩
    | c :: cs =>
      if c != 'e' && c != 'E' then none
      else
        let (sign, cs) : Int × List Char := match cs with
          | '+' :: cs => (1, cs)
          | '-' :: cs => (-1, cs)
          | cs => (1, cs)
        if cs.isEmpty || !cs.all Char.isDigit then none
        else some ⟨mantissa, sign * digitsValue cs - places⟩

end TransactionRules
