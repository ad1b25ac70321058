import TransactionRules.Number.Notation
import TransactionRules.Text.Case

/-!
# Numbers in texts

Users write numbers with blanks around them, with the decimal digits of any script, and with single
underscores between digits. Fractions may also be infinite, or no number at all.
-/

namespace TransactionRules.NumberText

/-- The ASCII digit that a decimal digit of any script stands for. -/
def plainDigit (c : Char) : Char :=
  match digitZeros.find? fun start => start ≤ c.toNat && c.toNat < start + 10 with
  | some start => Nat.digitChar (c.toNat - start)
  | none => c

/-- A blank around a number; of the separators in ASCII none is one. -/
def isMargin (c : Char) : Bool :=
  if c.toNat < 0x80 then c == ' ' || (0x09 ≤ c.toNat && c.toNat ≤ 0x0d) else isBlank c

/-- The characters without the blanks around them, the digits in ASCII. -/
def trimmed (cs : List Char) : List Char :=
  (((cs.dropWhile isMargin).reverse.dropWhile isMargin).reverse).map plainDigit

/-- The characters without underscores; each of them stands between two digits. -/
def joined : List Char → Option (List Char)
  | [] => some []
  | '_' :: _ => none
  | c :: '_' :: d :: cs =>
    if c.isDigit && d.isDigit then (joined (d :: cs)).map (c :: ·) else none
  | c :: cs => (joined cs).map (c :: ·)

/-- The sign in front of a number; `true` is minus. -/
def signed : List Char → Bool × List Char
  | '-' :: cs => (true, cs)
  | '+' :: cs => (false, cs)
  | cs => (false, cs)

/-- The digits of a whole number with its sign. -/
def wholeDigits? (s : String) : Option (Bool × List Char) := do
  let (negative, digits) := signed (← joined (trimmed s.toList))
  if digits.isEmpty || !digits.all Char.isDigit then none else some (negative, digits)

/-- The number that digits with a sign spell. -/
def wholeOf (negative : Bool) (digits : List Char) : Int :=
  if negative then -digitsValue digits else digitsValue digits

/-- Names of what is no finite number, in any letter case. -/
def special? (negative : Bool) (cs : List Char) : Option Float :=
  match String.ofList (cs.map Char.toLower) with
  | "inf" | "infinity" => some (Exact.infinity negative)
  | "nan" => some (0.0 / 0.0)
  | _ => none

/-- The float that a text spells. -/
def float? (s : String) : Option Float := do
  let (negative, cs) := signed (← joined (trimmed s.toList))
  match special? negative cs with
  | some x => some x
  | none => (Decimal.ofChars? cs).map (Decimal.toFloat negative)

end TransactionRules.NumberText
