import TransactionRules.Number.Reading
import TransactionRules.Value.Basic

/-!
# Whole numbers of values

A flag is kept as a whole number, whatever a caller hands in for it: fractions are cut off, and a
text has to spell a whole number.
-/

namespace TransactionRules

/-- Why a value has no whole number. -/
inductive WholeError where
  | notNumber (kind : ValueKind)
  | nan
  | infinite
  | malformed (text : String)
  | tooManyDigits (count : Nat)
deriving DecidableEq, Repr

namespace WholeError

/-- Longer digit sequences are not read. -/
def digitLimit : Nat := 4300

def message : WholeError → String
  | .notNumber kind =>
    "int() argument must be a string, a bytes-like object or a real number, not " ++
      s!"'{kind.label}'"
  | .nan => "cannot convert float NaN to integer"
  | .infinite => "cannot convert float infinity to integer"
  | .malformed text => s!"invalid literal for int() with base 10: {quoted text}"
  | .tooManyDigits count =>
    s!"Exceeds the limit ({digitLimit} digits) for integer string conversion: value has " ++
      s!"{count} digits; use sys.set_int_max_str_digits() to increase the limit"

end WholeError

/-- The whole number of a value. -/
def Value.whole : Value → Except WholeError Int
  | .bool b => .ok (if b then 1 else 0)
  | .int n => .ok n
  | .float x => match Exact.ofFloat x with
    | .nan => .error .nan
    | .infinite _ => .error .infinite
    | .finite m e => .ok (Exact.truncated m e)
  | .text s => match NumberText.wholeDigits? s with
    | none => .error (.malformed s)
    | some (negative, digits) =>
      if WholeError.digitLimit < digits.length then .error (.tooManyDigits digits.length)
      else .ok (NumberText.wholeOf negative digits)
  | v => .error (.notNumber v.kind)

end TransactionRules
