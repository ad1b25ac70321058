import TransactionRules.Number.Notation
import TransactionRules.Text.CharacterName

/-!
# Literals of the expression language

Numbers are decimal, with an optional fraction, exponent and imaginary unit, or whole numbers in a
binary, octal or hexadecimal notation; single underscores may separate their digits. Texts and byte
strings may hold escape sequences. What is not well formed has no value.
-/

namespace TransactionRules.Expression

/-- Letters, digits, the underscore and whatever is not ASCII make up words. -/
def isWordChar (c : Char) : Bool := c.isAlphanum || c == '_' || 128 ≤ c.toNat

inductive Number where
  | int (n : Nat)
  | float (x : Float)
  | imaginary (x : Float)
deriving Repr

namespace Number

/-- Digits (of the class `digit`), each underscore between two of them. The first digit has been
read already. -/
def digitTail (digit : Char → Bool) : List Char → Option (List Char × List Char)
  | '_' :: d :: cs =>
    if digit d then (digitTail digit cs).map fun (ds, rest) => (d :: ds, rest) else none
  | '_' :: [] => none
  | c :: cs =>
    if digit c then (digitTail digit cs).map fun (ds, rest) => (c :: ds, rest)
    else some ([], c :: cs)
  | [] => some ([], [])

/-- What may follow a number without a blank: no word, unless it starts like one of the words that
stand between operands. -/
def endsBefore (cs : List Char) : Bool :=
  match cs with
  | [] => true
  | c :: _ => !isWordChar c ||
      ["and", "else", "for", "if", "in", "is", "or", "not"].any fun w => w.toList.isPrefixOf cs

/-- A whole number may not have more decimal digits. -/
def digitLimit : Nat := 4300

/-- A decimal whole number: leading zeros only in zero itself. -/
def ofDigits (ds : List Char) : Option Number :=
  let n := digitsValue ds
  if n = 0 then some (.int 0)
  else if ds.head? = some '0' || digitLimit < ds.length then none
  else some (.int n)

def floatOf (cs : List Char) : Float :=
  ((Decimal.ofChars? cs).map (Decimal.toFloat false)).getD 0

/-- The exponent part, if one starts here. A letter `e` that starts a following word is none. -/
def exponent (cs : List Char) : Option (List Char × List Char) :=
  match cs with
  | e :: cs' =>
    if e != 'e' && e != 'E' then some ([], cs)
    else
      let (sign, digits) : List Char × List Char := match cs' with
        | '+' :: r => (['+'], r)
        | '-' :: r => (['-'], r)
        | r => ([], r)
      match digits with
      | d :: r =>
        if d.isDigit then (digitTail Char.isDigit r).map fun (ds, rest) => (e :: sign ++ d :: ds, rest)
        else if sign.isEmpty && endsBefore cs then some ([], cs) else none
      | [] => if sign.isEmpty && endsBefore cs then some ([], cs) else none
  | [] => some ([], [])

/-- What stands after the whole digits `ds` of a decimal number. -/
def decimalTail (ds cs : List Char) : Option (Number × List Char) := do
  let (fraction, cs) ← match cs with
    | '.' :: d :: r =>
      if d.isDigit then (digitTail Char.isDigit r).map fun (fs, rest) => ('.' :: d :: fs, rest)
      else some (['.'], d :: r)
    | '.' :: [] => some (['.'], [])
    | r => some ([], r)
  let (power, cs) ← exponent cs
  match cs with
  | j :: r =>
    if j == 'j' || j == 'J' then
      if endsBefore r then some (.imaginary (floatOf (ds ++ fraction ++ power)), r) else none
    else if !endsBefore cs then none
    else if fraction.isEmpty && power.isEmpty then (ofDigits ds).map (·, cs)
    else some (.float (floatOf (ds ++ fraction ++ power)), cs)
  | [] =>
    if fraction.isEmpty && power.isEmpty then (ofDigits ds).map (·, [])
    else some (.float (floatOf (ds ++ fraction ++ power)), [])

def isBinary (c : Char) : Bool := c == '0' || c == '1'

def isOctal (c : Char) : Bool := '0' ≤ c && c ≤ '7'

def isHex (c : Char) : Bool := c.isDigit || ('a' ≤ c && c ≤ 'f') || ('A' ≤ c && c ≤ 'F')

def hexDigit (c : Char) : Nat :=
  if c.isDigit then c.toNat - '0'.toNat
  else if 'a' ≤ c then c.toNat - 'a'.toNat + 10
  else c.toNat - 'A'.toNat + 10

/-- The number that digits spell in a base. -/
def ofBase (base : Nat) (ds : List Char) : Nat := ds.foldl (fun n c => base * n + hexDigit c) 0

/-- A whole number in another base, after its mark. -/
def radix (base : Nat) (digit : Char → Bool) (cs : List Char) : Option (Number × List Char) := do
  let cs := match cs with
    | '_' :: r => r
    | r => r
  match cs with
  | d :: r =>
    if !digit d then none
    else
      let (ds, rest) ← digitTail digit r
      let next := rest.head?.getD ' '
      if next.isDigit || !endsBefore rest then none else some (.int (ofBase base (d :: ds)), rest)
  | [] => none

/-- A number at the start of `cs`, which begins with a digit or with a point and a digit. -/
def read (cs : List Char) : Option (Number × List Char) :=
  match cs with
  | '0' :: m :: r =>
    if m == 'x' || m == 'X' then radix 16 isHex r
    else if m == 'o' || m == 'O' then radix 8 isOctal r
    else if m == 'b' || m == 'B' then radix 2 isBinary r
    else do
      let (ds, rest) ← digitTail Char.isDigit (m :: r)
      decimalTail ('0' :: ds) rest
  | '.' :: _ => decimalTail [] cs
  | d :: r => do
    let (ds, rest) ← digitTail Char.isDigit r
    decimalTail (d :: ds) rest
  | [] => none

end Number

/-! ## Escape sequences -/

namespace Escape

/-- The character of a code point. A surrogate code point, which no character has, becomes the
replacement character. -/
def charOf? (n : Nat) : Option Char :=
  if h : n.isValidChar then some (Char.ofNatAux n h)
  else if n < 0x110000 then some '\ufffd'
  else none

/-- Exactly `width` hexadecimal digits. -/
def hex? (width : Nat) (cs : List Char) : Option (Nat × List Char) :=
  let ds := cs.take width
  if ds.length = width && ds.all Number.isHex then some (Number.ofBase 16 ds, cs.drop width) else none

/-- Up to three octal digits. -/
def octal (cs : List Char) : Nat × List Char :=
  let ds := (cs.take 3).takeWhile Number.isOctal
  (Number.ofBase 8 ds, cs.drop ds.length)

/-- The escapes of one letter. -/
def simple? : Char → Option Char
  | '\\' => some '\\'
  | '\'' => some '\''
  | '"' => some '"'
  | 'a' => some '\x07'
  | 'b' => some '\x08'
  | 'f' => some '\x0c'
  | 'n' => some '\n'
  | 'r' => some '\r'
  | 't' => some '\t'
  | 'v' => some '\x0b'
  | _ => none

/-- A character by its name in braces. -/
def named? (cs : List Char) : Option (Char × List Char) :=
  match cs with
  | '\x7b' :: r =>
    match r.dropWhile (· != '\x7d') with
    | _ :: rest => (CharacterName.find? (r.takeWhile (· != '\x7d'))).map (·, rest)
    | [] => none
  | _ => none

/-- What stands after a backslash in a text: the characters it means, and the rest. An unknown
escape means itself, with the backslash. -/
def inText (c : Char) (cs : List Char) : Option (List Char × List Char) :=
  let code (width : Nat) : Option (List Char × List Char) := do
    let (n, rest) ← hex? width cs
    let c ← charOf? n
    some ([c], rest)
  match c with
  | '\n' => some ([], cs)
  | 'x' => code 2
  | 'u' => code 4
  | 'U' => code 8
  | 'N' => (named? cs).map fun (c, rest) => ([c], rest)
  | c =>
    if Number.isOctal c then
      let (n, rest) := octal (c :: cs)
      (charOf? n).map fun c => ([c], rest)
    else match simple? c with
      | some d => some ([d], cs)
      | none => some (['\\', c], cs)

/-- The same in a byte string: characters stand for bytes. -/
def inBytes (c : Char) (cs : List Char) : Option (List Char × List Char) :=
  match c with
  | '\n' => some ([], cs)
  | 'x' => (hex? 2 cs).map fun (n, rest) => ([Char.ofNat n], rest)
  | c =>
    if Number.isOctal c then
      let (n, rest) := octal (c :: cs)
      some ([Char.ofNat (n % 256)], rest)
    else match simple? c with
      | some d => some ([d], cs)
      | none => some (['\\', c], cs)

/-- The text that the characters between the quotes mean. -/
def decode (escape : Char → List Char → Option (List Char × List Char)) :
    List Char → Option (List Char)
  | [] => some []
  | '\\' :: [] => none
  | '\\' :: c :: cs => do
    let (meant, rest) ← escape c cs
    if _h : rest.length ≤ cs.length then return meant ++ (← decode escape rest) else none
  | c :: cs => (decode escape cs).map (c :: ·)
termination_by cs => cs.length
decreasing_by all_goals simp_wf; try omega

end Escape

end TransactionRules.Expression
