import TransactionRules.Value.Basic

/-!
# Reading JSON

A JSON text is read from left to right; the first place where it is not well formed is reported with
its line and column. Numbers with a fraction or an exponent are floats, all others whole numbers of
any size, and the names of the infinities and of the number that is none are read as well. Of entries
with one key the last one counts.
-/

namespace TransactionRules.Json

inductive Problem where
  | byteOrderMark
  | expectedValue
  | expectedName
  | expectedColon
  | expectedComma
  | unterminatedText
  | controlCharacter
  | badEscape
  | badUnicodeEscape
  | extraData
deriving DecidableEq, Repr

def Problem.message : Problem → String
  | .byteOrderMark => "Unexpected UTF-8 BOM (decode using utf-8-sig)"
  | .expectedValue => "Expecting value"
  | .expectedName => "Expecting property name enclosed in double quotes"
  | .expectedColon => "Expecting ':' delimiter"
  | .expectedComma => "Expecting ',' delimiter"
  | .unterminatedText => "Unterminated string starting at"
  | .controlCharacter => "Invalid control character at"
  | .badEscape => "Invalid \\escape"
  | .badUnicodeEscape => "Invalid \\uXXXX escape"
  | .extraData => "Extra data"

inductive Error where
  /-- The text is not well formed before the characters `rest`. -/
  | malformed (problem : Problem) (rest : List Char)
  | tooManyDigits (count : Nat)
deriving DecidableEq, Repr

def isSpace (c : Char) : Bool := c == ' ' || c == '\t' || c == '\n' || c == '\r'

def skip (cs : List Char) : List Char := cs.dropWhile isSpace

def hexValue? (c : Char) : Option Nat :=
  if c.isDigit then some (c.toNat - '0'.toNat)
  else if 'a' ≤ c && c ≤ 'f' then some (c.toNat - 'a'.toNat + 10)
  else if 'A' ≤ c && c ≤ 'F' then some (c.toNat - 'A'.toNat + 10)
  else none

/-- The code unit that four hexadecimal digits spell. -/
def codeUnit? : List Char → Option (Nat × List Char)
  | a :: b :: c :: d :: cs => do
    return (((← hexValue? a) * 16 + (← hexValue? b)) * 256 + (← hexValue? c) * 16 + (← hexValue? d), cs)
  | _ => none

/-- The character of a code unit; a surrogate without its partner becomes the replacement character. -/
def charOf (n : Nat) : Char := if h : n.isValidChar then Char.ofNatAux n h else '\ufffd'

/-- A second code unit that makes one character with `high`. -/
def partner? (high : Nat) : List Char → Option (Char × List Char)
  | '\\' :: 'u' :: cs => do
    let (low, rest) ← codeUnit? cs
    if 0xdc00 ≤ low && low < 0xe000 && !rest.isEmpty then
      return (charOf (0x10000 + (high - 0xd800) * 0x400 + (low - 0xdc00)), rest)
    else none
  | _ => none

def simpleEscape? : Char → Option Char
  | '"' => some '"'
  | '\\' => some '\\'
  | '/' => some '/'
  | 'b' => some '\x08'
  | 'f' => some '\x0c'
  | 'n' => some '\n'
  | 'r' => some '\r'
  | 't' => some '\t'
  | _ => none

/-- The text after an opening quote, which stands before `opening`. `done` is reversed. -/
def text (opening : List Char) : Nat → List Char → List Char → Except Error (String × List Char)
  | 0, _, _ => .error (.malformed .unterminatedText opening)
  | fuel + 1, done, cs =>
    match cs with
    | [] => .error (.malformed .unterminatedText opening)
    | '"' :: rest => .ok (String.ofList done.reverse, rest)
    | '\\' :: rest =>
      match rest with
      | [] => .error (.malformed .unterminatedText opening)
      | 'u' :: digits =>
        if digits.length ≤ 4 then .error (.malformed .badUnicodeEscape rest)
        else match codeUnit? digits with
          | none => .error (.malformed .badUnicodeEscape rest)
          | some (unit, rest) =>
            match if 0xd800 ≤ unit && unit < 0xdc00 then partner? unit rest else none with
            | some (c, rest) => text opening fuel (c :: done) rest
            | none => text opening fuel (charOf unit :: done) rest
      | c :: rest =>
        match simpleEscape? c with
        | some d => text opening fuel (d :: done) rest
        | none => .error (.malformed .badEscape cs)
    | c :: rest =>
      if c.toNat < 32 then .error (.malformed .controlCharacter cs)
      else text opening fuel (c :: done) rest

/-- A text that starts with a quote. -/
def readText (cs : List Char) : Except Error (String × List Char) := text cs cs.length [] (cs.drop 1)

/-- The digits of a fraction, if there are some behind the point. -/
def fraction : List Char → List Char × List Char
  | '.' :: d :: cs =>
    if d.isDigit then ('.' :: d :: cs.takeWhile Char.isDigit, cs.dropWhile Char.isDigit)
    else ([], '.' :: d :: cs)
  | cs => ([], cs)

/-- An exponent, if it has digits. -/
def exponent : List Char → List Char × List Char
  | [] => ([], [])
  | e :: cs =>
    let (sign, digits) : List Char × List Char := match cs with
      | '+' :: r => (['+'], r)
      | '-' :: r => (['-'], r)
      | r => ([], r)
    match digits with
    | d :: r =>
      if (e == 'e' || e == 'E') && d.isDigit then
        (e :: sign ++ d :: r.takeWhile Char.isDigit, r.dropWhile Char.isDigit)
      else ([], e :: cs)
    | [] => ([], e :: cs)

/-- Whole numbers may not have more digits. -/
def digitLimit : Nat := 4300

/-- A number without its sign. -/
def magnitude (negative : Bool) (cs : List Char) : Option (Except Error (Value × List Char)) :=
  let whole := match cs with
    | '0' :: r => some (['0'], r)
    | d :: r => if d.isDigit then some (d :: r.takeWhile Char.isDigit, r.dropWhile Char.isDigit) else none
    | [] => none
  whole.map fun (digits, rest) =>
    let (places, rest) := fraction rest
    let (power, rest) := exponent rest
    if places.isEmpty && power.isEmpty then
      if digitLimit < digits.length then .error (.tooManyDigits digits.length)
      else
        let n : Int := digitsValue digits
        .ok (.int (if negative then -n else n), rest)
    else
      let d := (Decimal.ofChars? (digits ++ places ++ power)).getD ⟨0, 0⟩
      .ok (.float (d.toFloat negative), rest)

/-- The fixed words. -/
def words : List (String × Value) :=
  [("null", .null), ("true", .bool true), ("false", .bool false), ("NaN", .float (0.0 / 0.0)),
    ("Infinity", .float (Exact.infinity false)), ("-Infinity", .float (Exact.infinity true))]

/-- A word or a number. -/
def scalar (cs : List Char) : Except Error (Value × List Char) :=
  match words.find? fun (w, _) => w.toList.isPrefixOf cs with
  | some (w, v) => .ok (v, cs.drop w.length)
  | none =>
    let number := match cs with
      | '-' :: r => magnitude true r
      | r => magnitude false r
    number.getD (.error (.malformed .expectedValue cs))

/-- Sets a key; the entry keeps the place of the key's first use. -/
def put (key : String) (v : Value) : List (String × Value) → List (String × Value)
  | [] => [(key, v)]
  | (k, w) :: rest => if k == key then (key, v) :: rest else (k, w) :: put key v rest

mutual

/-- A value at the start of a text; `fuel` bounds the number of steps. -/
def value : Nat → List Char → Except Error (Value × List Char)
  | 0, cs => .error (.malformed .expectedValue cs)
  | fuel + 1, cs =>
    match cs with
    | '"' :: _ => do
      let (s, rest) ← readText cs
      return (.text s, rest)
    | '\x7b' :: rest =>
      match skip rest with
      | '\x7d' :: rest => .ok (.map [], rest)
      | rest => entries fuel [] rest
    | '[' :: rest =>
      match skip rest with
      | ']' :: rest => .ok (.list [], rest)
      | rest => items fuel [] rest
    | cs => scalar cs

/-- Entries up to the closing brace; `done` is in order. -/
def entries : Nat → List (String × Value) → List Char → Except Error (Value × List Char)
  | 0, _, cs => .error (.malformed .expectedName cs)
  | fuel + 1, done, cs =>
    match cs with
    | '"' :: _ => do
      let (key, rest) ← readText cs
      match skip rest with
      | ':' :: rest => do
        let (v, rest) ← value fuel (skip rest)
        match skip rest with
        | '\x7d' :: rest => return (.map (put key v done), rest)
        | ',' :: rest => entries fuel (put key v done) (skip rest)
        | rest => .error (.malformed .expectedComma rest)
      | rest => .error (.malformed .expectedColon rest)
    | cs => .error (.malformed .expectedName cs)

/-- Items up to the closing bracket; `done` is reversed. -/
def items : Nat → List Value → List Char → Except Error (Value × List Char)
  | 0, _, cs => .error (.malformed .expectedValue cs)
  | fuel + 1, done, cs => do
    let (v, rest) ← value fuel cs
    match skip rest with
    | ']' :: rest => return (.list (v :: done).reverse, rest)
    | ',' :: rest => items fuel (v :: done) (skip rest)
    | rest => .error (.malformed .expectedComma rest)

end

def readChars (cs : List Char) : Except Error Value := do
  if cs.head? = some '\ufeff' then .error (.malformed .byteOrderMark cs)
  let (v, rest) ← value (cs.length + 1) (skip cs)
  match skip rest with
  | [] => return v
  | rest => .error (.malformed .extraData rest)

/-- The value that a text is. -/
def read (s : String) : Except Error Value := readChars s.toList

/-- The line and the column of a place, both from one. -/
def lineColumn (before : List Char) : Nat × Nat :=
  (before.count '\n' + 1, (before.reverse.takeWhile (· != '\n')).length + 1)

/-- The message for an error in a text. -/
def Error.message (source : String) : Error → String
  | .malformed problem rest =>
    let before := source.toList.take (source.length - rest.length)
    let (line, column) := lineColumn before
    s!"{problem.message}: line {line} column {column} (char {before.length})"
  | .tooManyDigits count =>
    s!"Exceeds the limit ({digitLimit} digits) for integer string conversion: value has {count} digits; " ++
      "use sys.set_int_max_str_digits() to increase the limit"

end TransactionRules.Json
