import TransactionRules.Text.Case.Table
import TransactionRules.Text.Space

/-!
# Letter case and margins

Names are compared in small letters and without the blanks around them. A capital sigma that ends a
word has a small letter of its own, and the capital I with a dot becomes two characters.
-/

namespace TransactionRules

/-- The small letter of a character, where that is one character and needs no context. -/
def smallLetter (c : Char) : Char :=
  let n := c.toNat
  if n < 128 then c.toLower
  else match smallLetterRuns.find? fun (start, count, step, _) =>
      start ≤ n && n < start + count * step && (n - start) % step == 0 with
    | some (_, _, _, distance) => Char.ofNat ((n : Int) + distance).toNat
    | none => c

/-- Whether a letter stands next, characters that do not end a word aside. -/
def letterNext (cs : List Char) : Bool :=
  match cs.dropWhile caseIgnorable.contains with
  | [] => false
  | c :: _ => casedLetters.contains c

/-- The small letters of a text; `before` is reversed. -/
def smallLettersFrom (before : List Char) : List Char → List Char
  | [] => []
  | c :: cs =>
    let small :=
      if c == 'Σ' then (if letterNext before && !letterNext cs then ['ς'] else ['σ'])
      else if c == 'İ' then ['i', '\u0307']
      else [smallLetter c]
    small ++ smallLettersFrom (c :: before) cs

def smallLetters (s : String) : String := String.ofList (smallLettersFrom [] s.toList)

/-- A text without the blanks around it. -/
def withoutMargins (s : String) : String :=
  String.ofList (((s.toList.dropWhile isBlank).reverse.dropWhile isBlank).reverse)

/-- What some letters beyond ASCII are in ASCII capitals. -/
def asciiCapitals : List (Char × String) :=
  [('ı', "I"), ('ſ', "S"), ('ß', "SS"), ('ﬀ', "FF"), ('ﬁ', "FI"), ('ﬂ', "FL"), ('ﬃ', "FFI"),
    ('ﬄ', "FFL"), ('ﬅ', "ST"), ('ﬆ', "ST")]

/-- The text in capitals, as far as the capitals are in ASCII. -/
def capitals (s : String) : String :=
  String.join (s.toList.map fun c => (asciiCapitals.lookup c).getD (String.singleton c.toUpper))

/-- What some letters beyond ASCII are when case is disregarded. -/
def asciiFolds : List (Char × String) :=
  [('ſ', "s"), ('K', "k"), ('ß', "ss"), ('ẞ', "ss"), ('ﬀ', "ff"), ('ﬁ', "fi"), ('ﬂ', "fl"),
    ('ﬃ', "ffi"), ('ﬄ', "ffl"), ('ﬅ', "st"), ('ﬆ', "st")]

/-- The text without regard to case, as far as the result is in ASCII. -/
def foldCase (s : String) : String :=
  String.join (s.toList.map fun c => (asciiFolds.lookup c).getD (String.singleton c.toLower))

end TransactionRules
