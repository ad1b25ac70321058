import TransactionRules.Text.CharacterName.Aliases
import TransactionRules.Text.CharacterName.EastAsia
import TransactionRules.Text.CharacterName.Historic
import TransactionRules.Text.CharacterName.Pictures
import TransactionRules.Text.CharacterName.Scripts
import TransactionRules.Text.CharacterName.Symbols

/-!
# Characters by name

A character is found by its standard name, or by one of its further names, in any letter case. Most
names are listed; those of ideographs and syllable blocks follow from their code points.

A list of names is one sequence of words. A name starts behind a mark in small letters: the first
letter of the mark says how many words the name shares with the one before it (`a` none, `b` one),
and a hexadecimal number how many code points are skipped.
-/

namespace TransactionRules.CharacterName

def hexValue? (c : Char) : Option Nat :=
  if c.isDigit then some (c.toNat - '0'.toNat)
  else if 'A' ≤ c ∧ c ≤ 'F' then some (c.toNat - 'A'.toNat + 10)
  else none

/-- The number that hexadecimal digits in capitals spell. -/
def hexNumber? (cs : List Char) : Option Nat :=
  cs.foldlM (fun n c => (hexValue? c).map (16 * n + ·)) 0

/-- The shared words and the skipped code points of a mark. -/
def mark? (word : String) : Option (Nat × Nat) :=
  match word.toList with
  | c :: skipped =>
    if c.isLower then (hexNumber? (skipped.map Char.toUpper)).map (c.toNat - 'a'.toNat, ·) else none
  | [] => none

/-- The code point of a name in a sequence of words; `name` is the one at `code`, as far as it has
been read, with its last word first. -/
def search (wanted : List String) (code : Nat) (name : List String) : List String → Option Nat
  | [] => if name == wanted then some code else none
  | word :: rest =>
    match mark? word with
    | none => search wanted code (word :: name) rest
    | some (shared, skipped) =>
      if name == wanted then some code
      else search wanted (code + 1 + skipped) (name.drop (name.length - shared)) rest

def listed? (name : String) : Option Nat :=
  let wanted := (name.splitOn " ").reverse
  [scripts, symbols, eastAsia, historic, pictures].findSome? fun lines =>
    search wanted 0 [] (lines.flatMap (·.splitOn " "))

/-- Whether a code point is in one of some ranges. -/
def isIn (ranges : List (Nat × Nat)) (code : Nat) : Bool :=
  ranges.any fun (first, last) => first ≤ code && code ≤ last

def unifiedIdeographs : List (Nat × Nat) :=
  [(0x3400, 0x4dbf), (0x4e00, 0x9fff), (0x20000, 0x2a6df), (0x2a700, 0x2b738), (0x2b740, 0x2b81d),
    (0x2b820, 0x2cea1), (0x2ceb0, 0x2ebe0), (0x30000, 0x3134a)]

/-- Characters whose name is one of these and their code point. -/
def numbered : List (String × List (Nat × Nat)) :=
  [("CJK COMPATIBILITY IDEOGRAPH-", [(0xf900, 0xfa6d), (0xfa70, 0xfad9), (0x2f800, 0x2fa1d)]),
    ("KHITAN SMALL SCRIPT CHARACTER-", [(0x18b00, 0x18cd5)]),
    ("NUSHU CHARACTER-", [(0x1b170, 0x1b2fb)])]

/-- What stands behind a beginning of a name. -/
def behind? (start name : String) : Option (List Char) :=
  if name.startsWith start then some (name.toList.drop start.length) else none

def numbered? (name : String) : Option Nat :=
  numbered.findSome? fun (start, ranges) => do
    let digits ← behind? start name
    let code ← hexNumber? digits
    let width := if code < 0x10000 then 4 else 5
    if isIn ranges code && digits.length == width then some code else none

/-- The name of a unified ideograph is in capitals only. -/
def ideograph? (name : String) : Option Nat := do
  let digits ← behind? "CJK UNIFIED IDEOGRAPH-" name
  let code ← hexNumber? digits
  if isIn unifiedIdeographs code && (digits.length == 4 || digits.length == 5) then some code
  else none

def leadingJamo : List String :=
  ["G", "GG", "N", "D", "DD", "R", "M", "B", "BB", "S", "SS", "", "J", "JJ", "C", "K", "T", "P", "H"]

def vowelJamo : List String :=
  ["A", "AE", "YA", "YAE", "EO", "E", "YEO", "YE", "O", "WA", "WAE", "OE", "YO", "U", "WEO", "WE",
    "WI", "YU", "EU", "YI", "I"]

def trailingJamo : List String :=
  ["", "G", "GG", "GS", "N", "NJ", "NH", "D", "L", "LG", "LM", "LB", "LS", "LT", "LP", "LH", "M",
    "B", "BS", "S", "SS", "NG", "J", "C", "K", "T", "P", "H"]

/-- The index of the longest of some sounds at the start of a text, and the rest. -/
def jamo? (sounds : List String) (cs : List Char) : Option (Nat × List Char) :=
  let found := sounds.zipIdx.filter fun (sound, _) => sound.toList.isPrefixOf cs
  let longest : Option (String × Nat) := found.foldl (fun best next =>
    match best with
    | none => some next
    | some old => if old.1.length < next.1.length then some next else some old) none
  longest.map fun (sound, index) => (index, cs.drop sound.length)

/-- The name of a syllable block is in capitals only. -/
def syllable? (name : String) : Option Nat := do
  let cs ← behind? "HANGUL SYLLABLE " name
  let (leading, cs) ← jamo? leadingJamo cs
  let (vowel, cs) ← jamo? vowelJamo cs
  let (trailing, cs) ← jamo? trailingJamo cs
  if cs.isEmpty then some (0xac00 + (leading * 21 + vowel) * 28 + trailing) else none

/-- The variation selector of a number. -/
def selector? (name : String) : Option Nat := do
  let digits ← behind? "VS" name
  let n := digits.foldl (fun n c => 10 * n + (c.toNat - '0'.toNat)) 0
  if digits.all Char.isDigit && digits.head? != some '0' && 1 ≤ n && n ≤ 256 then
    some (if n ≤ 16 then 0xfe00 + n - 1 else 0xe0100 + n - 17)
  else none

/-- The character of a name. -/
def find? (cs : List Char) : Option Char :=
  let name := String.ofList cs
  let capital := String.ofList (cs.map Char.toUpper)
  let code := syllable? name <|> ideograph? name <|> numbered? capital <|> aliases.lookup capital <|>
    selector? capital <|> listed? capital
  code.map Char.ofNat

end TransactionRules.CharacterName
