import TransactionRules.Text.Printable

/-!
# Quoted text

A text inside a message stands in quotes: apostrophes, unless it has an apostrophe and no double
quote. The quote, the backslash and whatever is not printable are escaped, so the message shows
where the text ends and what is in it.
-/

namespace TransactionRules.Quoted

/-- The `width` lowest hexadecimal digits of `n`. -/
def hex (width n : Nat) : List Char :=
  (List.range width).reverse.map fun i => Nat.digitChar (n >>> (4 * i) % 16)

/-- A character that is not printable, by its code point. -/
def escapeCode (c : Char) : List Char :=
  let n := c.toNat
  if n < 0x100 then '\\' :: 'x' :: hex 2 n
  else if n < 0x10000 then '\\' :: 'u' :: hex 4 n
  else '\\' :: 'U' :: hex 8 n

/-- A character between quotes `q`. -/
def escape (q c : Char) : List Char :=
  if c == q || c == '\\' then ['\\', c]
  else if c == '\t' then ['\\', 't']
  else if c == '\n' then ['\\', 'n']
  else if c == '\r' then ['\\', 'r']
  else if isPrintable c then [c]
  else escapeCode c

/-- The quote that a text is put in. -/
def quoteFor (cs : List Char) : Char :=
  if cs.contains '\'' && !cs.contains '"' then '"' else '\''

def write (cs : List Char) : List Char :=
  let q := quoteFor cs
  q :: cs.flatMap (escape q) ++ [q]

end TransactionRules.Quoted

namespace TransactionRules

/-- The text in quotes, as a message shows it. -/
def quoted (s : String) : String := String.ofList (Quoted.write s.toList)

end TransactionRules
