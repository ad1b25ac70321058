import TransactionRules.Value.Basic

/-!
# Writing JSON

Values as JSON text. A `JsonStyle` decides whether characters beyond ASCII are escaped, and what
separates the items of a list, and a key from its value.
-/

namespace TransactionRules

structure JsonStyle where
  ascii : Bool
  itemSeparator : String
  keySeparator : String
deriving Repr

namespace JsonStyle

/-- No blanks, and every character as it is. -/
def compact : JsonStyle := ⟨false, ",", ":"⟩

/-- A blank behind each separator, and ASCII characters only. -/
def spaced : JsonStyle := ⟨true, ", ", ": "⟩

end JsonStyle

namespace Json

/-- A code unit of a character beyond ASCII. -/
def unitEscape (n : Nat) : List Char := '\\' :: 'u' :: Quoted.hex 4 n

/-- A character beyond ASCII by its one or two code units. -/
def asciiEscape (c : Char) : List Char :=
  let n := c.toNat
  if n < 0x10000 then unitEscape n
  else
    let m := n - 0x10000
    unitEscape (0xd800 + m / 0x400) ++ unitEscape (0xdc00 + m % 0x400)

def escape (ascii : Bool) (c : Char) : List Char :=
  if c == '"' || c == '\\' then ['\\', c]
  else if c == '\n' then ['\\', 'n']
  else if c == '\r' then ['\\', 'r']
  else if c == '\t' then ['\\', 't']
  else if c == '\x08' then ['\\', 'b']
  else if c == '\x0c' then ['\\', 'f']
  else if c.toNat < 32 then unitEscape c.toNat
  else if ascii && 127 ≤ c.toNat then asciiEscape c
  else [c]

def quote (ascii : Bool) (s : String) : String :=
  String.ofList ('"' :: s.toList.flatMap (escape ascii) ++ ['"'])

mutual

def write (style : JsonStyle) : Value → String
  | .null => "null"
  | .bool b => if b then "true" else "false"
  | .int n => toString n
  | .float x => FloatStyle.json.write x
  | .text s => quote style.ascii s
  | .list items => "[" ++ style.itemSeparator.intercalate (writeItems style items) ++ "]"
  | .map entries =>
    "\x7b" ++ style.itemSeparator.intercalate (writeEntries style entries) ++ "\x7d"

def writeItems (style : JsonStyle) : List Value → List String
  | [] => []
  | v :: rest => write style v :: writeItems style rest

def writeEntries (style : JsonStyle) : List (String × Value) → List String
  | [] => []
  | (key, v) :: rest =>
    (quote style.ascii key ++ style.keySeparator ++ write style v) :: writeEntries style rest

end

end Json

end TransactionRules
