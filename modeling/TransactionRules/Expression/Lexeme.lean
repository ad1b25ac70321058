import TransactionRules.Expression.Template
import TransactionRules.Text.Identifier
import TransactionRules.Text.Normalization

/-!
# Lexemes of the expression language

One logical line is cut into words, numbers, string literals, punctuation and brackets. A line ends
at the first line break outside brackets; nothing but blank lines and comments may follow it, and it
may not be indented. Whatever cannot be cut has no lexemes.
-/

namespace TransactionRules.Expression

inductive Bracket where
  | round | square | brace
deriving DecidableEq, Repr

/-- Reserved words with a use inside expressions; the other reserved words have none. -/
inductive Keyword where
  | and | or | not | if | else | for | in | is | lambda | async | await | yield | from
  | trueConstant | falseConstant | nullConstant | unused
deriving DecidableEq, Repr

inductive Punctuation where
  | plus | minus | star | doubleStar | slash | doubleSlash | percent | at
  | shiftLeft | shiftRight | ampersand | bar | caret | tilde
  | less | greater | lessEqual | greaterEqual | equal | notEqual
  | comma | colon | dot | ellipsis | colonEqual | assign | unused
deriving DecidableEq, Repr

inductive Lexeme where
  | name (s : String)
  | keyword (k : Keyword)
  | number (n : Number)
  | text (s : String)
  | bytes (cs : List Char)
  /-- A text with expressions in it: a list of the expressions' sources. -/
  | formatted (sources : List (List Char))
  | punctuation (p : Punctuation)
  | opening (b : Bracket)
  | closing (b : Bracket)
deriving Repr

namespace Keyword

def ofString? : String → Option Keyword
  | "and" => some .and
  | "or" => some .or
  | "not" => some .not
  | "if" => some .if
  | "else" => some .else
  | "for" => some .for
  | "in" => some .in
  | "is" => some .is
  | "lambda" => some .lambda
  | "async" => some .async
  | "await" => some .await
  | "yield" => some .yield
  | "from" => some .from
  | "True" => some .trueConstant
  | "False" => some .falseConstant
  | "None" => some .nullConstant
  | w =>
    if ["as", "assert", "break", "class", "continue", "def", "del", "elif", "except", "finally",
        "global", "import", "nonlocal", "pass", "raise", "return", "try", "while", "with"].contains w
    then some .unused else none

end Keyword

namespace Lexeme

/-! ## String literals -/

/-- What the letters before a quote say of a literal. -/
structure LiteralMark where
  raw : Bool
  bytes : Bool
  formatted : Bool

def LiteralMark.ofWord? (word : List Char) : Option LiteralMark :=
  match String.ofList (word.map Char.toLower) with
  | "" | "u" => some ⟨false, false, false⟩
  | "r" => some ⟨true, false, false⟩
  | "b" => some ⟨false, true, false⟩
  | "br" | "rb" => some ⟨true, true, false⟩
  | "f" => some ⟨false, false, true⟩
  | "fr" | "rf" => some ⟨true, false, true⟩
  | _ => none

/-- The body of a literal in single quotes, which ends on its line, and the rest. -/
def shortBody (q : Char) : List Char → Option (List Char × List Char)
  | [] => none
  | '\\' :: c :: cs => (shortBody q cs).map fun (body, rest) => ('\\' :: c :: body, rest)
  | c :: cs =>
    if c == q then some ([], cs)
    else if c == '\n' then none
    else (shortBody q cs).map fun (body, rest) => (c :: body, rest)

/-- The body of a literal in three quotes, and the rest. -/
def longBody (q : Char) : List Char → Option (List Char × List Char)
  | [] => none
  | '\\' :: c :: cs => (longBody q cs).map fun (body, rest) => ('\\' :: c :: body, rest)
  | c :: cs =>
    if [q, q, q].isPrefixOf (c :: cs) then some ([], cs.drop 2)
    else (longBody q cs).map fun (body, rest) => (c :: body, rest)

/-- The lexeme of a literal. -/
def ofLiteral? (mark : LiteralMark) (body : List Char) : Option Lexeme :=
  if mark.bytes then
    if body.any (128 ≤ ·.toNat) then none
    else if mark.raw then some (.bytes body)
    else (Escape.decode Escape.inBytes body).map .bytes
  else if mark.formatted then (Template.sources? mark.raw body).map .formatted
  else if mark.raw then some (.text (String.ofList body))
  else (Escape.decode Escape.inText body).map fun cs => .text (String.ofList cs)

/-- The literal after an opening quote `q`. -/
def literal? (mark : LiteralMark) (q : Char) (cs : List Char) : Option (Lexeme × List Char) := do
  let (body, rest) ← match cs with
    | c :: d :: r => if c == q && d == q then longBody q r else shortBody q cs
    | _ => shortBody q cs
  return (← ofLiteral? mark body, rest)

/-! ## Words and punctuation -/

/-- A reserved word, a name, or a literal with its mark. -/
def word? (cs : List Char) : Option (Lexeme × List Char) :=
  let word := cs.takeWhile isWordChar
  let rest := cs.dropWhile isWordChar
  let literal := match rest with
    | q :: r => if q == '"' || q == '\'' then (LiteralMark.ofWord? word).map (·, q, r) else none
    | [] => none
  match literal with
  | some (mark, q, r) => literal? mark q r
  | none =>
    match Keyword.ofString? (String.ofList word) with
    | some k => some (.keyword k, rest)
    | none =>
      if isIdentifier word then some (.name (String.ofList (Normalization.normalize word)), rest)
      else none

/-- The longest punctuation at the start of a text. -/
def punctuation? : List Char → Option (Lexeme × List Char)
  | '.' :: '.' :: '.' :: cs => some (.punctuation .ellipsis, cs)
  | '*' :: '*' :: '=' :: cs | '/' :: '/' :: '=' :: cs | '<' :: '<' :: '=' :: cs
  | '>' :: '>' :: '=' :: cs => some (.punctuation .unused, cs)
  | '*' :: '*' :: cs => some (.punctuation .doubleStar, cs)
  | '/' :: '/' :: cs => some (.punctuation .doubleSlash, cs)
  | '<' :: '<' :: cs => some (.punctuation .shiftLeft, cs)
  | '>' :: '>' :: cs => some (.punctuation .shiftRight, cs)
  | '<' :: '=' :: cs => some (.punctuation .lessEqual, cs)
  | '>' :: '=' :: cs => some (.punctuation .greaterEqual, cs)
  | '=' :: '=' :: cs => some (.punctuation .equal, cs)
  | '!' :: '=' :: cs => some (.punctuation .notEqual, cs)
  | ':' :: '=' :: cs => some (.punctuation .colonEqual, cs)
  | '<' :: '>' :: cs | '-' :: '>' :: cs | '+' :: '=' :: cs | '-' :: '=' :: cs | '*' :: '=' :: cs
  | '/' :: '=' :: cs | '%' :: '=' :: cs | '&' :: '=' :: cs | '|' :: '=' :: cs | '^' :: '=' :: cs
  | '@' :: '=' :: cs | ';' :: cs => some (.punctuation .unused, cs)
  | '+' :: cs => some (.punctuation .plus, cs)
  | '-' :: cs => some (.punctuation .minus, cs)
  | '*' :: cs => some (.punctuation .star, cs)
  | '/' :: cs => some (.punctuation .slash, cs)
  | '%' :: cs => some (.punctuation .percent, cs)
  | '@' :: cs => some (.punctuation .at, cs)
  | '&' :: cs => some (.punctuation .ampersand, cs)
  | '|' :: cs => some (.punctuation .bar, cs)
  | '^' :: cs => some (.punctuation .caret, cs)
  | '~' :: cs => some (.punctuation .tilde, cs)
  | '<' :: cs => some (.punctuation .less, cs)
  | '>' :: cs => some (.punctuation .greater, cs)
  | '=' :: cs => some (.punctuation .assign, cs)
  | ',' :: cs => some (.punctuation .comma, cs)
  | ':' :: cs => some (.punctuation .colon, cs)
  | '.' :: cs => some (.punctuation .dot, cs)
  | '(' :: cs => some (.opening .round, cs)
  | '[' :: cs => some (.opening .square, cs)
  | '\x7b' :: cs => some (.opening .brace, cs)
  | ')' :: cs => some (.closing .round, cs)
  | ']' :: cs => some (.closing .square, cs)
  | '\x7d' :: cs => some (.closing .brace, cs)
  | _ => none

/-- Whether a number starts here. -/
def startsNumber : List Char → Bool
  | '.' :: d :: _ => d.isDigit
  | d :: _ => d.isDigit
  | [] => false

/-- The lexeme at the start of a text that does not start with a blank, and the rest. -/
def read (cs : List Char) : Option (Lexeme × List Char) :=
  if startsNumber cs then (Number.read cs).map fun (n, rest) => (.number n, rest)
  else match cs with
    | c :: r =>
      if c == '"' || c == '\'' then literal? ⟨false, false, false⟩ c r
      else if isWordChar c then word? cs
      else punctuation? cs
    | [] => none

end Lexeme

/-! ## Lines -/

namespace Line

/-- Every line break is one line feed. -/
def unify : List Char → List Char
  | '\r' :: '\n' :: cs => '\n' :: unify cs
  | '\r' :: cs => '\n' :: unify cs
  | c :: cs => c :: unify cs
  | [] => []

/-- A backslash at the end of a line, with a line after it: what follows. -/
def continued : List Char → Option (List Char)
  | '\n' :: c :: cs => some (c :: cs)
  | _ => none

/-- Where the first line starts that is not blank, if it is not indented. `indent` is the width of
the blanks so far and `fixed` the one at which a continued line started. Blanks behind the last line
break are a line that is indented. -/
def start (comment : Bool) (indent fixed : Nat) : List Char → Option (List Char)
  | [] => if comment || (if fixed = 0 then indent else fixed) = 0 then some [] else none
  | '\n' :: cs => start false 0 0 cs
  | '\\' :: '\n' :: c :: cs =>
    if comment then start false 0 0 (c :: cs)
    else start false indent (if fixed = 0 then indent else fixed) (c :: cs)
  | c :: cs =>
    if comment || c == '#' then start true indent fixed cs
    else if c == ' ' || c == '\t' then start false (indent + 1) fixed cs
    else if c == '\x0c' then start false 0 fixed cs
    else if c == '\\' || (if fixed = 0 then indent else fixed) ≠ 0 then none
    else some (c :: cs)

/-- Brackets may not be nested more deeply. -/
def bracketLimit : Nat := 200

/-- The lexemes of a logical line at bracket depth `depth`. -/
def lexemes (depth : Nat) : List Char → Option (List Lexeme)
  | [] => if depth = 0 then some [] else none
  | c :: cs =>
    if c == ' ' || c == '\t' || c == '\x0c' then lexemes depth cs
    else if c == '#' then
      if _h : (cs.dropWhile (· != '\n')).length ≤ cs.length then lexemes depth (cs.dropWhile (· != '\n'))
      else none
    else if c == '\n' then
      if depth = 0 then (if start false 0 0 cs = some [] then some [] else none)
      else lexemes depth cs
    else if c == '\\' then
      match cs with
      | '\n' :: d :: r => lexemes depth (d :: r)
      | _ => none
    else do
      let (l, rest) ← Lexeme.read (c :: cs)
      let depth ← match l with
        | .opening _ => if depth < bracketLimit then some (depth + 1) else none
        | .closing _ => if 0 < depth then some (depth - 1) else none
        | _ => some depth
      if _h : rest.length ≤ cs.length then return l :: (← lexemes depth rest) else none
termination_by cs => cs.length
decreasing_by all_goals simp_wf; try omega

/-- The lexemes of a text that is one logical line. -/
def ofChars (cs : List Char) : Option (List Lexeme) := (start false 0 0 (unify cs)).bind (lexemes 0)

end Line

end TransactionRules.Expression
