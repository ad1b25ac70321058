import TransactionRules.Expression.Literal

/-!
# Texts with expressions in them

The body of a formatted literal alternates between text, in which doubled braces stand for single
ones, and expressions in braces. An expression may be followed by an equals sign, a conversion and a
format, which is such a body itself, one level deep. Only the sources of the expressions matter
here: `sources?` finds them, or nothing if the body is not well formed.
-/

namespace TransactionRules.Expression.Template

def openBrace : Char := '\x7b'

def closeBrace : Char := '\x7d'

/-- A stretch of text: what it means once doubled braces are single, and the rest, which is empty
or starts with a brace. At level zero a closing brace does not stand alone. -/
def literal (raw : Bool) (level : Nat) : List Char → Option (List Char × List Char)
  | [] => some ([], [])
  | c :: cs =>
    if c == '\\' && !raw then
      match cs with
      | 'N' :: '\x7b' :: r =>
        let name := r.takeWhile (· != closeBrace)
        if _h : ((r.dropWhile (· != closeBrace)).drop 1).length ≤ r.length then
          (literal raw level ((r.dropWhile (· != closeBrace)).drop 1)).map fun (t, rest) =>
            ('\\' :: 'N' :: openBrace :: name ++ (r.dropWhile (· != closeBrace)).take 1 ++ t, rest)
        else none
      | d :: r =>
        if d == openBrace || d == closeBrace then
          (literal raw level (d :: r)).map fun (t, rest) => (c :: t, rest)
        else (literal raw level r).map fun (t, rest) => (c :: d :: t, rest)
      | [] => some ([c], [])
    else if c == openBrace || c == closeBrace then
      match cs with
      | d :: r =>
        if level = 0 && d == c then (literal raw level r).map fun (t, rest) => (c :: t, rest)
        else if level = 0 && c == closeBrace then none
        else some ([], c :: cs)
      | [] => if level = 0 && c == closeBrace then none else some ([], c :: cs)
    else (literal raw level cs).map fun (t, rest) => (c :: t, rest)
termination_by cs => cs.length
decreasing_by
  all_goals simp_wf
  all_goals try simp only [List.length_drop] at *
  all_goals omega

def matching : Char → Char
  | '(' => ')'
  | '[' => ']'
  | _ => closeBrace

/-- Where an expression is: inside a literal in one or three quotes `q`, or not. -/
inductive Place where
  | code
  | quoted (q : Char) (long : Bool)

/-- The source of an expression up to what ends it, and the rest. `stack` holds the closing brackets
that are due. -/
def source (place : Place) (stack : List Char) : List Char → Option (List Char × List Char)
  | [] => none
  | c :: cs =>
    let go (place : Place) (stack : List Char) : Option (List Char × List Char) :=
      (source place stack cs).map fun (s, rest) => (c :: s, rest)
    let goLong (place : Place) : Option (List Char × List Char) :=
      (source place stack (cs.drop 2)).map fun (s, rest) => (c :: c :: c :: s, rest)
    if c == '\\' then none
    else match place with
      | .quoted q long =>
        if c != q then go place stack
        else if !long then go .code stack
        else if [q, q].isPrefixOf cs then goLong .code
        else go place stack
      | .code =>
        if c == '"' || c == '\'' then
          if [c, c].isPrefixOf cs then goLong (.quoted c true) else go (.quoted c false) stack
        else if c == '(' || c == '[' || c == openBrace then go .code (matching c :: stack)
        else if c == '#' then none
        else if stack.isEmpty && (c == '!' || c == ':' || c == closeBrace || c == '=' || c == '<' || c == '>') then
          match cs with
          | '=' :: r =>
            if c == '!' || c == '=' || c == '<' || c == '>' then
              (source .code stack r).map fun (s, rest) => (c :: '=' :: s, rest)
            else some ([], c :: cs)
          | _ => if c == '<' || c == '>' then go .code stack else some ([], c :: cs)
        else if c == ')' || c == ']' || c == closeBrace then
          match stack with
          | d :: stack => if c == d then go .code stack else none
          | [] => none
        else go .code stack
termination_by cs => cs.length
decreasing_by all_goals simp_wf; try omega

def isSpace (c : Char) : Bool := c == ' ' || c == '\t' || c == '\n' || c == '\x0c' || c == '\r'

/-- An equals sign after an expression, with blanks behind it. -/
def afterEquals : List Char → List Char
  | '=' :: cs => cs.dropWhile fun c => isSpace c || c == '\x0b'
  | cs => cs

/-- A conversion after an expression. -/
def afterConversion : List Char → Option (List Char)
  | '!' :: c :: cs => if c == 's' || c == 'r' || c == 'a' then some cs else none
  | '!' :: [] => none
  | cs => some cs

/-- Whether the escapes of a stretch of text are well formed; a backslash may end it. -/
def decodes (raw : Bool) (text : List Char) : Bool :=
  raw || (Escape.decode Escape.inText text).isSome ||
    (text.getLast? == some '\\' && (Escape.decode Escape.inText (text ++ ['\\'])).isSome)

/-- The sources in a body at a level, and the rest, which is empty or a closing brace. -/
def parts (raw : Bool) : Nat → Nat → List Char → Option (List (List Char) × List Char)
  | 0, _, _ => none
  | fuel + 1, level, cs => do
    let (text, rest) ← literal raw level cs
    if !decodes raw text then none
    match rest with
    | [] => return ([], [])
    | c :: rest =>
      if c == closeBrace then return ([], c :: rest)
      else if 2 ≤ level then none
      else
        let (s, rest) ← source .code [] rest
        if s.all isSpace then none
        let rest ← afterConversion (afterEquals rest)
        let (inner, rest) ← match rest with
          | ':' :: r => parts raw fuel (level + 1) r
          | r => some ([], r)
        match rest with
        | d :: rest =>
          if d != closeBrace then none
          else
            let (more, rest) ← parts raw fuel level rest
            return (s :: inner ++ more, rest)
        | [] => none

/-- The sources of the expressions in a body. -/
def sources? (raw : Bool) (body : List Char) : Option (List (List Char)) :=
  match parts raw (body.length + 1) 0 body with
  | some (sources, []) => some sources
  | _ => none

end TransactionRules.Expression.Template
