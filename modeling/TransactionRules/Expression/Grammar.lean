import TransactionRules.Expression.Syntax

/-!
# Grammar of the expression language

Groups in brackets are read from the inside out. A group has a meaning for each place where it may
stand (`Forms`): as an operand, as the arguments of a call, as a subscript, and as the target of a
comprehension. So a row of items is read without going into its groups again: it is split at the
loosest operators first, down to operands with what is attached to them.
-/

namespace TransactionRules.Expression

structure Arguments where
  positional : List Expr
  keywords : Bool

/-- The meanings of a group; a missing one is a place where it cannot stand. -/
structure Forms where
  bracket : Bracket
  operand : Option Expr
  arguments : Option Arguments
  /-- The nesting depth of a subscript. -/
  subscript : Option Nat
  target : Bool

inductive Item where
  | leaf (l : Lexeme)
  | group (forms : Forms)

namespace Item

def isKeyword (k : Keyword) : Item → Bool
  | .leaf (.keyword k') => k == k'
  | _ => false

def isPunctuation (p : Punctuation) : Item → Bool
  | .leaf (.punctuation p') => p == p'
  | _ => false

def isLiteral : Item → Bool
  | .leaf (.text _) | .leaf (.bytes _) | .leaf (.formatted _) => true
  | _ => false

end Item

namespace Grammar

/-- The parts between the items that `sep` picks. -/
def splitOn (sep : Item → Bool) : List Item → List (List Item)
  | [] => [[]]
  | i :: is =>
    if sep i then [] :: splitOn sep is
    else match splitOn sep is with
      | part :: parts => (i :: part) :: parts
      | [] => [[i]]

/-- The items before and after the first one that `sep` picks. -/
def breakAt (sep : Item → Bool) : List Item → Option (List Item × List Item)
  | [] => none
  | i :: is => if sep i then some ([], is) else (breakAt sep is).map fun (a, b) => (i :: a, b)

/-- The number of lambdas whose colon is due, after an item. -/
def lambdasAfter (lambdas : Nat) (i : Item) : Nat :=
  if i.isKeyword .lambda then lambdas + 1 else if i.isPunctuation .colon then lambdas - 1 else lambdas

/-- Like `splitOn`, outside the parameters of `lambdas` and of the lambdas met on the way. -/
def splitOutside (sep : Item → Bool) (lambdas : Nat) : List Item → List (List Item)
  | [] => [[]]
  | i :: is =>
    if lambdas = 0 && sep i then [] :: splitOutside sep 0 is
    else match splitOutside sep (lambdasAfter lambdas i) is with
      | part :: parts => (i :: part) :: parts
      | [] => [[i]]

/-- The items before and after the colon that ends `lambdas + 1` open lambdas. -/
def breakColon (lambdas : Nat) : List Item → Option (List Item × List Item)
  | [] => none
  | i :: is =>
    if lambdas = 0 && i.isPunctuation .colon then some ([], is)
    else (breakColon (lambdasAfter lambdas i) is).map fun (a, b) => (i :: a, b)

/-- The elements of a list with commas between them, and maybe one behind the last. -/
def elements (is : List Item) : Option (List (List Item)) :=
  let parts := splitOutside (Item.isPunctuation .comma) 0 is
  let parts := if parts.length > 1 && (parts.getLast?.map List.isEmpty).getD false then parts.dropLast else parts
  if parts.any List.isEmpty then none else some parts

/-- Whether a list of elements ends in a comma, or has several of them. -/
def hasComma (is : List Item) : Bool := (splitOutside (Item.isPunctuation .comma) 0 is).length > 1

/-! ## Operands -/

/-- Neighbouring literals are one literal. Texts and byte strings do not mix. -/
def literalOf (ls : List Item) : Option Expr :=
  let texts := ls.filterMap fun
    | .leaf (.text s) => some s
    | _ => none
  let bytes := ls.filterMap fun
    | .leaf (.bytes cs) => some cs
    | _ => none
  if bytes.length = ls.length then some (.constant (.bytes bytes.flatten))
  else if bytes.length ≠ 0 then none
  else if texts.length = ls.length then some (.constant (.text (String.join texts)))
  else some (.other .formatted 2)

def operand : Item → Option Expr
  | .leaf (.name s) => some (.name s)
  | .leaf (.keyword .trueConstant) => some (.constant (.bool true))
  | .leaf (.keyword .falseConstant) => some (.constant (.bool false))
  | .leaf (.keyword .nullConstant) => some (.constant .null)
  | .leaf (.number (.int n)) => some (.constant (.int n))
  | .leaf (.number (.float x)) => some (.constant (.float x))
  | .leaf (.number (.imaginary x)) => some (.constant (.imaginary x))
  | .leaf (.punctuation .ellipsis) => some (.constant .ellipsis)
  | .group forms => forms.operand
  | _ => none

/-- Attributes, calls and subscripts attached to an operand. -/
def trailers : Expr → List Item → Option Expr
  | e, [] => some e
  | e, .leaf (.punctuation .dot) :: .leaf (.name s) :: is => trailers (.attribute e s) is
  | e, .group forms :: is =>
    match forms.bracket with
    | .round => forms.arguments.bind fun a => trailers (.call e a.positional a.keywords) is
    | .square => forms.subscript.bind fun d => trailers (.other .subscript (max e.depth d + 1)) is
    | .brace => none
  | _, _ => none

def attached : List Item → Option Expr
  | [] => none
  | i :: is =>
    if i.isLiteral then
      (literalOf (i :: is.takeWhile Item.isLiteral)).bind fun e => trailers e (is.dropWhile Item.isLiteral)
    else (operand i).bind fun e => trailers e is

def primary : List Item → Option Expr
  | .leaf (.keyword .await) :: is => (attached is).map fun e => .ofForm .await [e]
  | is => attached is

/-! ## Arithmetic -/

def prefixOp? : Item → Option PrefixOp
  | .leaf (.punctuation .plus) => some .plus
  | .leaf (.punctuation .minus) => some .minus
  | .leaf (.punctuation .tilde) => some .invert
  | _ => none

def binaryOp? : Item → Option Punctuation
  | .leaf (.punctuation p) =>
    if [.plus, .minus, .star, .doubleStar, .slash, .doubleSlash, .percent, .at, .shiftLeft, .shiftRight,
        .ampersand, .bar, .caret].contains p then some p else none
  | _ => none

/-- The operands between binary operators. An operator before the operand has started
(`started = false`) is a prefix of it. -/
def operands : Bool → List Item → List Item × List (Punctuation × List Item)
  | _, [] => ([], [])
  | started, i :: is =>
    match if started then binaryOp? i else none with
    | some p =>
      let (first, rest) := operands false is
      ([], (p, first) :: rest)
    | none =>
      let (first, rest) := operands (started || (prefixOp? i).isNone) is
      (i :: first, rest)

/-- The prefix operators of an operand, and the operand. -/
def factor (is : List Item) : Option (List PrefixOp × Expr) :=
  let ops := (is.takeWhile fun i => (prefixOp? i).isSome).filterMap prefixOp?
  (primary (is.dropWhile fun i => (prefixOp? i).isSome)).map (ops, ·)

/-- A power binds tighter than the prefix operators before it, and these tighter than the other
operators. -/
def arithmetic (is : List Item) : Option Expr := do
  let (first, rest) := operands false is
  let (ops, e) ← factor first
  if rest.isEmpty then return .prefixedBy ops e
  let others ← rest.mapM fun (_, part) => factor part
  let add (e : Expr) (o : List PrefixOp × Expr) : Expr := .ofForm .binary [e, .prefixedBy o.1 o.2]
  if rest.all fun (p, _) => p == .doubleStar then return .prefixedBy ops (others.foldl add e)
  return others.foldl add (.prefixedBy ops e)

/-! ## Comparisons and connectives -/

def relation? : Item → Option Relation
  | .leaf (.punctuation .equal) => some .eq
  | .leaf (.punctuation .notEqual) => some .ne
  | .leaf (.punctuation .less) => some .lt
  | .leaf (.punctuation .lessEqual) => some .le
  | .leaf (.punctuation .greater) => some .gt
  | .leaf (.punctuation .greaterEqual) => some .ge
  | .leaf (.keyword .in) => some .in
  | .leaf (.keyword .is) => some .is
  | _ => none

/-- The operands of a comparison chain. -/
def related : List Item → List Item × List (Relation × List Item)
  | [] => ([], [])
  | .leaf (.keyword .not) :: .leaf (.keyword .in) :: is =>
    let (first, rest) := related is
    ([], (.notIn, first) :: rest)
  | .leaf (.keyword .is) :: .leaf (.keyword .not) :: is =>
    let (first, rest) := related is
    ([], (.isNot, first) :: rest)
  | i :: is =>
    let (first, rest) := related is
    match relation? i with
    | some r => ([], (r, first) :: rest)
    | none => (i :: first, rest)

def comparison (is : List Item) : Option Expr := do
  let (first, rest) := related is
  let e ← arithmetic first
  if rest.isEmpty then return e
  return .chain e (← rest.mapM fun (r, part) => (arithmetic part).map (r, ·))

def inversion (is : List Item) : Option Expr :=
  let nots := is.takeWhile (Item.isKeyword .not)
  (comparison (is.dropWhile (Item.isKeyword .not))).map (.prefixedBy (nots.map fun _ => .not))

/-- One part is itself; several are operands of a connective. -/
def connected (op : Connective) (read : List Item → Option Expr) : List (List Item) → Option Expr
  | [part] => read part
  | parts => (parts.mapM read).map (.connective op)

def conjunction (is : List Item) : Option Expr :=
  connected .and inversion (splitOn (Item.isKeyword .and) is)

def disjunction (is : List Item) : Option Expr :=
  connected .or conjunction (splitOn (Item.isKeyword .or) is)

/-! ## Expressions -/

/-- A parameter of a lambda, with the items of its default. -/
inductive Parameter where
  | plain
  | withDefault (is : List Item)
  | slash
  | star
  | starred
  | doubleStarred

def parameter? : List Item → Option Parameter
  | [.leaf (.name _)] => some .plain
  | .leaf (.name _) :: .leaf (.punctuation .assign) :: is => some (.withDefault is)
  | [.leaf (.punctuation .slash)] => some .slash
  | [.leaf (.punctuation .star)] => some .star
  | [.leaf (.punctuation .star), .leaf (.name _)] => some .starred
  | [.leaf (.punctuation .doubleStar), .leaf (.name _)] => some .doubleStarred
  | _ => none

/-- Positional parameters (those with a default last, at most one slash behind them), then those
after a star, then one after two stars. -/
inductive ParameterState where
  | start
  | positional (default slash : Bool)
  | bareStar
  | keyword
  | finished

def ParameterState.next : ParameterState → Parameter → Option ParameterState
  | .start, .plain => some (.positional false false)
  | .start, .withDefault _ => some (.positional true false)
  | .positional false slash, .plain => some (.positional false slash)
  | .positional _ slash, .withDefault _ => some (.positional true slash)
  | .positional default false, .slash => some (.positional default true)
  | .start, .star | .positional .., .star => some .bareStar
  | .start, .starred | .positional .., .starred => some .keyword
  | .bareStar, .plain | .bareStar, .withDefault _ => some .keyword
  | .keyword, .plain | .keyword, .withDefault _ => some .keyword
  | .start, .doubleStarred | .positional .., .doubleStarred | .keyword, .doubleStarred => some .finished
  | _, _ => none

/-- The parameters before a lambda's colon. -/
def parameters? (is : List Item) : Option (List Parameter) := do
  if is.isEmpty then return []
  let ps ← (← elements is).mapM parameter?
  match ← ps.foldlM ParameterState.next .start with
  | .bareStar => none
  | _ => return ps

/-- The items of a default. -/
def Parameter.default? : Parameter → Option (List Item)
  | .withDefault is => some is
  | _ => none

/-- What follows the word that starts a lambda. -/
def lambda? : List Item → Option (List Item)
  | .leaf (.keyword .lambda) :: is => some is
  | _ => none

/-- A lambda, a conditional expression, or a disjunction. -/
def expression (is : List Item) : Option Expr :=
  match lambda? is with
  | some rest => do
    let (before, body) ← breakColon 0 rest
    let defaults := (← parameters? before).filterMap Parameter.default?
    let defaults ← defaults.mapM fun d => if _h : d.length < is.length then expression d else none
    let e ← if _h : body.length < is.length then expression body else none
    return .ofForm .lambda (e :: defaults)
  | none =>
    match breakAt (Item.isKeyword .if) is with
    | none => disjunction is
    | some (a, rest) => do
      let (b, c) ← breakAt (Item.isKeyword .else) rest
      let a ← disjunction a
      let b ← disjunction b
      let c ← if _h : c.length < is.length then expression c else none
      return .ofForm .conditional [a, b, c]
termination_by is.length

/-- An expression, which may be given a name. -/
def named : List Item → Option Expr
  | .leaf (.name _) :: .leaf (.punctuation .colonEqual) :: is =>
    (expression is).map fun e => .ofForm .named [e]
  | is => expression is

/-- An element of a tuple, list or set. -/
def starredOrNamed : List Item → Option Expr
  | .leaf (.punctuation .star) :: is => (arithmetic is).map fun e => .ofForm .starred [e]
  | is => named is

/-- A result of a generator. -/
def starredOrExpression : List Item → Option Expr
  | .leaf (.punctuation .star) :: is => (arithmetic is).map fun e => .ofForm .starred [e]
  | is => expression is

/-! ## Comprehensions -/

/-- A place that a value can be given to. -/
def target (is : List Item) : Bool :=
  match is with
  | [.leaf (.name _)] => true
  | [.group forms] => forms.target
  | is =>
    let place := match is.reverse with
      | .leaf (.name _) :: .leaf (.punctuation .dot) :: _ => true
      | .group forms :: _ :: _ => forms.bracket == .square
      | _ => false
    place && (attached is).isSome

def starredTarget : List Item → Bool
  | .leaf (.punctuation .star) :: is => target is
  | is => target is

/-- Targets with commas between them. -/
def targets (is : List Item) : Bool :=
  match elements is with
  | some parts => parts.all starredTarget
  | none => false

/-- What stands between `for` and the next one. -/
def clause (is : List Item) : Option (List Expr) := do
  let (ts, rest) ← breakAt (Item.isKeyword .in) is
  if !targets ts then none
  (splitOn (Item.isKeyword .if) rest).mapM disjunction

/-- Items without `async` at their end. -/
def dropAsync (is : List Item) : List Item :=
  match is.reverse with
  | i :: rest => if i.isKeyword .async then rest.reverse else is
  | [] => []

/-- The head of a comprehension and the parts of its clauses, if the items have a `for`. -/
def comprehension? (is : List Item) : Option (List Item × Option (List Expr)) :=
  match splitOn (Item.isKeyword .for) is with
  | head :: first :: rest =>
    let clauses := (first :: rest).dropLast.map dropAsync ++ ((first :: rest).getLast?).toList
    some (dropAsync head, (clauses.mapM clause).map List.flatten)
  | _ => none

/-! ## Groups -/

/-- A yield expression, a generator, a tuple, or an expression in brackets. -/
def roundOperand (is : List Item) : Option Expr :=
  match is with
  | [] => some (.ofForm .tuple [])
  | .leaf (.keyword .yield) :: .leaf (.keyword .from) :: rest =>
    (expression rest).map fun e => .ofForm .yieldFrom [e]
  | .leaf (.keyword .yield) :: rest =>
    if rest.isEmpty then some (.ofForm .yield [])
    else do return .ofForm .yield (← (← elements rest).mapM starredOrExpression)
  | is =>
    match comprehension? is with
    | some (head, clauses) => do return .ofForm .generator ((← named head) :: (← clauses))
    | none =>
      if hasComma is then do return .ofForm .tuple (← (← elements is).mapM starredOrNamed)
      else named is

def squareOperand (is : List Item) : Option Expr :=
  if is.isEmpty then some (.ofForm .list [])
  else match comprehension? is with
    | some (head, clauses) => do return .ofForm .listOf ((← named head) :: (← clauses))
    | none => do return .ofForm .list (← (← elements is).mapM starredOrNamed)

/-- A key and a value, or a map after two stars. -/
def pair? (is : List Item) : Option (List Expr) :=
  match is with
  | .leaf (.punctuation .doubleStar) :: rest => (arithmetic rest).map ([·])
  | is => do
    let (key, value) ← breakColon 0 is
    return [← expression key, ← expression value]

/-- Whether an element of a group in braces is an entry. -/
def isEntry (is : List Item) : Bool :=
  (is.head?.map (Item.isPunctuation .doubleStar)).getD false || (breakColon 0 is).isSome

def braceOperand (is : List Item) : Option Expr :=
  if is.isEmpty then some (.ofForm .dict [])
  else match comprehension? is with
    | some (head, clauses) => do
      let parts ← clauses
      match breakColon 0 head with
      | some (key, value) => return .ofForm .dictOf ((← expression key) :: (← expression value) :: parts)
      | none => return .ofForm .setOf ((← named head) :: parts)
    | none => do
      let parts ← elements is
      if parts.any isEntry then return .ofForm .dict (← parts.mapM pair?).flatten
      else return .ofForm .set (← parts.mapM starredOrNamed)

inductive Argument where
  | positional (e : Expr)
  | starred (e : Expr)
  | keyword
  | doubleStarred

def argument? : List Item → Option Argument
  | .leaf (.punctuation .star) :: is => (expression is).map fun e => .starred (.ofForm .starred [e])
  | .leaf (.punctuation .doubleStar) :: is => (expression is).map fun _ => .doubleStarred
  | .leaf (.name _) :: .leaf (.punctuation .assign) :: is => (expression is).map fun _ => .keyword
  | is => (named is).map .positional

/-- Positional arguments come before keywords, and these before maps after two stars. -/
inductive ArgumentState where
  | positional | keywords | maps

def ArgumentState.next : ArgumentState → Argument → Option ArgumentState
  | .positional, .positional _ | .positional, .starred _ => some .positional
  | .positional, .keyword | .keywords, .keyword | .keywords, .starred _ => some .keywords
  | .positional, .doubleStarred | .keywords, .doubleStarred | .maps, .doubleStarred => some .maps
  | .maps, .keyword => some .maps
  | .keywords, .positional _ | .maps, .positional _ | .maps, .starred _ => none

def Argument.positional? : Argument → Option Expr
  | .positional e | .starred e => some e
  | _ => none

def arguments (is : List Item) : Option Arguments :=
  if is.isEmpty then some ⟨[], false⟩
  else match comprehension? is with
    | some (head, clauses) => do return ⟨[.ofForm .generator ((← named head) :: (← clauses))], false⟩
    | none => do
      let as ← (← elements is).mapM argument?
      let _ ← as.foldlM ArgumentState.next .positional
      return ⟨as.filterMap Argument.positional?, as.any (·.positional?.isNone)⟩

/-- A part of a subscript: up to three bounds, or an expression. -/
def subscriptPart (is : List Item) : Option (List Expr) :=
  match is with
  | .leaf (.punctuation .star) :: rest => (expression rest).map ([·])
  | is =>
    match splitOutside (Item.isPunctuation .colon) 0 is with
    | [_] => (named is).map ([·])
    | bounds =>
      if bounds.length ≤ 3 then (bounds.filter (!·.isEmpty)).mapM expression else none

def subscript (is : List Item) : Option Nat := do
  let parts ← (← elements is).mapM subscriptPart
  return Expr.depths parts.flatten + 1

def roundTarget (is : List Item) : Bool :=
  is.isEmpty || (if hasComma is then targets is else target is)

def forms (b : Bracket) (is : List Item) : Forms :=
  match b with
  | .round => ⟨b, roundOperand is, arguments is, none, roundTarget is⟩
  | .square => ⟨b, squareOperand is, none, subscript is, is.isEmpty || targets is⟩
  | .brace => ⟨b, braceOperand is, none, none, false⟩

/-- An expression, or a tuple without brackets. -/
def top (is : List Item) : Option Expr :=
  if hasComma is then do return .ofForm .tuple (← (← elements is).mapM expression) else expression is

end Grammar

namespace Item

mutual

/-- The item of a tree. The sources in a formatted literal have to pass `accepts`. -/
def ofTree (accepts : List Char → Bool) : Tree → Option Item
  | .leaf l => match l with
    | .formatted sources => if sources.all accepts then some (.leaf l) else none
    | l => some (.leaf l)
  | .group b ts => (ofTrees accepts ts).map fun is => .group (Grammar.forms b is)

def ofTrees (accepts : List Char → Bool) : List Tree → Option (List Item)
  | [] => some []
  | t :: ts => do return (← ofTree accepts t) :: (← ofTrees accepts ts)

end

end Item

namespace Expr

/-- Whether a source inside a formatted literal is an expression; `fuel` bounds the nesting of such
literals. -/
def accepts : Nat → List Char → Bool
  | 0, _ => false
  | fuel + 1, source =>
    match (Line.lexemes 0 (Line.unify ('(' :: source ++ [')']))).bind Tree.ofLexemes with
    | some [t] => match Item.ofTree (accepts fuel) t with
      | some (.group forms) => forms.operand.isSome
      | _ => false
    | _ => false

/-- The expression that a text is. -/
def ofChars? (cs : List Char) : Option Expr :=
  (((Line.ofChars cs).bind Tree.ofLexemes).bind (Item.ofTrees (accepts cs.length))).bind Grammar.top

end Expr

end TransactionRules.Expression
