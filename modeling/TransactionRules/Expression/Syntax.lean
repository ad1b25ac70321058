import TransactionRules.Expression.Lexeme

/-!
# Syntax trees and bracket trees

`Expr` is an expression of the language. Of the forms that no condition may use, only the kind and
the nesting depth are kept. `Tree` is a lexeme or what stands between two brackets that match.
-/

namespace TransactionRules.Expression

inductive Connective where
  | and | or
deriving DecidableEq, Repr

inductive PrefixOp where
  | not | minus | plus | invert
deriving DecidableEq, Repr

/-- What a comparison chain may relate its operands by. -/
inductive Relation where
  | eq | ne | lt | le | gt | ge | in | notIn | is | isNot
deriving DecidableEq, Repr

inductive Constant where
  | null
  | bool (b : Bool)
  | int (n : Nat)
  | float (x : Float)
  | text (s : String)
  | bytes (cs : List Char)
  | imaginary (x : Float)
  | ellipsis
deriving Repr

/-- The forms that no condition may use. -/
inductive Form where
  | tuple | list | set | dict | lambda | conditional | generator | listOf | setOf | dictOf
  | await | starred | subscript | binary | formatted | named | yield | yieldFrom
deriving DecidableEq, Repr

inductive Expr where
  | name (s : String)
  | constant (c : Constant)
  | connective (op : Connective) (operands : List Expr)
  | prefixed (op : PrefixOp) (operand : Expr)
  | chain (first : Expr) (rest : List (Relation × Expr))
  | call (function : Expr) (arguments : List Expr) (keywords : Bool)
  | attribute (target : Expr) (name : String)
  | other (form : Form) (depth : Nat)
deriving Inhabited

namespace Expr

mutual

/-- The number of nodes on the longest way down. -/
def depth : Expr → Nat
  | .name _ | .constant _ => 1
  | .connective _ es => depths es + 1
  | .prefixed _ e => e.depth + 1
  | .chain e rest => max e.depth (chainDepths rest) + 1
  | .call f es _ => max f.depth (depths es) + 1
  | .attribute e _ => e.depth + 1
  | .other _ d => d

def depths : List Expr → Nat
  | [] => 0
  | e :: es => max e.depth (depths es)

def chainDepths : List (Relation × Expr) → Nat
  | [] => 0
  | (_, e) :: rest => max e.depth (chainDepths rest)

end

/-- A form over its parts. -/
def ofForm (form : Form) (parts : List Expr) : Expr := .other form (depths parts + 1)

/-- Expressions that are nested more deeply are refused. -/
def depthLimit : Nat := 1000

/-- The prefix operators before an operand. Beyond the depth limit their number does not matter. -/
def prefixedBy (ops : List PrefixOp) (e : Expr) : Expr :=
  (ops.take (depthLimit + 1)).foldr .prefixed e

end Expr

inductive Tree where
  | leaf (l : Lexeme)
  | group (b : Bracket) (items : List Tree)

namespace Tree

/-- Reads lexemes inside the open brackets `stack`, each with the trees before it; `current` are the
trees since the innermost one. Both are reversed. -/
def build : List (Bracket × List Tree) → List Tree → List Lexeme → Option (List Tree)
  | [], current, [] => some current.reverse
  | _ :: _, _, [] => none
  | stack, current, .opening b :: ls => build ((b, current) :: stack) [] ls
  | (b, outer) :: stack, current, .closing c :: ls =>
    if b = c then build stack (.group b current.reverse :: outer) ls else none
  | [], _, .closing _ :: _ => none
  | stack, current, l :: ls => build stack (.leaf l :: current) ls

/-- The trees of a line whose brackets match. -/
def ofLexemes (ls : List Lexeme) : Option (List Tree) := build [] [] ls

end Tree

end TransactionRules.Expression
