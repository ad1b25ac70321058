import TransactionRules.RuleSet.Order
import TransactionRules.Json.Writer

/-!
# Rule programs

A program is what forward chaining runs: one clause for each compiled rule of a customer, ordered
by salience. `Program.describe` renders it for readers; every text of a rule is quoted there, so no
text of a user can pass for a part of the program.
-/

namespace TransactionRules

/-- When the transaction matches the rule, its category is set and the rules are matched again. -/
structure Clause where
  name : String
  salience : Value
  order : Nat
  rule : CompiledRule
deriving Inhabited, Repr

structure Program where
  customer : String
  clauses : List Clause
deriving Inhabited, Repr

namespace Clause

/-- A clause as eight lines. -/
def lines (c : Clause) : List String := [
  "rule " ++ Json.quote true c.name,
  "    salience " ++ c.salience.plain,
  "    when",
  "        transaction matches " ++ Json.write .spaced c.rule.expression,
  "    then",
  "        set category " ++ Json.write .spaced c.rule.categoryName,
  "        update transaction",
  "end"]

def describe (c : Clause) : String := "\n".intercalate c.lines

end Clause

namespace Program

def size (p : Program) : Nat := p.clauses.length

/-- Clauses are numbered in the order of the rules. -/
def ofRules (customer : String) (rules : List CompiledRule) : Except Fault Program := do
  let ordered ← CompiledRule.inOrder rules
  return ⟨customer, ordered.zipIdx.map fun (r, i) =>
    ⟨s!"{customer}-{r.name.plain}", r.priority, i, r⟩⟩

/-- The clauses with an empty line between two. -/
def describe (p : Program) : String := "\n\n".intercalate (p.clauses.map Clause.describe)

end Program

end TransactionRules
