import TransactionRules.RuleSet.Compiler
import TransactionRules.Order.Insertion

/-!
# The order of compiled rules

Every policy tries rules in one order: by priority, the highest first, then by id.
-/

namespace TransactionRules.CompiledRule

/-- Rules by their sort keys. Every key is found before any two are compared. -/
def inOrder (rules : List CompiledRule) : Except Fault (List CompiledRule) := do
  let keyed ← rules.mapM fun r => do return (← r.sortKey, r)
  let sorted ← Insertion.sort (fun a b => Value.orderedItems .lt a.1 b.1) keyed
  return sorted.map (·.2)

end TransactionRules.CompiledRule
