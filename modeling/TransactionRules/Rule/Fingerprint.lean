import TransactionRules.Rule.Basic
import TransactionRules.Order.Insertion
import TransactionRules.Digest.Sha256
import TransactionRules.Json.Writer

/-!
# Fingerprints

A text that tells two sets of rules apart by content: the digest of what compilation reads of each
rule, in an order that does not depend on the order of the rules.
-/

namespace TransactionRules

namespace Rule

/-- What compilation reads of a rule. -/
structure Row where
  id : Value
  condition : Value
  priority : Value
  categoryId : Value
  categoryName : Value
deriving Repr

def row (r : Rule) : Row where
  id := r.id
  condition := r.condition
  priority := r.priority
  categoryId := (r.category.map (·.id)).getD .null
  categoryName := (r.category.map (·.name)).getD .null

namespace Row

/-- Rows are ordered by id, those without one last, then by condition and priority. -/
def key (r : Row) : List Value :=
  [.bool r.id.isNull, r.id.orElse (.int 0), r.condition, r.priority]

def before (a b : Row) : Except Fault Bool := Value.orderedItems .lt a.key b.key

def value (r : Row) : Value := .list [r.id, r.condition, r.priority, r.categoryId, r.categoryName]

end Row

/-- The text that is digested. -/
def payload (rows : List Row) : String := Json.write .compact (.list (rows.map Row.value))

def fingerprint (rules : List Rule) : Except Fault String := do
  let rows ← Insertion.sort Row.before (rules.map row)
  return Sha256.ofText (payload rows)

end Rule

end TransactionRules
