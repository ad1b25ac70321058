import TransactionRules.Transaction
import TransactionRules.Value.Order

/-!
# Summaries

What classifying a batch of transactions came to: how many have a category, and how many have each.
-/

namespace TransactionRules

structure Summary where
  customer : String
  engine : String
  transactions : List Transaction
deriving Repr

namespace Summary

/-- What a report says in the place of a category that does not hold. -/
def unclassifiedLabel : String := "Unclassified"

def total (s : Summary) : Nat := s.transactions.length

def classified (s : Summary) : Nat := s.transactions.countP (!·.category.isNull)

def unclassified (s : Summary) : Nat := s.total - s.classified

/-- One more of `v`; equal values are counted together, under the first of them. -/
def count (v : Value) : List (Value × Nat) → List (Value × Nat)
  | [] => [(v, 1)]
  | (w, n) :: rest => if w.equal v then (w, n + 1) :: rest else (w, n) :: count v rest

/-- The number of transactions for each category, most common first. -/
def byCategory (s : Summary) : Except Fault (List (Value × Nat)) := do
  let counts ← s.transactions.foldlM (fun counts t =>
    let label := t.category.orElse (.text unclassifiedLabel)
    if label.isHashable then .ok (count label counts) else .error (.notHashable label.kind)) []
  return counts.mergeSort fun a b => b.2 ≤ a.2

def text (s : Summary) : String :=
  "\n".intercalate [
    s!"Classification summary for {s.customer} ({s.engine}):",
    s!"  Transactions: {s.total}",
    s!"  Classified:   {s.classified}",
    s!"  Unclassified: {s.unclassified}"]

end Summary

end TransactionRules
