import TransactionRules.Category
import TransactionRules.Transaction

/-!
# Rules

A rule belongs to a customer and maps a condition to a category. Rules come from callers and from
the store as they are, so every field holds a value that its use checks.
-/

namespace TransactionRules

structure Rule where
  name : Value
  condition : Value
  priority : Value
  customer : Value
  category : Option Category := none
  active : Value := .bool true
  id : Value := .null
deriving Inhabited, Repr

namespace Rule

/-- A rule inside a message. -/
def shown (r : Rule) : String :=
  let state := if r.active.truthy then "" else ", inactive"
  s!"Rule({r.id.plain}, {r.name.shown}, priority={r.priority.plain}{state})"

/-- Rules are the same if all their fields are. -/
def same (a b : Rule) : Bool :=
  let categories := match a.category, b.category with
    | none, none => true
    | some c, some d => c.same d
    | _, _ => false
  a.name.equal b.name && a.condition.equal b.condition && a.priority.equal b.priority &&
    a.customer.equal b.customer && categories && a.active.equal b.active && a.id.equal b.id

/-- The rules that take part in classification. -/
def activeOf (rules : List Rule) : List Rule := rules.filter (·.active.truthy)

end Rule

namespace Transaction

/-- At most `n` leading characters or items. -/
def leading (n : Nat) : Value → Except Fault Value
  | .text s => .ok (.text (String.ofList (s.toList.take n)))
  | .list items => .ok (.list (items.take n))
  | v => .error (.notSliceable v.kind)

/-- A transaction inside a message: the merchant is cut off behind 30 characters. -/
def shown (t : Transaction) : Except Fault String := do
  let merchant ← leading 30 (t.merchant.orElse (.text ""))
  let fields := s!"{merchant.plain}, {t.merchantType.plain}, {t.amount.plain}"
  return s!"Transaction({t.id.plain}, {fields}, category={t.category.plain})"

/-- Transactions are the same if all their fields are. -/
def same (a b : Transaction) : Bool :=
  a.merchant.equal b.merchant && a.merchantType.equal b.merchantType && a.amount.equal b.amount &&
    a.location.equal b.location && a.category.equal b.category && a.id.equal b.id

end Transaction

end TransactionRules
