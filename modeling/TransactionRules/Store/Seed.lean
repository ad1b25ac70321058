import TransactionRules.Settings.Basic
import TransactionRules.Store.Rules

/-!
# Seeding

A seed plan lists categories and rules. Seeding adds those that are not there yet: categories are
known by their names, rules by their names within a customer. What was added before an entry that
cannot be added stays.
-/

namespace TransactionRules

inductive SeedError where
  | shape (e : ShapeError)
  | store (e : StoreError)
  | unknownCategory (rule category : Value)
deriving Repr

def SeedError.message : SeedError → String
  | .shape e => e.message
  | .store e => e.message
  | .unknownCategory rule category =>
    s!"Seed rule '{rule.plain}' references unknown category '{category.plain}'"

/-- Work on a store that may stop half way. -/
abbrev Seeding (α : Type) := ExceptT SeedError (StateM Store) α

namespace Seeding

variable {α : Type}

def shape (r : Except ShapeError α) : Seeding α :=
  ExceptT.mk (pure (r.mapError .shape))

/-- An operation of the store. -/
def store (op : Store → Store × Except StoreError α) : Seeding α := ExceptT.mk fun s =>
  let (s, r) := op s
  (r.mapError .store, s)

/-- A value that can be looked up by. -/
def key (v : Value) : Seeding Value :=
  if v.isHashable then return v else throw (.shape (.notHashable v.kind))

/-- The entry under a key, or `other`. -/
def entry (v : Value) (name : String) (other : Value) : Seeding Value :=
  return (← shape (v.get? name)).getD other

/-- The category of an entry, which is added unless its name is there. -/
def category (v : Value) : Seeding Category := do
  let name ← shape (v.require "name")
  match ← store (·.categoryNamed? name) with
  | some c => return c
  | none =>
    let description ← entry v "description" (.text "")
    store (·.saveCategory { name := name, description := description })

/-- Adds the rule of an entry, and tells whether it was not there. -/
def rule (known : List Category) (v : Value) : Seeding Bool := do
  let customer ← shape (v.require "customer_id")
  let present ← store (·.rulesOf customer)
  let name ← key (← shape (v.require "name"))
  if present.any (·.name.equal name) then return false
  let named ← key (← shape (v.require "category"))
  let category ← match known.reverse.find? (·.name.equal named) with
    | some c => pure (some c)
    | none => store (·.categoryNamed? named)
  match category with
  | none => throw (.unknownCategory name named)
  | some c =>
    let condition ← shape (v.require "condition")
    let priority ← entry v "priority" (.int 0)
    let active ← entry v "active" (.bool true)
    let _ ← store (·.saveRule
      { name := name, condition := condition, priority := priority, customer := customer
        category := some c, active := active })
    return true

/-- Adds what a plan lists, and counts the rules that were added. -/
def plan (v : Value) : Seeding Nat := do
  let known ← (← shape (← entry v "categories" (.list [])).elements).mapM category
  let added ← (← shape (← entry v "rules" (.list [])).elements).mapM (rule known)
  return added.count true

end Seeding

namespace Store

/-- Seeds a store by a plan. -/
def seed (s : Store) (plan : Value) : Store × List Event × Except SeedError Nat :=
  let (r, after) := (Seeding.plan plan).run.run s
  let done := match r with
    | .ok count => [.rulesSeeded count]
    | .error _ => []
  (after, s.reports after ++ done, r)

end Store

end TransactionRules
