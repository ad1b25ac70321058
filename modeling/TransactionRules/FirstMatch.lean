import TransactionRules.RuleSet.Order

/-!
# First match

The policy that tries rules in order and lets the first that matches set the category. Every
transaction is classified on its own.
-/

namespace TransactionRules.FirstMatch

/-- The first rule that matches. -/
def rule? (rules : List CompiledRule) (t : Transaction) : Option CompiledRule :=
  rules.find? (·.holds t)

/-- What is reported when a transaction is classified: the rules that failed before the match. -/
def events (rules : List CompiledRule) (t : Transaction) : List Event :=
  match rules with
  | [] => []
  | r :: rest =>
    if r.holds t then [.ruleMatched r.name t.id r.categoryName]
    else r.warnings t ++ events rest t

/-- Classifies the transactions at some positions, one after the other. -/
def apply (rules : List CompiledRule) (pool : Pool) : List Nat → Pool × List Event
  | [] => (pool, [])
  | position :: rest =>
    let t := pool.get position
    let next := match rule? rules t with
      | some r => pool.setCategory position r.categoryName
      | none => pool
    let (final, later) := apply rules next rest
    (final, events rules t ++ later)

end TransactionRules.FirstMatch
