import TransactionRules.Condition.Basic
import TransactionRules.Rule.Basic
import TransactionRules.Event

/-!
# Compiling rules

A compiler keeps the predicate of every condition that it has compiled under the condition's normal
form, so conditions that differ in spacing alone share one predicate. A compiled rule is a rule
together with its predicate.
-/

namespace TransactionRules

/-- The executable form of a condition; `number` says which of a compiler's predicates it is. -/
structure Predicate where
  number : Nat
  condition : Condition
deriving Inhabited, Repr

structure CompiledRule where
  id : Value
  name : Value
  priority : Value
  expression : Value
  categoryId : Value
  categoryName : Value
  predicate : Predicate
deriving Inhabited, Repr

namespace CompiledRule

/-- Highest priority first, then ascending ids; a rule without an id has the id zero here. -/
def sortKey (r : CompiledRule) : Except Fault (List Value) := do
  return [← r.priority.negate, if r.id.isNull then .int 0 else r.id]

/-- The outcome of a condition on a transaction; one that fails does not hold. -/
def outcome (r : CompiledRule) (t : Transaction) : Except Fault Bool :=
  (r.predicate.condition.eval t).map Value.truthy

/-- Whether the rule matches the transaction. -/
def holds (r : CompiledRule) (t : Transaction) : Bool :=
  match r.outcome t with
  | .ok b => b
  | .error _ => false

/-- What is reported when the rule is tried on the transaction. -/
def warnings (r : CompiledRule) (t : Transaction) : List Event :=
  match r.outcome t with
  | .ok _ => []
  | .error cause => [.evaluationFailed r.id t.id cause]

end CompiledRule

/-- Why a rule cannot be compiled. -/
inductive RuleError where
  | inactive (id : Value)
  | noCategory (id condition : Value)
  | badCondition (id condition : Value) (e : ConditionError)
  /-- The condition is not a text. -/
  | fault (f : Fault)
deriving Repr

namespace RuleError

def failureText (id condition : Value) (reason : String) : String :=
  s!"Rule {id.plain} failed to compile: {reason} (condition: {condition.shown})"

def message : RuleError → String
  | .inactive id => s!"Rule {id.plain} is inactive and cannot be compiled"
  | .noCategory id condition => failureText id condition "rule has no category"
  | .badCondition id condition e => failureText id condition e.message
  | .fault f => f.message

end RuleError

/-- Predicates under the normal forms of their conditions, in the order of their numbers. -/
structure Compiler where
  entries : List (String × Condition) := []
  compileCount : Nat := 0
deriving Inhabited, Repr

namespace Compiler

def size (c : Compiler) : Nat := c.entries.length

def shown (c : Compiler) : String := s!"ConditionCompiler({c.size} cached predicates)"

/-- The predicate of a normal form. -/
def lookup? (c : Compiler) (normal : String) : Option Predicate :=
  match c.entries.findIdx? (·.1 == normal) with
  | none => none
  | some i => c.entries[i]?.map fun entry => ⟨i, entry.2⟩

/-- The compiler and the predicate after a condition is asked for, and what is reported. -/
def compile (c : Compiler) (text : String) :
    Except ConditionError (Compiler × Predicate × List Event) :=
  match normalForm text with
  | .error e => .error (.normal e)
  | .ok normal =>
    match c.lookup? normal with
    | some p => .ok (c, p, [])
    | none => do
      let condition ← Condition.ofNormal normal
      return (⟨c.entries ++ [(normal, condition)], c.compileCount + 1⟩, ⟨c.size, condition⟩,
        [.conditionCompiled normal])

/-- A rule must be active, have a category and have a well-formed condition. -/
def compileRule (c : Compiler) (r : Rule) :
    Except RuleError (Compiler × CompiledRule × List Event) :=
  if !r.active.truthy then .error (.inactive r.id)
  else match r.category with
    | none => .error (.noCategory r.id r.condition)
    | some category =>
      match conditionText r.condition with
      | .error f => .error (.fault f)
      | .ok text =>
        match c.compile text with
        | .error e => .error (.badCondition r.id r.condition e)
        | .ok (c, predicate, events) =>
          .ok (c, ⟨r.id, r.name, r.priority, r.condition, category.id, category.name, predicate⟩,
            events)

/-- Compiles rules in order up to the first that cannot be compiled; what was compiled before it
stays in the compiler. -/
def compileRules (c : Compiler) : List Rule →
    Compiler × List Event × Except RuleError (List CompiledRule)
  | [] => (c, [], .ok [])
  | r :: rest =>
    match c.compileRule r with
    | .error e => (c, [], .error e)
    | .ok (c, compiled, events) =>
      let (c, later, result) := c.compileRules rest
      (c, events ++ later, result.map (compiled :: ·))

end Compiler

end TransactionRules
