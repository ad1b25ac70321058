import TransactionRules.Value.Order

/-!
# Events

What the library does that an operator may want to see, each with its severity, the part of the
library that reports it, and its wording.
-/

namespace TransactionRules

inductive Severity where
  | debug | info | warning
deriving DecidableEq, Repr

namespace Severity

def label : Severity → String
  | .debug => "DEBUG"
  | .info => "INFO"
  | .warning => "WARNING"

/-- Levels are numbers, so that other levels can stand between them. -/
def level : Severity → Nat
  | .debug => 10
  | .info => 20
  | .warning => 30

end Severity

inductive Event where
  | conditionCompiled (normal : String)
  | setReused (customer : String)
  /-- `replaced` tells whether an older set of the customer's rules is replaced. -/
  | setRebuilding (customer : String) (replaced : Bool)
  | setBuilt (customer : String) (rules : Nat)
  | evaluationFailed (rule transaction : Value) (cause : Fault)
  | ruleFired (clause : String) (salience transaction category : Value)
  | rulesFired (fired transactions : Nat) (customer : String)
  | ruleMatched (rule transaction category : Value)
  | transactionClassified (transaction : Value) (customer : String) (category : Value)
  | batchClassified (transactions : Nat) (customer : String) (unmatched : Nat)
  | sessionOpened (customer : String)
  | engineChosen (name : String)
  | databaseOpened (path : String)
  | rulesSeeded (count : Nat)
deriving Repr

namespace Event

def severity : Event → Severity
  | .setBuilt .. | .engineChosen _ | .rulesSeeded _ => .info
  | .evaluationFailed .. | .sessionOpened _ => .warning
  | _ => .debug

/-- The part of the library that reports an event. -/
def source : Event → String
  | .conditionCompiled _ => "engine.compiler"
  | .setReused _ | .setRebuilding .. | .setBuilt .. => "engine.cache"
  | .evaluationFailed .. => "engine.base"
  | .ruleFired .. | .rulesFired .. => "engine.forward_chaining"
  | .ruleMatched .. => "engine.priority_expression"
  | .transactionClassified .. | .batchClassified .. | .sessionOpened _ => "services.classifier"
  | .engineChosen _ => "engine.factory"
  | .databaseOpened _ => "database.connection"
  | .rulesSeeded _ => "database.seed"

/-- A salience as a whole number: a fraction is cut off. -/
def wholeText : Value → String
  | .bool b => if b then "1" else "0"
  | .float x => match Exact.ofFloat x with
    | .finite m e => toString (Exact.truncated m e)
    | _ => FloatStyle.display.write x
  | v => v.plain

/-- The wording; how long a build took is known outside the library only. -/
def message (elapsed : String) : Event → String
  | .conditionCompiled normal => "Compiled condition: " ++ normal
  | .setReused customer => s!"Using cached rule set for customer: {customer}"
  | .setRebuilding customer replaced =>
    let reason := if replaced then "rules changed" else "first use"
    s!"Rebuilding rule set for customer {customer} ({reason})"
  | .setBuilt customer rules =>
    s!"Built rule set for customer {customer}: {rules} active rules in {elapsed} ms"
  | .evaluationFailed rule transaction cause =>
    let failure := s!"{cause.label}: {cause.message}"
    s!"Rule {rule.plain} failed on transaction {transaction.plain}: {failure}"
  | .ruleFired clause salience transaction category =>
    let target := s!"on transaction {transaction.plain} -> {category.plain}"
    s!"Fired '{clause}' (salience {wholeText salience}) {target}"
  | .rulesFired fired transactions customer =>
    s!"Fired {fired} rules over {transactions} transactions for customer {customer}"
  | .ruleMatched rule transaction category =>
    s!"Rule '{rule.plain}' matched transaction {transaction.plain} -> {category.plain}"
  | .transactionClassified transaction customer category =>
    s!"Transaction {transaction.plain} for customer {customer} classified as {category.plain}"
  | .batchClassified transactions customer unmatched =>
    s!"Classified {transactions} transactions for customer {customer} ({unmatched} unmatched)"
  | .sessionOpened customer =>
    s!"Direct session access for customer {customer}; use classify or classify_batch instead"
  | .engineChosen name => s!"Using {name} engine"
  | .databaseOpened path => s!"Opened database {path}"
  | .rulesSeeded count => s!"Seeded {count} demo rules"

/-- The events of at least a level, as lines. -/
def lines (level : Nat) (elapsed : String) (events : List Event) : List String :=
  (events.filter (level ≤ ·.severity.level)).map fun e =>
    s!"{e.severity.label} {e.source}: {e.message elapsed}"

end Event

end TransactionRules
