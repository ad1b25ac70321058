import TransactionRules.Engine.Basic
import TransactionRules.Rule.Fingerprint

/-!
# The cache of rule sets

One rule set for each customer, kept as long as the fingerprint of the customer's active rules stays
the same. `get` is handed the rules that the store holds now: it answers with the cached set or with
a new one, which replaces the old one only when all of it could be built. The cache also remembers
the rules as last read; `ρ` is how the store names a rule.
-/

namespace TransactionRules

structure RuleSetCache (ρ : Type) where
  engine : Engine
  entries : List (String × RuleSet) := []
  snapshots : List (String × List ρ) := []
  buildCount : Nat := 0
deriving Inhabited

/-- A cache and its compiler after a request, what is reported, and the answer. -/
structure CacheAnswer (ρ : Type) where
  cache : RuleSetCache ρ
  compiler : Compiler
  events : List Event
  result : Except RuleError RuleSet

namespace RuleSetCache

variable {ρ : Type}

/-- A list with `v` under `key`, in the place of what was there. -/
def put {α : Type} (key : String) (v : α) : List (String × α) → List (String × α)
  | [] => [(key, v)]
  | (k, w) :: rest => if k == key then (k, v) :: rest else (k, w) :: put key v rest

def size (c : RuleSetCache ρ) : Nat := c.entries.length

/-- The cached set, whether or not it is still valid. -/
def peek? (c : RuleSetCache ρ) (customer : String) : Option RuleSet := c.entries.lookup customer

def contains (c : RuleSetCache ρ) (customer : String) : Bool := (c.peek? customer).isSome

/-- The rules of a customer as last read. -/
def snapshot? (c : RuleSetCache ρ) (customer : String) : Option (List ρ) :=
  c.snapshots.lookup customer

/-- Remembers the rules that were read. -/
def remember (c : RuleSetCache ρ) (customer : String) (stored : List ρ) : RuleSetCache ρ :=
  { c with snapshots := put customer stored c.snapshots }

def orFault {α : Type} (r : Except Fault α) : Except RuleError α :=
  match r with
  | .ok a => .ok a
  | .error f => .error (.fault f)

/-- The set of compiled rules. -/
def assemble (c : RuleSetCache ρ) (customer fingerprint : String) (rules : List CompiledRule) :
    Except Fault RuleSet := do
  let ordered ← CompiledRule.inOrder rules
  return {
    customer := customer
    fingerprint := fingerprint
    rules := ordered
    plan := ← c.engine.plan customer ordered
    serial := c.buildCount }

/-- Builds the set of the active rules and puts it into the place of the old one. -/
def rebuild (c : RuleSetCache ρ) (compiler : Compiler) (customer fingerprint : String)
    (active : List Rule) : CacheAnswer ρ :=
  let start := [.setRebuilding customer (c.contains customer)]
  let (compiler, events, compiled) := compiler.compileRules active
  match compiled with
  | .error e => ⟨c, compiler, start ++ events, .error e⟩
  | .ok rules =>
    match c.assemble customer fingerprint rules with
    | .error f => ⟨c, compiler, start ++ events, .error (.fault f)⟩
    | .ok set =>
      ⟨{ c with entries := put customer set c.entries, buildCount := c.buildCount + 1 }, compiler,
        start ++ events ++ [.setBuilt customer rules.length], .ok set⟩

/-- The set of a customer's rules; `stored` is what the store has now, and `view` says what a name
of the store stands for. -/
def get (c : RuleSetCache ρ) (compiler : Compiler) (view : ρ → Rule) (customer : String)
    (stored : List ρ) : CacheAnswer ρ :=
  let c := c.remember customer stored
  let active := Rule.activeOf (stored.map view)
  match Rule.fingerprint active with
  | .error f => ⟨c, compiler, [], .error (.fault f)⟩
  | .ok fingerprint =>
    match c.peek? customer with
    | some set =>
      if set.fingerprint == fingerprint then ⟨c, compiler, [.setReused customer], .ok set⟩
      else c.rebuild compiler customer fingerprint active
    | none => c.rebuild compiler customer fingerprint active

/-- A cache inside a message. -/
def shown (c : RuleSetCache ρ) : String :=
  s!"CompiledRuleSetCache({c.size} customers, engine={c.engine.name})"

end RuleSetCache

end TransactionRules
