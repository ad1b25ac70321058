import TransactionRules.Engine.Registry
import TransactionRules.RuleSet.Cache
import TransactionRules.Store.Rules
import TransactionRules.Store.Transactions

/-!
# The classifier

Classifies transactions with the stored rules of a customer. The rule sets come from a cache, which
is made when it is first needed, around the engine that the classifier was given or else the default
engine. Nothing is saved here.
-/

namespace TransactionRules

inductive ClassifierError where
  | store (e : StoreError)
  | rule (e : RuleError)
  | engine (e : EngineError)
  | registry (e : RegistryError)
deriving Repr

def ClassifierError.message : ClassifierError → String
  | .store e => e.message
  | .rule e => e.message
  | .engine e => e.message
  | .registry e => e.message

structure Classifier where
  store : Store
  registry : Registry := {}
  engine : Option Engine := none
  cache : Option (RuleSetCache Rule) := none
  compiler : Compiler := {}
deriving Inhabited

namespace Classifier

/-- A classifier whose cache is there from the start. -/
def ofEngine (store : Store) (registry : Registry) (engine : Engine) : Classifier :=
  { store := store, registry := registry, cache := some { engine := engine } }

/-- A classifier inside a message. -/
def shown (c : Classifier) : String :=
  let engine := match c.cache with
    | some cache => cache.engine.name
    | none => "lazy"
  s!"TransactionClassifier(engine={engine})"

/-- The cache, which is made if there is none. -/
def withCache (c : Classifier) (around : Surroundings) :
    Classifier × List Event × Except ClassifierError (RuleSetCache Rule) :=
  match c.cache, c.engine with
  | some cache, _ => (c, [], .ok cache)
  | none, some engine =>
    let cache : RuleSetCache Rule := { engine := engine }
    ({ c with cache := some cache }, [], .ok cache)
  | none, none =>
    let (registry, events, r) := c.registry.create around none
    let c := { c with registry := registry }
    match r with
    | .error e => (c, events, .error (.registry e))
    | .ok engine =>
      let cache : RuleSetCache Rule := { engine := engine }
      ({ c with cache := some cache }, events, .ok cache)

/-- The rules of a customer as the store has them now. -/
def readRules (c : Classifier) (customer : String) :
    Classifier × List Event × Except ClassifierError (List Rule) :=
  let (store, r) := c.store.rulesOf (.text customer)
  ({ c with store := store }, c.store.reports store, r.mapError .store)

/-- The rule set of a customer from a cache, which is kept. -/
def ruleSet (c : Classifier) (cache : RuleSetCache Rule) (customer : String) :
    Classifier × List Event × Except ClassifierError RuleSet :=
  match c.readRules customer with
  | (c, events, .error e) => (c, events, .error e)
  | (c, events, .ok stored) =>
    let answer := cache.get c.compiler id customer stored
    ({ c with cache := some answer.cache, compiler := answer.compiler }, events ++ answer.events,
      answer.result.mapError .rule)

/-- Runs the engine on the transactions at some positions. -/
def run (c : Classifier) (around : Surroundings) (pool : Pool) (batch : List Nat)
    (customer : String) : Classifier × Pool × List Event × Except ClassifierError Unit :=
  match c.withCache around with
  | (c, made, .error e) => (c, pool, made, .error e)
  | (c, made, .ok cache) =>
    match c.ruleSet cache customer with
    | (c, events, .error e) => (c, pool, made ++ events, .error e)
    | (c, events, .ok set) =>
      match cache.engine.apply set pool batch with
      | .error e => (c, pool, made ++ events, .error (.engine e))
      | .ok (pool, fired) => (c, pool, made ++ events ++ fired, .ok ())

/-- Classifies the transaction at a position. -/
def classify (c : Classifier) (around : Surroundings) (pool : Pool) (position : Nat)
    (customer : String) : Classifier × Pool × List Event × Except ClassifierError Unit :=
  match c.run around pool [position] customer with
  | (c, pool, events, .error e) => (c, pool, events, .error e)
  | (c, pool, events, .ok ()) =>
    let t := pool.get position
    (c, pool, events ++ [.transactionClassified t.id customer t.category], .ok ())

/-- Classifies the transactions at some positions, with one look at the rules for all of them. -/
def classifyBatch (c : Classifier) (around : Surroundings) (pool : Pool) (batch : List Nat)
    (customer : String) : Classifier × Pool × List Event × Except ClassifierError Unit :=
  if batch.isEmpty then (c, pool, [], .ok ())
  else match c.run around pool batch customer with
    | (c, pool, events, .error e) => (c, pool, events, .error e)
    | (c, pool, events, .ok ()) =>
      let unmatched := batch.countP fun position => (pool.get position).category.isNull
      (c, pool, events ++ [.batchClassified batch.length customer unmatched], .ok ())

/-- The rules of a customer as last read; they are read if they never were. -/
def rulesFor (c : Classifier) (around : Surroundings) (customer : String) :
    Classifier × List Event × Except ClassifierError (List Rule) :=
  match c.withCache around with
  | (c, made, .error e) => (c, made, .error e)
  | (c, made, .ok cache) =>
    match cache.snapshot? customer with
    | some rules => (c, made, .ok rules)
    | none =>
      match c.readRules customer with
      | (c, events, .error e) => (c, made ++ events, .error e)
      | (c, events, .ok rules) =>
        ({ c with cache := some (cache.remember customer rules) }, made ++ events, .ok rules)

/-- Opens a session on the rules of a customer. -/
def openSession (c : Classifier) (around : Surroundings) (customer : String) :
    Classifier × List Event × Except ClassifierError Session :=
  match c.withCache around with
  | (c, made, .error e) => (c, made, .error e)
  | (c, made, .ok cache) =>
    if !cache.engine.supportsSessions then
      (c, made, .error (.engine (.noSessions cache.engine.name)))
    else
      let opening := made ++ [.sessionOpened customer]
      match c.ruleSet cache customer with
      | (c, events, .error e) => (c, opening ++ events, .error e)
      | (c, events, .ok set) =>
        (c, opening ++ events, (cache.engine.openSession set).mapError .engine)

end Classifier

end TransactionRules
