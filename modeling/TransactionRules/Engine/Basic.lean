import TransactionRules.Chaining.Session
import TransactionRules.FirstMatch

/-!
# Engines and rule sets

An engine is a policy for several matching rules. A rule set is the executable form of the active
rules of a customer: the compiled rules in order, and the plan that the engine made of them. An
engine applies its own plans only.
-/

namespace TransactionRules

inductive Engine where
  /-- Rules fire in order of priority, and the last to fire sets the category. -/
  | forwardChaining
  /-- The first matching rule by priority sets the category. -/
  | firstMatch
deriving DecidableEq, Inhabited, Repr

/-- What an engine makes of compiled rules. -/
inductive Plan where
  | program (p : Program)
  | ordered (rules : List CompiledRule)
deriving Inhabited, Repr

structure RuleSet where
  customer : String
  fingerprint : String
  rules : List CompiledRule
  plan : Plan
  /-- How many sets its cache had built before it. -/
  serial : Nat
deriving Inhabited, Repr

inductive EngineError where
  | foreignSet (customer engine : String)
  | noSessions (engine : String)
deriving DecidableEq, Repr

namespace EngineError

def message : EngineError → String
  | .foreignSet customer engine =>
    s!"Rule set for customer '{customer}' was not built by the {engine} engine"
  | .noSessions engine => s!"The {engine} engine does not support direct session access"

end EngineError

namespace RuleSet

/-- A rule set inside a message. -/
def shown (s : RuleSet) : String :=
  let start := (s.fingerprint.take 12).toString
  s!"CompiledRuleSet({quoted s.customer}, {s.rules.length} rules, fingerprint={start})"

def program? (s : RuleSet) : Option Program :=
  match s.plan with
  | .program p => some p
  | .ordered _ => none

end RuleSet

namespace Engine

def name : Engine → String
  | .forwardChaining => "forward_chaining"
  | .firstMatch => "priority_expression"

def ofName? : String → Option Engine
  | "forward_chaining" => some .forwardChaining
  | "priority_expression" => some .firstMatch
  | _ => none

theorem ofName?_name (e : Engine) : ofName? e.name = some e := by cases e <;> rfl

/-- The class of engines that an engine belongs to. -/
def className : Engine → String
  | .forwardChaining => "ForwardChainingEngine"
  | .firstMatch => "PriorityExpressionEngine"

/-- An engine inside a message. -/
def shown (e : Engine) : String := e.className ++ "()"

def supportsSessions : Engine → Bool
  | .forwardChaining => true
  | .firstMatch => false

/-- The plan of an engine for the compiled rules of a customer. -/
def plan (e : Engine) (customer : String) (rules : List CompiledRule) : Except Fault Plan :=
  match e with
  | .forwardChaining => (Program.ofRules customer rules).map .program
  | .firstMatch => (CompiledRule.inOrder rules).map .ordered

def openSession (e : Engine) (set : RuleSet) : Except EngineError Session :=
  match e with
  | .firstMatch => .error (.noSessions e.name)
  | .forwardChaining =>
    match set.plan with
    | .program p => .ok (.ofProgram p)
    | .ordered _ => .error (.foreignSet set.customer e.name)

/-- Inserts the transactions at some positions into a session. -/
def insertAll (s : Session) (pool : Pool) : List Nat → Except SessionError (Session × List Event)
  | [] => .ok (s, [])
  | position :: rest => do
    let (s, _, events) ← s.insert pool position
    let (s, later) ← insertAll s pool rest
    return (s, events ++ later)

/-- Runs a program over the transactions at some positions, in one session of their own. -/
def chain (p : Program) (pool : Pool) (batch : List Nat) : Except SessionError Firings := do
  let (s, events) ← insertAll (.ofProgram p) pool batch
  let firings ← s.fireAll pool
  return { firings with
    session := firings.session.dispose
    events := events ++ firings.events ++
      [.rulesFired firings.fired.length batch.length p.customer] }

/-- Classifies the transactions at some positions; nothing but their categories changes. -/
def apply (e : Engine) (set : RuleSet) (pool : Pool) (batch : List Nat) :
    Except EngineError (Pool × List Event) :=
  match e, set.plan with
  | .forwardChaining, .program p =>
    match chain p pool batch with
    | .ok firings => .ok (firings.pool, firings.events)
    | .error _ => .ok (pool, [])
  | .firstMatch, .ordered rules => .ok (FirstMatch.apply rules pool batch)
  | e, _ => .error (.foreignSet set.customer e.name)

end Engine

end TransactionRules
