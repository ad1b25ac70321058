import TransactionRules.Chaining.Program

/-!
# Sessions

A session is the working memory of forward chaining. Facts are transactions of a pool; a rule whose
condition holds for a fact puts an activation on the agenda. `fireAll` takes activations off the
agenda, highest salience first, until there is none: one whose condition still holds fires, which
sets the category of the fact and matches the fact again with every rule that has not fired on it.
-/

namespace TransactionRules

/-- A clause that waits to be fired on a fact. A negative handle counts from the last fact. -/
structure Activation where
  salience : Value
  order : Nat
  handle : Int
deriving Inhabited, Repr

namespace Activation

/-- Highest salience first, then the order of the clauses, then the handle. -/
def before (a b : Activation) : Bool :=
  match a.salience.quantity?, b.salience.quantity? with
  | some x, some y =>
    match y.order x with
    | some .lt => true
    | some .eq => a.order < b.order || (a.order == b.order && a.handle < b.handle)
    | _ => false
  | _, _ => false

/-- An agenda with one more activation, in order. -/
def insert (a : Activation) : List Activation → List Activation
  | [] => [a]
  | b :: rest => if b.before a then b :: insert a rest else a :: b :: rest

end Activation

/-- Why a session refuses an operation. -/
inductive SessionError where
  | disposed
  | noFact
  | handleNotWhole (kind : ValueKind)
  | handleTooLarge
deriving DecidableEq, Repr

namespace SessionError

def message : SessionError → String
  | .disposed => "Session has been disposed"
  | .noFact => "list index out of range"
  | .handleNotWhole kind => s!"list indices must be integers or slices, not {kind.label}"
  | .handleTooLarge => "cannot fit 'int' into an index-sized integer"

end SessionError

structure Session where
  program : Program
  /-- The positions of the facts in the pool, in the order of their insertion. -/
  facts : List Nat := []
  agenda : List Activation := []
  /-- Clause and handle of what is on the agenda. -/
  queued : List (Nat × Int) := []
  /-- Clause and handle of what has fired. -/
  fired : List (Nat × Int) := []
  disposed : Bool := false
deriving Inhabited, Repr

/-- A session after firing: the facts as they are then, the clauses that fired with the positions
of the facts that they fired on, and what is reported. -/
structure Firings where
  session : Session
  pool : Pool
  fired : List (Nat × Nat) := []
  events : List Event := []
deriving Inhabited, Repr

namespace Session

def ofProgram (p : Program) : Session := { program := p }

/-- The position in the pool of the fact with a handle. -/
def fact? (s : Session) (handle : Int) : Option Nat :=
  if 0 ≤ handle then s.facts[handle.toNat]?
  else if 0 ≤ s.facts.length + handle then s.facts[(s.facts.length + handle).toNat]?
  else none

/-- Whether the clause waits for the fact, or has fired on it. -/
def isSettled (s : Session) (order : Nat) (handle : Int) : Bool :=
  s.fired.contains (order, handle) || s.queued.contains (order, handle)

def queue (s : Session) (c : Clause) (handle : Int) : Session :=
  { s with
    agenda := Activation.insert ⟨c.salience, c.order, handle⟩ s.agenda
    queued := (c.order, handle) :: s.queued }

/-- Matches a transaction with one clause. -/
def matchClause (t : Transaction) (handle : Int) (s : Session) (c : Clause) : Session :=
  if s.isSettled c.order handle then s
  else if c.rule.holds t then s.queue c handle
  else s

/-- Matches a fact with every clause that is not settled on it. -/
def matchFact (s : Session) (t : Transaction) (handle : Int) : Session :=
  s.program.clauses.foldl (matchClause t handle) s

/-- What is reported when a fact is matched. -/
def matchWarnings (s : Session) (t : Transaction) (handle : Int) : List Event :=
  (s.program.clauses.filter fun c => !s.isSettled c.order handle).flatMap (·.rule.warnings t)

/-- A new fact, its handle, and what is reported. -/
def insert (s : Session) (pool : Pool) (position : Nat) :
    Except SessionError (Session × Int × List Event) :=
  if s.disposed then .error .disposed
  else
    let t := pool.get position
    let handle : Int := s.facts.length
    let s := { s with facts := s.facts ++ [position] }
    .ok (s.matchFact t handle, handle, s.matchWarnings t handle)

/-- Matches a fact again, after a change from outside. -/
def update (s : Session) (pool : Pool) (handle : Int) : Except SessionError (Session × List Event) :=
  if s.disposed then .error .disposed
  else match s.fact? handle with
    | none => .error .noFact
    | some position =>
      let t := pool.get position
      .ok (s.matchFact t handle, s.matchWarnings t handle)

/-- The handle that a value is. -/
def handleOf : Value → Except SessionError Int
  | .int n => if -0x8000000000000000 ≤ n ∧ n < 0x8000000000000000 then .ok n else .error .handleTooLarge
  | .bool b => .ok (if b then 1 else 0)
  | v => .error (.handleNotWhole v.kind)

/-- `update` for a handle that a caller hands in. -/
def updateAt (s : Session) (pool : Pool) (handle : Value) :
    Except SessionError (Session × List Event) :=
  if s.disposed then .error .disposed
  else match handleOf handle with
    | .error e => .error e
    | .ok n => s.update pool n

/-- Takes the first activation off the agenda and fires it, if it still holds. -/
def step (f : Firings) (a : Activation) (rest : List Activation) : Firings :=
  let s := { f.session with
    agenda := rest
    queued := f.session.queued.erase (a.order, a.handle) }
  match s.program.clauses[a.order]?, s.fact? a.handle with
  | some c, some position =>
    let t := f.pool.get position
    if c.rule.holds t then
      let pool := f.pool.setCategory position c.rule.categoryName
      let t := { t with category := c.rule.categoryName }
      let s := { s with fired := (a.order, a.handle) :: s.fired }
      { session := s.matchFact t a.handle
        pool := pool
        fired := f.fired ++ [(a.order, position)]
        events := f.events ++ .ruleFired c.name c.salience t.id t.category ::
          s.matchWarnings t a.handle }
    else { f with session := s, events := f.events ++ c.rule.warnings t }
  | _, _ => { f with session := s }

def run : Nat → Firings → Firings
  | 0, f => f
  | fuel + 1, f =>
    match f.session.agenda with
    | [] => f
    | a :: rest => run fuel (step f a rest)

/-- No more activations than this are taken off the agenda: each firing settles a clause on a
handle of the agenda for good, and queues each clause at most once more. -/
def bound (s : Session) : Nat :=
  s.agenda.length * (s.program.size * s.program.size + 1)

def fireAll (s : Session) (pool : Pool) : Except SessionError Firings :=
  if s.disposed then .error .disposed
  else .ok (run s.bound { session := s, pool := pool })

def openFacts (s : Session) : Except SessionError (List Nat) :=
  if s.disposed then .error .disposed else .ok s.facts

def dispose (s : Session) : Session := { program := s.program, disposed := true }

/-- A session inside a message. -/
def shown (s : Session) : String :=
  let state := if s.disposed then "disposed" else s!"{s.facts.length} facts"
  s!"WorkingSession({quoted s.program.customer}, {state})"

end Session

end TransactionRules
