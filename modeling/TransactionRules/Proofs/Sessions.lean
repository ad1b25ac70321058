import Mathlib.Tactic.Common
import TransactionRules.Engine.Basic
import TransactionRules.Proofs.Outcome

/-!
# Sessions step by step

What the operations of a session leave alone, and the run of a whole program as a fold: inserting
never fails in an open session, so a batch is one `addAll` followed by one `run`.
-/

namespace TransactionRules.Session

/-! ## Matching -/

section Frame

variable (s : Session) (c : Clause) (t : Transaction) (handle : Int)

@[simp] lemma program_queue : (s.queue c handle).program = s.program := rfl

@[simp] lemma facts_queue : (s.queue c handle).facts = s.facts := rfl

@[simp] lemma fired_queue : (s.queue c handle).fired = s.fired := rfl

@[simp] lemma disposed_queue : (s.queue c handle).disposed = s.disposed := rfl

/-- A property of sessions that queueing keeps is kept by matching. -/
lemma matchFact_induction (motive : Session → Prop) (hs : motive s)
    (hqueue : ∀ s' c, motive s' → c ∈ s.program.clauses → s'.isSettled c.order handle = false →
      c.rule.holds t = true → motive (s'.queue c handle)) : motive (s.matchFact t handle) := by
  unfold matchFact
  generalize hclauses : s.program.clauses = clauses at hqueue
  clear hclauses
  induction clauses generalizing s with
  | nil => exact hs
  | cons c clauses ih =>
    refine ih _ ?_ fun s' c' hs' hc' => hqueue s' c' hs' (List.mem_cons_of_mem c hc')
    unfold matchClause
    split_ifs with hsettled hholds
    · exact hs
    · exact hqueue s c hs List.mem_cons_self (by simpa using hsettled) hholds
    · exact hs

@[simp] lemma program_matchFact : (s.matchFact t handle).program = s.program :=
  s.matchFact_induction t handle (·.program = s.program) rfl fun _ _ h _ _ _ => h

@[simp] lemma facts_matchFact : (s.matchFact t handle).facts = s.facts :=
  s.matchFact_induction t handle (·.facts = s.facts) rfl fun _ _ h _ _ _ => h

@[simp] lemma fired_matchFact : (s.matchFact t handle).fired = s.fired :=
  s.matchFact_induction t handle (·.fired = s.fired) rfl fun _ _ h _ _ _ => h

@[simp] lemma disposed_matchFact : (s.matchFact t handle).disposed = s.disposed :=
  s.matchFact_induction t handle (·.disposed = s.disposed) rfl fun _ _ h _ _ _ => h

end Frame

/-! ## Inserting -/

/-- A session with one more fact. -/
def add (pool : Pool) (s : Session) (position : Nat) : Session :=
  ({ s with facts := s.facts ++ [position] }).matchFact (pool.get position) s.facts.length

def addAll (s : Session) (pool : Pool) (batch : List Nat) : Session := batch.foldl (add pool) s

@[simp] lemma program_add (pool : Pool) (s : Session) (position : Nat) :
    (add pool s position).program = s.program := by simp [add]

@[simp] lemma facts_add (pool : Pool) (s : Session) (position : Nat) :
    (add pool s position).facts = s.facts ++ [position] := by simp [add]

@[simp] lemma fired_add (pool : Pool) (s : Session) (position : Nat) :
    (add pool s position).fired = s.fired := by simp [add]

@[simp] lemma disposed_add (pool : Pool) (s : Session) (position : Nat) :
    (add pool s position).disposed = s.disposed := by simp [add]

lemma insert_eq {s : Session} (h : s.disposed = false) (pool : Pool) (position : Nat) :
    ∃ events, s.insert pool position = .ok (add pool s position, (s.facts.length : Int), events) := by
  simp [insert, add, h]

lemma insertAll_eq {s : Session} (h : s.disposed = false) (pool : Pool) (batch : List Nat) :
    ∃ events, Engine.insertAll s pool batch = .ok (s.addAll pool batch, events) := by
  induction batch generalizing s with
  | nil => exact ⟨[], rfl⟩
  | cons position rest ih =>
    obtain ⟨events, hevents⟩ := insert_eq h pool position
    obtain ⟨later, hlater⟩ := ih (s := add pool s position) (by simpa using h)
    exact ⟨events ++ later, by simp [Engine.insertAll, hevents, hlater, addAll]⟩

lemma disposed_addAll (s : Session) (pool : Pool) (batch : List Nat) :
    (s.addAll pool batch).disposed = s.disposed := by
  induction batch generalizing s with
  | nil => rfl
  | cons position rest ih => simpa [addAll] using ih (add pool s position)

lemma fireAll_eq {s : Session} (h : s.disposed = false) (pool : Pool) :
    s.fireAll pool = .ok (run s.bound { session := s, pool := pool }) := by
  simp [fireAll, h]

/-! ## Firing -/

/-- A session whose first activation was taken off the agenda. -/
def popped (s : Session) (a : Activation) (rest : List Activation) : Session :=
  { s with agenda := rest, queued := s.queued.erase (a.order, a.handle) }

/-- A session in which an activation has fired and left the fact as `t`. -/
def settled (s : Session) (a : Activation) (t : Transaction) : Session :=
  ({ s with fired := (a.order, a.handle) :: s.fired }).matchFact t a.handle

/-- The clause that an activation fires and the position of its fact, if it fires. -/
def firing? (s : Session) (pool : Pool) (a : Activation) : Option (Clause × Nat) :=
  match s.program.clauses[a.order]?, s.fact? a.handle with
  | some c, some position => if c.rule.holds (pool.get position) then some (c, position) else none
  | _, _ => none

lemma firing?_eq_some {s : Session} {pool : Pool} {a : Activation} {c : Clause} {position : Nat} :
    s.firing? pool a = some (c, position) ↔ s.program.clauses[a.order]? = some c ∧
      s.fact? a.handle = some position ∧ c.rule.holds (pool.get position) = true := by
  unfold firing?
  split
  · next c' position' hc hp =>
    rw [hc, hp]
    split_ifs with hholds
    · simp only [Option.some.injEq, Prod.mk.injEq]
      constructor
      · rintro ⟨rfl, rfl⟩
        exact ⟨rfl, rfl, hholds⟩
      · exact fun h => ⟨h.1, h.2.1⟩
    · simp only [Option.some.injEq, false_iff]
      rintro ⟨rfl, rfl, h⟩
      exact hholds h
  · next hnone =>
    simp only [reduceCtorEq, false_iff]
    rintro ⟨hc, hp, -⟩
    exact hnone _ _ hc hp

lemma step_of_some {f : Firings} {a : Activation} {c : Clause} {position : Nat}
    (h : f.session.firing? f.pool a = some (c, position)) (rest : List Activation) :
    ∃ events, step f a rest =
      { session := (f.session.popped a rest).settled a
          { f.pool.get position with category := c.rule.categoryName }
        pool := f.pool.setCategory position c.rule.categoryName
        fired := f.fired ++ [(a.order, position)]
        events := events } := by
  obtain ⟨hc, hp, hholds⟩ := firing?_eq_some.1 h
  have hp' : (f.session.popped a rest).fact? a.handle = some position := hp
  unfold popped at hp'
  simp only [step, hc, hp', hholds, if_true]
  exact ⟨_, rfl⟩

lemma step_of_none {f : Firings} {a : Activation} (h : f.session.firing? f.pool a = none)
    (rest : List Activation) :
    ∃ events, step f a rest = { f with session := f.session.popped a rest, events := events } := by
  unfold step
  simp only
  split
  · next c position hc hp =>
    have hp' : f.session.fact? a.handle = some position := hp
    split_ifs with hholds
    · rw [firing?_eq_some.2 ⟨hc, hp', hholds⟩] at h
      cases h
    · exact ⟨_, rfl⟩
  · exact ⟨_, rfl⟩

lemma run_of_nil {f : Firings} (h : f.session.agenda = []) (fuel : Nat) : run fuel f = f := by
  cases fuel with
  | zero => rfl
  | succ fuel => rw [run, h]

lemma run_of_cons {f : Firings} {a : Activation} {rest : List Activation}
    (h : f.session.agenda = a :: rest) (fuel : Nat) : run (fuel + 1) f = run fuel (step f a rest) := by
  rw [run, h]

/-! ## Whole programs -/

/-- The session in which a program runs over a batch, before anything fires. -/
def loaded (p : Program) (pool : Pool) (batch : List Nat) : Session := (ofProgram p).addAll pool batch

/-- A program runs over every batch. -/
lemma chain_eq (p : Program) (pool : Pool) (batch : List Nat) :
    ∃ firings, Engine.chain p pool batch = .ok firings ∧
      firings.pool = (run (loaded p pool batch).bound ⟨loaded p pool batch, pool, [], []⟩).pool ∧
      firings.fired = (run (loaded p pool batch).bound ⟨loaded p pool batch, pool, [], []⟩).fired := by
  obtain ⟨events, hinsert⟩ := insertAll_eq (s := ofProgram p) rfl pool batch
  have hdisposed : ((ofProgram p).addAll pool batch).disposed = false := disposed_addAll _ pool batch
  simp only [Engine.chain, hinsert, Outcome.ok_bind, fireAll_eq hdisposed, Outcome.pure_eq]
  exact ⟨_, rfl, rfl, rfl⟩

end TransactionRules.Session
