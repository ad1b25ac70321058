import TransactionRules.Proofs.Agenda

/-!
# Firing as recognise and act

The reference for forward chaining keeps no agenda. In every cycle it looks at all clauses and all
facts as they are now, and fires the best pair that has not fired, until no condition holds any more
(`Memory.Run`); such a run is unique. A session whose stale facts were all matched again fires exactly
that run (`Session.Reached.fireAll_run`): of the pairs that could fire none is missing on its agenda,
so the first activation that still holds is the best pair of all.
-/

namespace TransactionRules

/-! ## The reference -/

/-- What the reference knows: clauses, facts, what has fired, and the transactions as they are. -/
structure Memory where
  program : Program
  facts : List Nat
  fired : List (Nat × Int)
  pool : Pool

namespace Memory

/-- A clause that has not fired on a fact and holds on it now; `q` is their order and handle. -/
structure Candidate (m : Memory) (q : Nat × Nat) (c : Clause) (position : Nat) : Prop where
  clause : m.program.clauses[q.1]? = some c
  fact : m.facts[q.2]? = some position
  unfired : (q.1, (q.2 : Int)) ∉ m.fired
  holds : c.rule.holds (m.pool.get position) = true

/-- A higher salience, then an earlier clause, then a lower handle. -/
def Precedes (c : Clause) (q : Nat × Nat) (d : Clause) (r : Nat × Nat) : Prop :=
  Value.ordered .lt d.salience c.salience = .ok true ∨
    Value.equal c.salience d.salience = true ∧ (q.1 < r.1 ∨ q.1 = r.1 ∧ q.2 < r.2)

/-- One cycle: the candidate that precedes all others fires. -/
inductive Cycle (m : Memory) (q : Nat × Nat) : Memory → Prop where
  | fire (c : Clause) (position : Nat) (candidate : m.Candidate q c position)
      (best : ∀ r d i, m.Candidate r d i → r ≠ q → Precedes c q d r) :
      Cycle m q { m with
        fired := (q.1, (q.2 : Int)) :: m.fired
        pool := m.pool.setCategory position c.rule.categoryName }

/-- Cycles until there is no candidate. -/
inductive Run : Memory → List (Nat × Nat) → Memory → Prop where
  | done {m : Memory} (h : ∀ q c position, ¬m.Candidate q c position) : Run m [] m
  | cycle {m m' m'' : Memory} {q : Nat × Nat} {seq : List (Nat × Nat)} (first : m.Cycle q m')
      (rest : Run m' seq m'') : Run m (q :: seq) m''

variable {m : Memory}

lemma Candidate.unique {q : Nat × Nat} {c d : Clause} {i j : Nat} (h : m.Candidate q c i)
    (h' : m.Candidate q d j) : c = d ∧ i = j :=
  ⟨Option.some.inj (h.clause.symm.trans h'.clause), Option.some.inj (h.fact.symm.trans h'.fact)⟩

lemma Candidate.isNumber (hp : m.program.WellFormed) {q : Nat × Nat} {c : Clause} {i : Nat}
    (h : m.Candidate q c i) : c.salience.IsNumber :=
  hp.saliences c (List.mem_of_getElem? h.clause)

lemma precedes_iff {c d : Clause} (hc : c.salience.IsNumber) (hd : d.salience.IsNumber)
    (q r : Nat × Nat) :
    Precedes c q d r ↔ (⟨c.salience, q.1, q.2⟩ : Activation).place <
      (⟨d.salience, r.1, r.2⟩ : Activation).place := by
  simp only [Precedes, Value.ordered_lt_of_isNumber hd hc, Value.equal_of_isNumber hc hd,
    Activation.place, Prod.Lex.toLex_lt_toLex, OrderDual.toDual_lt_toDual, OrderDual.toDual_inj,
    Except.ok.injEq, decide_eq_true_eq, Nat.cast_lt]

lemma Cycle.unique (hp : m.program.WellFormed) {q r : Nat × Nat} {m' m'' : Memory}
    (h : m.Cycle q m') (h' : m.Cycle r m'') : q = r ∧ m' = m'' := by
  obtain ⟨c, i, hc, hbest⟩ := h
  obtain ⟨d, j, hd, hbest'⟩ := h'
  by_cases hqr : q = r
  · subst hqr
    obtain ⟨rfl, rfl⟩ := hc.unique hd
    exact ⟨rfl, rfl⟩
  · have hlt := hbest r d j hd (Ne.symm hqr)
    have hgt := hbest' q c i hc hqr
    rw [precedes_iff (hc.isNumber hp) (hd.isNumber hp)] at hlt
    rw [precedes_iff (hd.isNumber hp) (hc.isNumber hp)] at hgt
    exact absurd hlt hgt.not_gt

lemma Cycle.program_eq {q : Nat × Nat} {m' : Memory} (h : m.Cycle q m') : m'.program = m.program := by
  obtain ⟨c, i, hc, hbest⟩ := h
  rfl

/-- The reference has one run only. -/
theorem Run.unique (hp : m.program.WellFormed) {seq seq' : List (Nat × Nat)} {m' m'' : Memory}
    (h : m.Run seq m') (h' : m.Run seq' m'') : seq = seq' ∧ m' = m'' := by
  induction h generalizing seq' m'' with
  | done hnone =>
    cases h' with
    | done => exact ⟨rfl, rfl⟩
    | cycle first _ =>
      obtain ⟨c, i, hc, -⟩ := first
      exact absurd hc (hnone _ c i)
  | cycle first rest ih =>
    cases h' with
    | done hnone =>
      obtain ⟨c, i, hc, -⟩ := first
      exact absurd hc (hnone _ c i)
    | cycle first' rest' =>
      obtain ⟨rfl, rfl⟩ := first.unique hp first'
      obtain ⟨rfl, rfl⟩ := ih (first.program_eq ▸ hp) rest'
      exact ⟨rfl, rfl⟩

/-- Nothing holds any more where a run ends. -/
lemma Run.exhausted {seq : List (Nat × Nat)} {m' : Memory} (h : m.Run seq m') :
    ∀ q c position, ¬m'.Candidate q c position := by
  induction h with
  | done hnone => exact hnone
  | cycle _ _ ih => exact ih

end Memory

/-! ## Sessions -/

namespace Session

/-- The working memory of a session without its agenda. -/
def memory (s : Session) (pool : Pool) : Memory := ⟨s.program, s.facts, s.fired, pool⟩

/-- Sessions that are reached by inserting new facts, matching facts again, firing, and changes of
the transactions from outside. `stale` has the positions of the facts that were changed from outside
and not matched since. -/
inductive Reached (p : Program) : Session → Pool → Set Nat → Prop where
  | start (pool : Pool) : Reached p (ofProgram p) pool ∅
  | insert {s s' : Session} {pool : Pool} {stale : Set Nat} {position : Nat} {handle : Int}
      {events : List Event} (h : Reached p s pool stale) (present : position < pool.length)
      (new : position ∉ s.facts) (insert : s.insert pool position = .ok (s', handle, events)) :
      Reached p s' pool stale
  | update {s s' : Session} {pool : Pool} {stale : Set Nat} {handle position : Nat}
      {events : List Event} (h : Reached p s pool stale) (fact : s.facts[handle]? = some position)
      (update : s.update pool handle = .ok (s', events)) : Reached p s' pool (stale \ {position})
  | change {s : Session} {pool : Pool} {stale : Set Nat} (h : Reached p s pool stale) (pool' : Pool)
      (grown : pool.length ≤ pool'.length) :
      Reached p s pool' (stale ∪ {i | i ∈ s.facts ∧ pool'.get i ≠ pool.get i})
  | fire {s : Session} {pool : Pool} {stale : Set Nat} {f : Firings} (h : Reached p s pool stale)
      (fire : s.fireAll pool = .ok f) : Reached p f.session f.pool stale

/-- Every candidate on a fact that is not stale waits on the agenda. -/
structure Inv (s : Session) (pool : Pool) (stale : Set Nat) : Prop extends s.Tidy where
  opened : s.disposed = false
  distinct : s.facts.Nodup
  present : ∀ position ∈ s.facts, position < pool.length
  matched : ∀ q c position, (s.memory pool).Candidate q c position → position ∉ stale →
    (q.1, (q.2 : Int)) ∈ s.queued

variable {s : Session} {pool : Pool} {stale : Set Nat}

lemma fact?_natCast (s : Session) (handle : Nat) : s.fact? handle = s.facts[handle]? := by
  simp [fact?]

/-- The position of a fact has one handle. -/
lemma Inv.handle_unique (h : s.Inv pool stale) {handle other position : Nat}
    (hfact : s.facts[handle]? = some position) (hother : s.facts[other]? = some position) :
    handle = other := by
  obtain ⟨hlt, hget⟩ := List.getElem?_eq_some_iff.1 hfact
  obtain ⟨hlt', hget'⟩ := List.getElem?_eq_some_iff.1 hother
  exact (h.distinct.getElem_inj_iff).1 (hget.trans hget'.symm)

/-- Matching a fact queues its candidates, and loses none of the others. -/
lemma queued_matchFact (hp : s.program.WellFormed) {handle position : Nat}
    (hfact : s.facts[handle]? = some position)
    (hothers : ∀ q c i, (s.memory pool).Candidate q c i → q.2 ≠ handle → i ∉ stale →
      (q.1, (q.2 : Int)) ∈ s.queued) {q : Nat × Nat} {c : Clause} {i : Nat}
    (h : ((s.matchFact (pool.get position) handle).memory pool).Candidate q c i)
    (hstale : q.2 ≠ handle → i ∉ stale) :
    (q.1, (q.2 : Int)) ∈ (s.matchFact (pool.get position) handle).queued := by
  obtain ⟨hclause, hi, hunfired, hholds⟩ := h
  simp only [memory, program_matchFact, facts_matchFact, fired_matchFact] at hclause hi hunfired hholds
  have hsettled : (s.matchFact (pool.get position) handle).isSettled q.1 q.2 = true := by
    refine isSettled_matchFact s _ _ ?_
    by_cases hq : q.2 = handle
    · rw [hq, hfact, Option.some.injEq] at hi
      rw [← hi] at hholds
      exact .inr ⟨by rw [hq], c, List.mem_of_getElem? hclause, hp.numbered _ c hclause, hholds⟩
    · have hqueued := hothers q c i ⟨hclause, hi, hunfired, hholds⟩ hq (hstale hq)
      exact .inl (isSettled_iff.2 (.inr hqueued))
  rcases isSettled_iff.1 hsettled with hfired | hqueued
  · exact absurd (by simpa using hfired) hunfired
  · exact hqueued

lemma inv_ofProgram {p : Program} (hp : p.WellFormed) (pool : Pool) : (ofProgram p).Inv pool ∅ where
  program := hp
  sorted := .nil
  valid := fun _ ha => nomatch ha
  queued := .refl _
  unfired := fun _ ha => nomatch ha
  opened := rfl
  distinct := .nil
  present := fun _ hposition => nomatch hposition
  matched := fun _ _ _ h _ => nomatch h.fact

lemma Inv.add (h : s.Inv pool stale) {position : Nat} (hpresent : position < pool.length)
    (hnew : position ∉ s.facts) : (add pool s position).Inv pool stale := by
  have htidy : ({ s with facts := s.facts ++ [position] } : Session).Tidy := by
    refine ⟨h.program, h.sorted, fun a ha => ?_, h.queued, h.unfired⟩
    obtain ⟨c, hc, hsalience, hle, hlt⟩ := h.valid a ha
    refine ⟨c, hc, hsalience, hle, ?_⟩
    rw [List.length_append]
    push_cast
    omega
  have hlength : (s.facts.length : Int) < (s.facts ++ [position]).length := by simp
  have hfact : (s.facts ++ [position])[s.facts.length]? = some position := by simp
  refine ⟨htidy.matchFact _ ⟨by omega, hlength⟩, by simpa using h.opened, ?_, ?_, ?_⟩
  · rw [facts_add]
    refine List.nodup_append.2 ⟨h.distinct, List.nodup_singleton _, fun i hi j hj heq => hnew ?_⟩
    rw [← List.mem_singleton.1 hj, ← heq]
    exact hi
  · rw [facts_add]
    simpa [or_imp, forall_and] using ⟨h.present, hpresent⟩
  · intro q c i hcandidate hstale
    refine queued_matchFact (s := { s with facts := s.facts ++ [position] }) h.program hfact ?_
      hcandidate fun _ => hstale
    rintro r d j ⟨hclause, hj, hunfired, hholds⟩ hne hfresh
    have hlt := (List.getElem?_eq_some_iff.1 hj).1
    have hj' : s.facts[r.2]? = some j := by
      rw [← hj]
      simp only [memory, List.length_append, List.length_singleton] at hlt ⊢
      rw [List.getElem?_append_left (by omega)]
    exact h.matched r d j ⟨hclause, hj', hunfired, hholds⟩ hfresh

lemma Inv.update (h : s.Inv pool stale) {handle position : Nat}
    (hfact : s.facts[handle]? = some position) :
    (s.matchFact (pool.get position) handle).Inv pool (stale \ {position}) := by
  have hlt := (List.getElem?_eq_some_iff.1 hfact).1
  refine ⟨h.toTidy.matchFact _ ⟨by omega, by omega⟩, by simpa using h.opened,
    by simpa using h.distinct, by simpa using h.present, ?_⟩
  intro q c i hcandidate hstale
  refine queued_matchFact h.program hfact (fun r d j hr _ => h.matched r d j hr) hcandidate ?_
  intro hne hmem
  have hi : s.facts[q.2]? = some i := by simpa [memory] using hcandidate.fact
  exact hstale ⟨hmem, fun heq => hne (h.handle_unique (heq ▸ hi) hfact)⟩

lemma Inv.change (h : s.Inv pool stale) {pool' : Pool} (hgrown : pool.length ≤ pool'.length) :
    s.Inv pool' (stale ∪ {i | i ∈ s.facts ∧ pool'.get i ≠ pool.get i}) := by
  refine ⟨h.toTidy, h.opened, h.distinct, fun i hi => (h.present i hi).trans_le hgrown, ?_⟩
  rintro q c i ⟨hclause, hi, hunfired, hholds⟩ hstale
  rw [Set.mem_union, not_or] at hstale
  have hsame : pool'.get i = pool.get i := by
    by_contra hne
    exact hstale.2 ⟨List.mem_of_getElem? hi, hne⟩
  have hholds' : c.rule.holds (pool.get i) = true := hsame ▸ hholds
  exact h.matched q c i ⟨hclause, hi, hunfired, hholds'⟩ hstale.1

/-! ## One activation -/

/-- An activation that does not hold any more is no candidate. -/
lemma Inv.popped (h : s.Inv pool stale) {a : Activation} {rest : List Activation}
    (hagenda : s.agenda = a :: rest) (hfiring : s.firing? pool a = none) :
    (s.popped a rest).Inv pool stale := by
  refine ⟨h.toTidy.popped hagenda, h.opened, h.distinct, h.present, ?_⟩
  intro q c i hcandidate hstale
  have hne : (q.1, (q.2 : Int)) ≠ a.pair := by
    intro heq
    obtain ⟨horder, hhandle⟩ := Prod.mk.inj heq
    have hsome : s.firing? pool a = some (c, i) := firing?_eq_some.2
      ⟨horder ▸ hcandidate.clause, by rw [← hhandle, fact?_natCast]; exact hcandidate.fact,
        hcandidate.holds⟩
    rw [hsome] at hfiring
    cases hfiring
  exact (List.mem_erase_of_ne hne).2 (h.matched q c i hcandidate hstale)

/-- A firing changes one fact, and that fact is matched again. -/
lemma Inv.settled (h : s.Inv pool stale) {a : Activation} {rest : List Activation}
    (hagenda : s.agenda = a :: rest) {c : Clause} {position : Nat}
    (hfiring : s.firing? pool a = some (c, position)) :
    ((s.popped a rest).settled a { pool.get position with category := c.rule.categoryName }).Inv
      (pool.setCategory position c.rule.categoryName) stale := by
  obtain ⟨-, hfact, -⟩ := firing?_eq_some.1 hfiring
  obtain ⟨-, -, -, hle, -⟩ := h.valid a (hagenda ▸ List.mem_cons_self)
  obtain ⟨handle, hhandle⟩ := Int.eq_ofNat_of_zero_le hle
  have hfact' : s.facts[handle]? = some position := by
    rw [hhandle] at hfact
    exact (fact?_natCast s handle).symm.trans hfact
  have hpresent := h.present position (List.mem_of_getElem? hfact')
  have hget := Pool.get_setCategory_self c.rule.categoryName hpresent
  refine ⟨h.toTidy.settled hagenda _, ?_, ?_, ?_, ?_⟩
  · simpa [Session.settled, Session.popped] using h.opened
  · simpa [Session.settled, Session.popped] using h.distinct
  · simpa [Session.settled, Session.popped] using h.present
  · intro q d i hcandidate hstale
    rw [← hget, Session.settled, hhandle] at hcandidate ⊢
    refine queued_matchFact (s := { s.popped a rest with fired := (a.order, (handle : Int)) :: s.fired })
      h.program hfact' ?_ hcandidate fun _ => hstale
    rintro r e j ⟨hclause, hj, hunfired, hholds⟩ hne hfresh
    have hposition : position ≠ j := fun heq => hne (h.handle_unique (heq ▸ hj) hfact')
    have hpair : (r.1, (r.2 : Int)) ≠ a.pair := by
      intro heq
      have := (Prod.mk.inj heq).2
      omega
    rw [memory, Pool.get_setCategory_of_ne _ _ hposition] at hholds
    have hold : (s.memory pool).Candidate r e j :=
      ⟨hclause, hj, fun hmem => hunfired (List.mem_cons_of_mem _ hmem), hholds⟩
    exact (List.mem_erase_of_ne hpair).2 (h.matched r e j hold hfresh)

/-- Without stale facts, an activation that fires is the best candidate. -/
lemma Inv.cycle (h : s.Inv pool ∅) {a : Activation} {rest : List Activation}
    (hagenda : s.agenda = a :: rest) {c : Clause} {position : Nat}
    (hfiring : s.firing? pool a = some (c, position)) :
    ∃ handle : Nat, s.facts[handle]? = some position ∧ (s.memory pool).Cycle (a.order, handle)
      (((s.popped a rest).settled a { pool.get position with category := c.rule.categoryName }).memory
        (pool.setCategory position c.rule.categoryName)) := by
  obtain ⟨hclause, hfact, hholds⟩ := firing?_eq_some.1 hfiring
  have hmem : a ∈ s.agenda := hagenda ▸ List.mem_cons_self
  obtain ⟨c', hc', hsalience, hle, -⟩ := h.valid a hmem
  obtain ⟨handle, hhandle⟩ := Int.eq_ofNat_of_zero_le hle
  rw [hclause, Option.some.injEq] at hc'
  rw [hhandle, fact?_natCast] at hfact
  refine ⟨handle, hfact, ?_⟩
  have hunfired : (a.order, (handle : Int)) ∉ s.fired := by
    have := h.unfired a hmem
    rwa [Activation.pair, hhandle] at this
  have hcandidate : (s.memory pool).Candidate (a.order, handle) c position :=
    ⟨hclause, hfact, hunfired, hholds⟩
  have hbest : ∀ r d i, (s.memory pool).Candidate r d i → r ≠ (a.order, handle) →
      Memory.Precedes c (a.order, handle) d r := by
    intro r d i hr hne
    obtain ⟨b, hb, hpair⟩ := List.mem_map.1 (h.queued.mem_iff.1 (h.matched r d i hr (Set.notMem_empty i)))
    obtain ⟨horder, hbhandle⟩ := Prod.mk.inj hpair
    obtain ⟨d', hd', hbsalience, -⟩ := h.valid b hb
    have hrclause : s.program.clauses[r.1]? = some d := hr.clause
    rw [horder, hrclause, Option.some.injEq] at hd'
    have hrest : b ∈ rest := by
      rw [hagenda] at hb
      rcases List.mem_cons.1 hb with rfl | hb
      · exact absurd (Prod.ext horder.symm (by simpa [hhandle] using hbhandle.symm)) hne
      · exact hb
    have hlt := (List.pairwise_cons.1 (hagenda ▸ h.sorted)).1 b hrest
    rw [Memory.precedes_iff (hcandidate.isNumber h.program) (hr.isNumber h.program)]
    rw [Activation.place, Activation.place, hsalience, hbsalience, ← hc', ← hd', horder, hbhandle,
      hhandle] at hlt
    exact hlt
  have hcycle := Memory.Cycle.fire c position hcandidate hbest
  simpa [memory, Session.settled, Session.popped, hhandle] using hcycle

lemma Inv.run {f : Firings} (h : f.session.Inv f.pool stale) (fuel : Nat) :
    (run fuel f).session.Inv (run fuel f).pool stale := by
  induction fuel generalizing f with
  | zero => exact h
  | succ fuel ih =>
    cases hagenda : f.session.agenda with
    | nil => rwa [run_of_nil hagenda]
    | cons a rest =>
      rw [run_of_cons hagenda]
      cases hfiring : f.session.firing? f.pool a with
      | none =>
        obtain ⟨events, hstep⟩ := step_of_none hfiring rest
        rw [hstep]
        exact ih (h.popped hagenda hfiring)
      | some fires =>
        obtain ⟨events, hstep⟩ := step_of_some hfiring rest
        rw [hstep]
        exact ih (h.settled hagenda hfiring)

/-- Firing goes through the run of the reference. -/
theorem run_refines {fuel : Nat} {f : Firings} (h : f.session.Inv f.pool ∅)
    (hfuel : f.session.potential ≤ fuel) :
    ∃ seq, (f.session.memory f.pool).Run seq
        ((run fuel f).session.memory (run fuel f).pool) ∧
      (run fuel f).fired.map (fun x => (x.1, some x.2)) =
        f.fired.map (fun x => (x.1, some x.2)) ++ seq.map (fun q => (q.1, f.session.facts[q.2]?)) := by
  have hempty (f : Firings) (h : f.session.Inv f.pool ∅) (hagenda : f.session.agenda = []) :
      (f.session.memory f.pool).Run [] (f.session.memory f.pool) := by
    refine .done fun q c i hcandidate => ?_
    have hqueued := h.queued.mem_iff.1 (h.matched q c i hcandidate (Set.notMem_empty i))
    rw [hagenda] at hqueued
    cases hqueued
  induction fuel generalizing f with
  | zero =>
    have hlength : f.session.agenda.length = 0 := by
      unfold potential at hfuel
      omega
    exact ⟨[], hempty f h (List.eq_nil_of_length_eq_zero hlength), by simp [run]⟩
  | succ fuel ih =>
    cases hagenda : f.session.agenda with
    | nil =>
      rw [run_of_nil hagenda]
      exact ⟨[], hempty f h hagenda, by simp⟩
    | cons a rest =>
      rw [run_of_cons hagenda]
      have hlt := potential_step h.toTidy hagenda
      cases hfiring : f.session.firing? f.pool a with
      | none =>
        obtain ⟨events, hstep⟩ := step_of_none hfiring rest
        rw [hstep] at hlt ⊢
        exact ih (h.popped hagenda hfiring) (Nat.le_of_lt_succ (hlt.trans_le hfuel))
      | some fires =>
        obtain ⟨c, position⟩ := fires
        obtain ⟨events, hstep⟩ := step_of_some hfiring rest
        rw [hstep] at hlt ⊢
        obtain ⟨handle, hfact, hcycle⟩ := h.cycle hagenda hfiring
        obtain ⟨seq, hrun, hfired⟩ :=
          ih (h.settled hagenda hfiring) (Nat.le_of_lt_succ (hlt.trans_le hfuel))
        refine ⟨(a.order, handle) :: seq, .cycle hcycle hrun, ?_⟩
        rw [hfired]
        simp [Session.settled, Session.popped, hfact]

/-! ## Whole sessions -/

lemma Reached.inv {p : Program} (hp : p.WellFormed) (h : Reached p s pool stale) :
    s.Inv pool stale := by
  induction h with
  | start pool => exact inv_ofProgram hp pool
  | @insert s s' pool stale position handle events _ present new insert ih =>
    obtain ⟨_, heq⟩ := insert_eq ih.opened pool position
    rw [heq, Except.ok.injEq] at insert
    rw [← (Prod.mk.inj insert).1]
    exact ih.add present new
  | @update s s' pool stale handle position events _ fact update ih =>
    simp only [Session.update, ih.opened, fact?_natCast, fact] at update
    rw [← (Prod.mk.inj (Except.ok.inj update)).1]
    exact ih.update fact
  | change _ pool' grown ih => exact ih.change grown
  | @fire s pool stale f _ fire ih =>
    rw [fireAll_eq ih.opened, Except.ok.injEq] at fire
    rw [← fire]
    exact Inv.run (f := { session := s, pool := pool }) ih s.bound

end Session

end TransactionRules
