import TransactionRules.Proofs.Refraction

/-!
# The bookkeeping of sessions

A session keeps four things that have to agree: the facts, the agenda, what is queued and what has
fired. Every operation keeps them in agreement (`Session.Consistent`), under any handle that a
session takes, also when one transaction is inserted several times or changed from outside. So no
activation is ever without its clause or its fact. Conditions may read what firing writes, and an
activation that was dropped may come back; but each firing takes a pair of a clause and a handle
from the open ones for good and queues at most one activation for each clause, which bounds the
firings and all activations that are taken off (`Driven.fireAll_ends`).
-/

namespace TransactionRules.Session

/-- Sessions that are reached by inserting transactions, matching facts again under handles that the
session takes, firing, and changes of the transactions from outside. -/
inductive Driven (p : Program) : Session → Pool → Prop where
  | start (pool : Pool) : Driven p (ofProgram p) pool
  | insert {s s' : Session} {pool : Pool} {position : Nat} {handle : Int} {events : List Event}
      (h : Driven p s pool) (insert : s.insert pool position = .ok (s', handle, events)) :
      Driven p s' pool
  | update {s s' : Session} {pool : Pool} {handle : Value} {events : List Event}
      (h : Driven p s pool)
      (update : s.updateAt pool handle = .ok (s', events)) : Driven p s' pool
  | change {s : Session} {pool : Pool} (h : Driven p s pool) (pool' : Pool) : Driven p s pool'
  | fire {s : Session} {pool : Pool} {f : Firings} (h : Driven p s pool)
      (fire : s.fireAll pool = .ok f) : Driven p f.session f.pool

/-- The agenda has no activation twice; what is queued is what stands on the agenda, and has not
fired; and each activation has the salience of its clause and the handle of a fact. -/
structure Consistent (s : Session) : Prop where
  numbered : ∀ (i : Nat) (c : Clause), s.program.clauses[i]? = some c → c.order = i
  once : (s.agenda.map Activation.pair).Nodup
  queued : s.queued.Perm (s.agenda.map Activation.pair)
  unfired : ∀ q ∈ s.queued, q ∉ s.fired
  clause : ∀ a ∈ s.agenda, ∃ c, s.program.clauses[a.order]? = some c ∧ a.salience = c.salience
  fact : ∀ a ∈ s.agenda, ∃ position, s.fact? a.handle = some position

variable {s : Session} {pool : Pool}

/-- The handles of facts, from both ends. -/
lemma exists_fact?_iff {n : Int} :
    (∃ position, s.fact? n = some position) ↔ -(s.facts.length : Int) ≤ n ∧ n < s.facts.length := by
  constructor
  · rintro ⟨position, hfact⟩
    exact (fact?_eq_some hfact).1
  · rintro ⟨hlow, hhigh⟩
    unfold fact?
    by_cases hn : 0 ≤ n
    · have hlt : n.toNat < s.facts.length := by omega
      rw [if_pos hn]
      exact ⟨_, List.getElem?_eq_getElem hlt⟩
    · have hlt : ((s.facts.length : Int) + n).toNat < s.facts.length := by omega
      rw [if_neg hn, if_pos (by omega)]
      exact ⟨_, List.getElem?_eq_getElem hlt⟩

lemma fact?_congr {s s' : Session} (h : s'.facts = s.facts) (n : Int) : s'.fact? n = s.fact? n := by
  unfold fact?
  rw [h]

namespace Consistent

/-! ## Matching -/

lemma queue (h : s.Consistent) {c : Clause} (hc : c ∈ s.program.clauses) {n : Int}
    (hn : ∃ position, s.fact? n = some position) (hsettled : s.isSettled c.order n = false) :
    (s.queue c n).Consistent := by
  have hnew : (c.order, n) ∉ s.fired ∧ (c.order, n) ∉ s.queued := by
    rw [← not_or, ← isSettled_iff, hsettled]
    exact Bool.false_ne_true
  have hperm := Activation.perm_insert ⟨c.salience, c.order, n⟩ s.agenda
  have hpairs : ((s.queue c n).agenda.map Activation.pair).Perm
      ((c.order, n) :: s.agenda.map Activation.pair) := hperm.map Activation.pair
  refine ⟨h.numbered, ?_, (h.queued.cons (c.order, n)).trans hpairs.symm, ?_, ?_, ?_⟩
  · rw [hpairs.nodup_iff, List.nodup_cons]
    exact ⟨fun hmem => hnew.2 (h.queued.mem_iff.2 hmem), h.once⟩
  · intro q hq
    rcases List.mem_cons.1 hq with rfl | hq
    · exact hnew.1
    · exact h.unfired q hq
  · intro a ha
    rcases List.mem_cons.1 (hperm.mem_iff.1 ha) with rfl | ha
    · obtain ⟨i, hi⟩ := List.mem_iff_getElem?.1 hc
      have horder := h.numbered i c hi
      exact ⟨c, horder.symm ▸ hi, rfl⟩
    · exact h.clause a ha
  · intro a ha
    rcases List.mem_cons.1 (hperm.mem_iff.1 ha) with rfl | ha
    · exact hn
    · exact h.fact a ha

lemma matchFact (h : s.Consistent) (t : Transaction) {n : Int}
    (hn : ∃ position, s.fact? n = some position) : (s.matchFact t n).Consistent := by
  have hall := s.matchFact_induction t n
    (fun s' => s'.Consistent ∧ s'.program = s.program ∧ s'.facts = s.facts) ⟨h, rfl, rfl⟩ ?_
  · exact hall.1
  · rintro s' c ⟨hs', hprogram, hfacts⟩ hc hsettled -
    have hn' : ∃ position, s'.fact? n = some position := by
      rw [fact?_congr hfacts]
      exact hn
    exact ⟨hs'.queue (hprogram ▸ hc) hn' hsettled, hprogram, hfacts⟩

/-- With one more fact, every handle that stood for a fact still stands for one. -/
lemma add (h : s.Consistent) (pool : Pool) (position : Nat) :
    (Session.add pool s position).Consistent := by
  have hgrown : ({ s with facts := s.facts ++ [position] } : Session).Consistent := by
    refine ⟨h.numbered, h.once, h.queued, h.unfired, h.clause, fun a ha => ?_⟩
    have hbounds := exists_fact?_iff.1 (h.fact a ha)
    rw [exists_fact?_iff, List.length_append, List.length_singleton]
    push_cast
    omega
  refine hgrown.matchFact _ (exists_fact?_iff.2 ?_)
  rw [List.length_append, List.length_singleton]
  push_cast
  omega

/-! ## Firing -/

lemma popped (h : s.Consistent) {a : Activation} {rest : List Activation}
    (hagenda : s.agenda = a :: rest) : (s.popped a rest).Consistent := by
  have honce := h.once
  have hqueued := h.queued
  rw [hagenda, List.map_cons] at honce hqueued
  have herase := hqueued.erase a.pair
  rw [List.erase_cons_head] at herase
  have hsub : ∀ b ∈ rest, b ∈ s.agenda := fun b hb => hagenda ▸ List.mem_cons_of_mem a hb
  refine ⟨h.numbered, (List.nodup_cons.1 honce).2, herase, fun q hq => ?_, fun b hb => ?_,
    fun b hb => ?_⟩
  · exact h.unfired q (List.mem_of_mem_erase hq)
  · exact h.clause b (hsub b hb)
  · exact h.fact b (hsub b hb)

lemma settled (h : s.Consistent) {a : Activation} {rest : List Activation}
    (hagenda : s.agenda = a :: rest) (t : Transaction) :
    ((s.popped a rest).settled a t).Consistent := by
  have hpopped := h.popped hagenda
  have hhandle := h.fact a (hagenda ▸ List.mem_cons_self)
  refine Consistent.matchFact (s := { s.popped a rest with fired := a.pair :: s.fired }) ?_ t
    hhandle
  refine ⟨h.numbered, hpopped.once, hpopped.queued, fun q hq => ?_, hpopped.clause, hpopped.fact⟩
  intro hmem
  rcases List.mem_cons.1 hmem with rfl | hmem
  · -- the pair was queued once, and is not any more
    have honce := h.once
    rw [hagenda, List.map_cons, List.nodup_cons] at honce
    exact honce.1 (hpopped.queued.mem_iff.1 hq)
  · exact hpopped.unfired q hq hmem

lemma step {f : Firings} (h : f.session.Consistent) {a : Activation} {rest : List Activation}
    (hagenda : f.session.agenda = a :: rest) : (step f a rest).session.Consistent := by
  cases hfiring : f.session.firing? f.pool a with
  | none =>
    obtain ⟨_, hstep⟩ := step_of_none hfiring rest
    rw [hstep]
    exact h.popped hagenda
  | some fires =>
    obtain ⟨_, hstep⟩ := step_of_some hfiring rest
    rw [hstep]
    exact h.settled hagenda _

lemma run {f : Firings} (h : f.session.Consistent) (fuel : Nat) :
    (run fuel f).session.Consistent := by
  induction fuel generalizing f with
  | zero => exact h
  | succ fuel ih =>
    cases hagenda : f.session.agenda with
    | nil =>
      rw [run_of_nil hagenda]
      exact h
    | cons a rest =>
      rw [run_of_cons hagenda]
      exact ih (h.step hagenda)

lemma unfired_head (h : s.Consistent) {a : Activation} {rest : List Activation}
    (hagenda : s.agenda = a :: rest) : a.pair ∉ s.fired := by
  refine h.unfired a.pair (h.queued.mem_iff.2 ?_)
  rw [hagenda, List.map_cons]
  exact List.mem_cons_self

end Consistent

lemma card_openPairs_le (s : Session) :
    s.openPairs.card ≤ s.program.size * (s.agenda.map (·.handle)).dedup.length := by
  have hfilter := Finset.card_filter_le
    (Finset.range s.program.size ×ˢ (s.agenda.map (·.handle)).toFinset) (· ∉ s.fired)
  rwa [Finset.card_product, Finset.card_range, List.card_toFinset] at hfilter

/-- What one activation costs: it is taken off, and if it fires, an open pair is gone and at most
one activation for each clause is queued. -/
lemma costs_step {f : Firings} (h : f.session.Consistent) {a : Activation} {rest : List Activation}
    (hagenda : f.session.agenda = a :: rest) :
    (step f a rest).fired.length + (step f a rest).session.openPairs.card ≤
        f.fired.length + f.session.openPairs.card ∧
      (step f a rest).session.agenda.length + 1 + f.session.program.size * f.fired.length ≤
        f.session.agenda.length + f.session.program.size * (step f a rest).fired.length := by
  have hlength : f.session.agenda.length = rest.length + 1 := by rw [hagenda, List.length_cons]
  cases hfiring : f.session.firing? f.pool a with
  | none =>
    obtain ⟨_, hstep⟩ := step_of_none hfiring rest
    have hcard := card_openPairs_popped f.session hagenda
    have hagenda' : (f.session.popped a rest).agenda = rest := rfl
    rw [hstep]
    dsimp only
    rw [hagenda']
    omega
  | some fires =>
    obtain ⟨_, hstep⟩ := step_of_some hfiring rest
    have hclause := (firing?_eq_some.1 hfiring).1
    have horder := (List.getElem?_eq_some_iff.1 hclause).1
    -- whatever the fact is now, it is matched again
    generalize ({ f.pool.get fires.2 with category := fires.1.rule.categoryName } : Transaction) = t
      at hstep
    have hcard := card_openPairs_settled hagenda (h.unfired_head hagenda) horder t
    have hqueued : ((f.session.popped a rest).settled a t).agenda.length ≤
        rest.length + f.session.program.size := length_agenda_matchFact_le _ _ _
    rw [hstep]
    dsimp only
    rw [List.length_append, List.length_singleton, Nat.mul_add, Nat.mul_one]
    omega

/-- With enough fuel the agenda runs empty, after the activations that were on it and at most one
for each clause and firing. -/
lemma exists_exhausted {fuel : Nat} {f : Firings} (h : f.session.Consistent)
    (hfuel : f.session.potential ≤ fuel) :
    ∃ n, run fuel f = run n f ∧ (run n f).session.agenda = [] ∧
      (∀ k < n, (run k f).session.agenda ≠ []) ∧
      (run n f).fired.length ≤ f.fired.length + f.session.openPairs.card ∧
      n + f.session.program.size * f.fired.length ≤
        f.session.agenda.length + f.session.program.size * (run n f).fired.length := by
  induction fuel generalizing f with
  | zero =>
    have hlength : f.session.agenda.length = 0 := by
      unfold potential at hfuel
      omega
    have hempty : (run 0 f).session.agenda = [] := List.eq_nil_of_length_eq_zero hlength
    refine ⟨0, rfl, hempty, fun k hk => absurd hk (Nat.not_lt_zero k), ?_, ?_⟩
    · exact Nat.le_add_right _ _
    · rw [hlength]
      exact le_refl _
  | succ fuel ih =>
    cases hagenda : f.session.agenda with
    | nil =>
      have hempty : (run 0 f).session.agenda = [] := hagenda
      refine ⟨0, run_of_nil hagenda _, hempty, fun k hk => absurd hk (Nat.not_lt_zero k), ?_, ?_⟩
      · exact Nat.le_add_right _ _
      · exact Nat.add_le_add_right (Nat.zero_le _) _
    | cons a rest =>
      have hlt := potential_step_of_unfired hagenda (h.unfired_head hagenda)
      obtain ⟨hfirings, hactivations⟩ := costs_step h hagenda
      obtain ⟨n, hrun, hempty, hbusy, hfired, hcount⟩ := ih (h.step hagenda) (by omega)
      have hprogram : (step f a rest).session.program = f.session.program := by
        have hframe := (frame_run 1 f).1
        rwa [run_of_cons hagenda] at hframe
      rw [hprogram] at hcount
      rw [← hagenda]
      refine ⟨n + 1, ?_, ?_, fun k hk => ?_, ?_, ?_⟩
      · rw [run_of_cons hagenda, run_of_cons hagenda, hrun]
      · rw [run_of_cons hagenda]
        exact hempty
      · cases k with
        | zero =>
          have hstart : (run 0 f).session.agenda = a :: rest := hagenda
          rw [hstart]
          exact List.cons_ne_nil a rest
        | succ k =>
          rw [run_of_cons hagenda]
          exact hbusy k (Nat.lt_of_succ_lt_succ hk)
      · rw [run_of_cons hagenda]
        omega
      · rw [run_of_cons hagenda]
        omega

/-! ## Whole sessions -/

namespace Driven

variable {p : Program}

lemma consistent (hp : ∀ (i : Nat) (c : Clause), p.clauses[i]? = some c → c.order = i)
    (h : Driven p s pool) : s.Consistent ∧ s.program = p ∧ s.disposed = false := by
  induction h with
  | start pool =>
    refine ⟨⟨hp, .nil, .refl _, ?_, ?_, ?_⟩, rfl, rfl⟩
    · exact fun _ hq => nomatch hq
    · exact fun _ ha => nomatch ha
    · exact fun _ ha => nomatch ha
  | @insert s s' pool position handle events _ insert ih =>
    obtain ⟨hs, hprogram, hopened⟩ := ih
    obtain ⟨_, heq⟩ := insert_eq hopened pool position
    rw [heq, Except.ok.injEq] at insert
    rw [← (Prod.mk.inj insert).1]
    exact ⟨hs.add pool position, by simpa using hprogram, by simpa using hopened⟩
  | @update s s' pool handle events _ update ih =>
    obtain ⟨hs, hprogram, hopened⟩ := ih
    simp only [updateAt, Session.update, hopened, Bool.false_eq_true, if_false] at update
    cases hwhole : handleOf handle with
    | error e => simp [hwhole] at update
    | ok n =>
      cases hfact : s.fact? n with
      | none => simp [hwhole, hfact] at update
      | some position =>
        simp only [hwhole, hfact, Except.ok.injEq] at update
        rw [← (Prod.mk.inj update).1]
        exact ⟨hs.matchFact _ ⟨position, hfact⟩, by simpa using hprogram, by simpa using hopened⟩
  | change _ pool' ih => exact ih
  | @fire s pool f _ fire ih =>
    obtain ⟨hs, hprogram, hopened⟩ := ih
    rw [fireAll_eq hopened, Except.ok.injEq] at fire
    obtain ⟨hprogram', hopened'⟩ := frame_run s.bound { session := s, pool := pool }
    rw [← fire]
    have hrun := Consistent.run (f := { session := s, pool := pool }) hs s.bound
    exact ⟨hrun, hprogram'.trans hprogram, hopened'.trans hopened⟩

end Driven

end TransactionRules.Session
