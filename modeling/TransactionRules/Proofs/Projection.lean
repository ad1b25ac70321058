import TransactionRules.Proofs.RecogniseAct

/-!
# One fact of a run

Clauses look at one fact at a time, so the firings of different facts do not meet: what a run of the
reference does to one of its facts is the run over that fact alone (`Memory.Run.project`). The runs
over the single facts have together as many cycles as the run over all of them.
-/

namespace TransactionRules

namespace Pool

lemma get_setCategory (pool : Pool) (i j : Nat) (v : Value) :
    (pool.setCategory i v).get j =
      { pool.get j with category := ((pool.setCategory i v).get j).category } := by
  by_cases hij : i = j
  · subst hij
    by_cases hi : i < pool.length
    · rw [get_setCategory_self v hi]
    · have hsame : pool.setCategory i v = pool := List.modify_eq_self (by omega)
      rw [hsame]
  · rw [get_setCategory_of_ne pool v hij]

end Pool

namespace Memory

/-- What a run starts from: transactions at distinct positions as facts, and nothing has fired. -/
def initial (p : Program) (batch : List Nat) (pool : Pool) : Memory := ⟨p, batch, [], pool⟩

/-! ## What a run leaves alone -/

/-- The memory after some cycles: of the transactions only categories differ, and only of facts. -/
structure Grown (m m' : Memory) : Prop where
  program : m'.program = m.program
  facts : m'.facts = m.facts
  length : m'.pool.length = m.pool.length
  category : ∀ i, m'.pool.get i = { m.pool.get i with category := (m'.pool.get i).category }
  others : ∀ i, i ∉ m.facts → m'.pool.get i = m.pool.get i

lemma Cycle.grown {m m' : Memory} {q : Nat × Nat} (h : m.Cycle q m') : m.Grown m' := by
  obtain ⟨c, position, hcandidate, -⟩ := h
  refine ⟨rfl, rfl, Pool.length_setCategory _ _ _, fun i => Pool.get_setCategory _ _ _ _, ?_⟩
  intro i hi
  refine Pool.get_setCategory_of_ne _ _ fun heq => hi ?_
  rw [← heq]
  exact List.mem_of_getElem? hcandidate.fact

lemma Run.grown {m m' : Memory} {seq : List (Nat × Nat)} (h : m.Run seq m') : m.Grown m' := by
  induction h with
  | done => exact ⟨rfl, rfl, rfl, fun _ => rfl, fun _ _ => rfl⟩
  | cycle first _ ih =>
    have hfirst := first.grown
    refine ⟨ih.program.trans hfirst.program, ih.facts.trans hfirst.facts,
      ih.length.trans hfirst.length, fun i => ?_, fun i hi => ?_⟩
    · rw [ih.category i, hfirst.category i]
    · rw [ih.others i (hfirst.facts ▸ hi), hfirst.others i hi]

lemma Run.handle_lt {m m' : Memory} {seq : List (Nat × Nat)} (h : m.Run seq m') :
    ∀ q ∈ seq, q.2 < m.facts.length := by
  induction h with
  | done => exact fun q hq => nomatch hq
  | cycle first _ ih =>
    intro q hq
    rcases List.mem_cons.1 hq with rfl | hq
    · obtain ⟨c, position, hcandidate, -⟩ := first
      exact (List.getElem?_eq_some_iff.1 hcandidate.fact).1
    · exact first.grown.facts ▸ ih q hq

/-! ## Projection -/

/-- `one` knows of the fact with a handle in `m` what `m` knows of it, and of no other fact. -/
structure Shows (m one : Memory) (handle position : Nat) : Prop where
  program : one.program = m.program
  fact : m.facts[handle]? = some position
  facts : one.facts = [position]
  present : position < m.pool.length ∧ position < one.pool.length
  same : one.pool.get position = m.pool.get position
  fired : ∀ o, (o, (0 : Int)) ∈ one.fired ↔ (o, (handle : Int)) ∈ m.fired

variable {m one m' : Memory} {handle position : Nat}

lemma Shows.candidate_iff (h : m.Shows one handle position) {o : Nat} {c : Clause} {i : Nat} :
    one.Candidate (o, 0) c i ↔ m.Candidate (o, handle) c i := by
  constructor
  · rintro ⟨hclause, hfact, hunfired, hholds⟩
    have hi : i = position := by simpa [h.facts] using hfact.symm
    subst hi
    exact ⟨h.program ▸ hclause, h.fact, fun hmem => hunfired ((h.fired o).2 hmem), h.same ▸ hholds⟩
  · rintro ⟨hclause, hfact, hunfired, hholds⟩
    have hi : i = position := Option.some.inj (hfact.symm.trans h.fact)
    subst hi
    exact ⟨h.program ▸ hclause, by simp [h.facts], fun hmem => hunfired ((h.fired o).1 hmem),
      h.same ▸ hholds⟩

lemma Shows.handle_eq_zero (h : m.Shows one handle position) {q : Nat × Nat} {c : Clause} {i : Nat}
    (hq : one.Candidate q c i) : q = (q.1, 0) := by
  have hlt := (List.getElem?_eq_some_iff.1 hq.fact).1
  rw [h.facts, List.length_singleton] at hlt
  exact Prod.ext rfl (by omega)

/-- A firing on the fact is a firing in the run over the fact alone. -/
lemma Shows.cycle_self (h : m.Shows one handle position) {o : Nat} (hcycle : m.Cycle (o, handle) m') :
    ∃ one', one.Cycle (o, 0) one' ∧ m'.Shows one' handle position := by
  obtain ⟨c, i, hcandidate, hbest⟩ := hcycle
  have hi : i = position := Option.some.inj (hcandidate.fact.symm.trans h.fact)
  subst hi
  refine ⟨_, .fire c i (h.candidate_iff.2 hcandidate) fun r d j hr hne => ?_, ?_⟩
  · have hzero := h.handle_eq_zero hr
    rw [hzero] at hr
    have hne' : (r.1, handle) ≠ (o, handle) := by
      intro heq
      rw [(Prod.mk.inj heq).1] at hzero
      exact hne hzero
    rcases hbest (r.1, handle) d j (h.candidate_iff.1 hr) hne' with hlt | ⟨heq, horder⟩
    · exact .inl hlt
    · refine .inr ⟨heq, .inl ?_⟩
      rcases horder with hlt | ⟨-, hlt⟩
      · exact hlt
      · exact absurd hlt (lt_irrefl _)
  · refine ⟨h.program, h.fact, h.facts, ?_, ?_, fun o' => ?_⟩
    · simpa using h.present
    · rw [Pool.get_setCategory_self _ h.present.1, Pool.get_setCategory_self _ h.present.2, h.same]
    · have hfired := h.fired o'
      simp only [List.mem_cons, Prod.mk.injEq]
      tauto

/-- A firing on another fact leaves the run over the fact alone where it is. -/
lemma Shows.cycle_of_ne (h : m.Shows one handle position) (hdistinct : m.facts.Nodup) {q : Nat × Nat}
    (hq : q.2 ≠ handle) (hcycle : m.Cycle q m') : m'.Shows one handle position := by
  obtain ⟨c, i, hcandidate, -⟩ := hcycle
  have hi : i ≠ position := by
    intro heq
    obtain ⟨hlt, hget⟩ := List.getElem?_eq_some_iff.1 hcandidate.fact
    obtain ⟨hlt', hget'⟩ := List.getElem?_eq_some_iff.1 h.fact
    exact hq (hdistinct.getElem_inj_iff.1 (hget.trans (heq.trans hget'.symm)))
  refine ⟨h.program, h.fact, h.facts, by simpa using h.present, ?_, fun o => ?_⟩
  · rw [Pool.get_setCategory_of_ne _ _ hi]
    exact h.same
  · rw [h.fired o, List.mem_cons]
    constructor
    · exact .inr
    · rintro (heq | hmem)
      · have := (Prod.mk.inj heq).2
        omega
      · exact hmem

/-- The cycles of a run on one of its facts are the run over that fact alone. -/
theorem Run.project {seq : List (Nat × Nat)} (hrun : m.Run seq m') (hdistinct : m.facts.Nodup)
    (h : m.Shows one handle position) :
    ∃ one', one.Run ((seq.filter (·.2 == handle)).map fun q => (q.1, 0)) one' ∧
      m'.Shows one' handle position := by
  induction hrun generalizing one with
  | done hnone =>
    refine ⟨one, .done fun q c i hq => ?_, h⟩
    rw [h.handle_eq_zero hq] at hq
    exact hnone _ c i (h.candidate_iff.1 hq)
  | @cycle m m' m'' q seq first _ ih =>
    have hfacts := first.grown.facts
    by_cases hq : q.2 = handle
    · obtain ⟨o, k⟩ := q
      obtain rfl : k = handle := hq
      obtain ⟨one', hone, hshows⟩ := h.cycle_self first
      obtain ⟨one'', hrun, hshows'⟩ := ih (hfacts ▸ hdistinct) hshows
      refine ⟨one'', ?_, hshows'⟩
      rw [List.filter_cons_of_pos (by simp), List.map_cons]
      exact .cycle hone hrun
    · rw [List.filter_cons_of_neg (by simpa using hq)]
      exact ih (hfacts ▸ hdistinct) (h.cycle_of_ne hdistinct hq first)

/-- Every cycle of a run is on one of its facts. -/
lemma Run.sum_length {seq : List (Nat × Nat)} (hrun : m.Run seq m') :
    ∑ k ∈ Finset.range m.facts.length, (seq.filter (·.2 == k)).length = seq.length := by
  have hlt := hrun.handle_lt
  clear hrun
  induction seq with
  | nil => simp
  | cons q seq ih =>
    have hq : q.2 ∈ Finset.range m.facts.length := Finset.mem_range.2 (hlt q (by simp))
    have hrest := ih fun r hr => hlt r (by simp [hr])
    have hcons (k : Nat) : ((q :: seq).filter (·.2 == k)).length =
        (seq.filter (·.2 == k)).length + if q.2 = k then 1 else 0 := by
      by_cases hk : q.2 = k
      · rw [List.filter_cons_of_pos (by simpa using hk), if_pos hk, List.length_cons]
      · rw [List.filter_cons_of_neg (by simpa using hk), if_neg hk, Nat.add_zero]
    simp only [hcons, Finset.sum_add_distrib, hrest, Finset.sum_ite_eq, hq, if_true, List.length_cons]

end Memory

end TransactionRules
