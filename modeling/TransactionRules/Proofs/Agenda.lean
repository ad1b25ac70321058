import TransactionRules.Proofs.Salience
import TransactionRules.Proofs.Sessions

/-!
# The agenda

The agenda of a session is in strict order and holds only activations of clauses and facts of the
session that have not fired, each of them once (`Session.Tidy`). Every operation keeps this. Taking an
activation off the agenda lowers a potential that `Session.bound` majorizes, whether it fires or not,
so firing ends with an empty agenda (`agenda_run`).
-/

namespace TransactionRules

/-- The clause and the handle of an activation. -/
def Activation.pair (a : Activation) : Nat × Int := (a.order, a.handle)

lemma Program.WellFormed.getElem? {p : Program} (h : p.WellFormed) {c : Clause} (hc : c ∈ p.clauses) :
    p.clauses[c.order]? = some c := by
  obtain ⟨i, hi⟩ := List.mem_iff_getElem?.1 hc
  rw [h.numbered i c hi, hi]

namespace Session

structure Tidy (s : Session) : Prop where
  program : s.program.WellFormed
  sorted : s.agenda.Pairwise (Activation.place · < Activation.place ·)
  valid : ∀ a ∈ s.agenda, ∃ c, s.program.clauses[a.order]? = some c ∧ a.salience = c.salience ∧
    0 ≤ a.handle ∧ a.handle < s.facts.length
  queued : s.queued.Perm (s.agenda.map Activation.pair)
  unfired : ∀ a ∈ s.agenda, a.pair ∉ s.fired

variable {s : Session} {pool : Pool}

lemma isSettled_iff {o : Nat} {handle : Int} :
    s.isSettled o handle = true ↔ (o, handle) ∈ s.fired ∨ (o, handle) ∈ s.queued := by
  simp [isSettled]

lemma Tidy.isNumber (h : s.Tidy) {a : Activation} (ha : a ∈ s.agenda) : a.salience.IsNumber := by
  obtain ⟨c, hc, hsalience, -⟩ := h.valid a ha
  rw [hsalience]
  exact h.program.saliences c (List.mem_of_getElem? hc)

/-- No clause waits twice for one fact. -/
lemma Tidy.nodup (h : s.Tidy) : (s.agenda.map Activation.pair).Nodup := by
  refine List.pairwise_map.2 (h.sorted.imp_of_mem fun {a b} ha hb hlt heq => ne_of_lt hlt ?_)
  obtain ⟨horder, hhandle⟩ := Prod.mk.inj heq
  obtain ⟨c, hc, hsa, -⟩ := h.valid a ha
  obtain ⟨d, hd, hsb, -⟩ := h.valid b hb
  rw [horder, hd] at hc
  rw [Activation.place, Activation.place, hsa, hsb, Option.some.inj hc, horder, hhandle]

/-! ## Matching -/

lemma Tidy.queue (h : s.Tidy) {c : Clause} (hc : c ∈ s.program.clauses) {handle : Int}
    (hhandle : 0 ≤ handle ∧ handle < s.facts.length) (hsettled : s.isSettled c.order handle = false) :
    (s.queue c handle).Tidy := by
  have hnew : ¬((c.order, handle) ∈ s.fired ∨ (c.order, handle) ∈ s.queued) := by
    rw [← isSettled_iff, hsettled]
    exact Bool.false_ne_true
  have hperm := Activation.perm_insert ⟨c.salience, c.order, handle⟩ s.agenda
  refine ⟨h.program, ?_, fun a ha => ?_, ?_, fun a ha => ?_⟩
  · refine Activation.insert_sorted (h.program.saliences c hc) (fun b hb => h.isNumber hb) ?_ h.sorted
    intro b hb heq
    obtain ⟨horder, hhandle⟩ := Activation.place_injective heq
    refine hnew (.inr (h.queued.mem_iff.2 (List.mem_map.2 ⟨b, hb, ?_⟩)))
    rw [Activation.pair, horder, hhandle]
  · rcases List.mem_cons.1 (hperm.mem_iff.1 ha) with rfl | ha
    · exact ⟨c, h.program.getElem? hc, rfl, hhandle⟩
    · exact h.valid a ha
  · exact ((h.queued.cons (c.order, handle)).trans (hperm.map Activation.pair).symm)
  · rcases List.mem_cons.1 (hperm.mem_iff.1 ha) with rfl | ha
    · exact fun hmem => hnew (.inl hmem)
    · exact h.unfired a ha

lemma Tidy.matchFact (h : s.Tidy) (t : Transaction) {handle : Int}
    (hhandle : 0 ≤ handle ∧ handle < s.facts.length) : (s.matchFact t handle).Tidy := by
  have hall := s.matchFact_induction t handle
    (fun s' => s'.Tidy ∧ s'.program = s.program ∧ s'.facts = s.facts) ⟨h, rfl, rfl⟩ ?_
  · exact hall.1
  · rintro s' c ⟨hs', hprogram, hfacts⟩ hc hsettled -
    exact ⟨hs'.queue (hprogram ▸ hc) (hfacts ▸ hhandle) hsettled, hprogram, hfacts⟩

lemma isSettled_matchClause (t : Transaction) (handle : Int) (c : Clause) {o : Nat} {other : Int}
    (h : s.isSettled o other = true) : (matchClause t handle s c).isSettled o other = true := by
  unfold matchClause
  split_ifs
  · exact h
  · rw [isSettled_iff] at h ⊢
    exact h.imp_right (List.mem_cons_of_mem _)
  · exact h

lemma isSettled_matchClause_self {t : Transaction} {c : Clause} (hholds : c.rule.holds t = true)
    (s : Session) (handle : Int) : (matchClause t handle s c).isSettled c.order handle = true := by
  unfold matchClause
  split_ifs with hsettled
  · exact hsettled
  · exact isSettled_iff.2 (.inr List.mem_cons_self)

/-- What is settled stays so, and once a fact is matched each clause that holds on it is settled. -/
lemma isSettled_matchFact (s : Session) (t : Transaction) (handle : Int) {o : Nat} {other : Int}
    (h : s.isSettled o other = true ∨
      other = handle ∧ ∃ c ∈ s.program.clauses, c.order = o ∧ c.rule.holds t = true) :
    (s.matchFact t handle).isSettled o other = true := by
  unfold matchFact
  generalize s.program.clauses = clauses at h
  induction clauses generalizing s with
  | nil =>
    rcases h with h | ⟨-, c, hc, -⟩
    · exact h
    · cases hc
  | cons d clauses ih =>
    refine ih _ ?_
    rcases h with h | ⟨rfl, c, hc, rfl, hholds⟩
    · exact .inl (isSettled_matchClause t handle d h)
    · rcases List.mem_cons.1 hc with rfl | hc
      · exact .inl (isSettled_matchClause_self hholds s other)
      · exact .inr ⟨rfl, c, hc, rfl, hholds⟩

lemma handle_of_mem_matchFact (s : Session) (t : Transaction) (handle : Int) :
    ∀ a ∈ (s.matchFact t handle).agenda, a ∈ s.agenda ∨ a.handle = handle := by
  refine s.matchFact_induction t handle
    (fun s' => ∀ a ∈ s'.agenda, a ∈ s.agenda ∨ a.handle = handle) (fun a ha => .inl ha) ?_
  intro s' c hs' _ _ _ a ha
  rcases List.mem_cons.1 ((Activation.perm_insert _ _).mem_iff.1 ha) with rfl | ha
  · exact .inr rfl
  · exact hs' a ha

lemma length_agenda_matchFact_le (s : Session) (t : Transaction) (handle : Int) :
    (s.matchFact t handle).agenda.length ≤ s.agenda.length + s.program.size := by
  have hfold (clauses : List Clause) (s : Session) :
      (clauses.foldl (matchClause t handle) s).agenda.length ≤ s.agenda.length + clauses.length := by
    induction clauses generalizing s with
    | nil => exact le_refl _
    | cons c clauses ih =>
      have hclause : (matchClause t handle s c).agenda.length ≤ s.agenda.length + 1 := by
        unfold matchClause
        split_ifs
        · omega
        · exact (Activation.perm_insert _ _).length_eq.le
        · omega
      have hrest := ih (matchClause t handle s c)
      rw [List.foldl_cons, List.length_cons]
      omega
  exact hfold s.program.clauses s

/-! ## Firing -/

lemma Tidy.popped (h : s.Tidy) {a : Activation} {rest : List Activation}
    (hagenda : s.agenda = a :: rest) : (s.popped a rest).Tidy where
  program := h.program
  sorted := (List.pairwise_cons.1 (hagenda ▸ h.sorted)).2
  valid := fun b hb => h.valid b (hagenda ▸ List.mem_cons_of_mem a hb)
  queued := by
    have hqueued := h.queued
    rw [hagenda, List.map_cons] at hqueued
    have herase := hqueued.erase a.pair
    rwa [List.erase_cons_head] at herase
  unfired := fun b hb => h.unfired b (hagenda ▸ List.mem_cons_of_mem a hb)

lemma Tidy.settled (h : s.Tidy) {a : Activation} {rest : List Activation}
    (hagenda : s.agenda = a :: rest) (t : Transaction) : ((s.popped a rest).settled a t).Tidy := by
  have hpopped := h.popped hagenda
  obtain ⟨-, -, -, hhandle⟩ := h.valid a (hagenda ▸ List.mem_cons_self)
  refine Tidy.matchFact (s := { s.popped a rest with fired := a.pair :: s.fired }) ?_ t hhandle
  refine ⟨hpopped.program, hpopped.sorted, hpopped.valid, hpopped.queued, fun b hb hmem => ?_⟩
  rcases List.mem_cons.1 hmem with heq | hmem
  · have hnodup := h.nodup
    rw [hagenda, List.map_cons, List.nodup_cons] at hnodup
    exact hnodup.1 (heq ▸ List.mem_map_of_mem hb)
  · exact hpopped.unfired b hb hmem

lemma Tidy.step {f : Firings} (h : f.session.Tidy) {a : Activation} {rest : List Activation}
    (hagenda : f.session.agenda = a :: rest) : (step f a rest).session.Tidy := by
  cases hfiring : f.session.firing? f.pool a with
  | none =>
    obtain ⟨_, hstep⟩ := step_of_none hfiring rest
    rw [hstep]
    exact h.popped hagenda
  | some fires =>
    obtain ⟨_, hstep⟩ := step_of_some hfiring rest
    rw [hstep]
    exact h.settled hagenda _

/-! ## Termination -/

/-- The pairs that have not fired, of all clauses with the handles on the agenda. -/
def openPairs (s : Session) : Finset (Nat × Int) :=
  (Finset.range s.program.size ×ˢ (s.agenda.map (·.handle)).toFinset).filter (· ∉ s.fired)

/-- What every activation that is taken off the agenda lowers. -/
def potential (s : Session) : Nat := s.agenda.length + s.program.size * s.openPairs.card

lemma mem_openPairs {q : Nat × Int} :
    q ∈ s.openPairs ↔ (q.1 < s.program.size ∧ ∃ a ∈ s.agenda, a.handle = q.2) ∧ q ∉ s.fired := by
  simp [openPairs]

lemma potential_le_bound (s : Session) : s.potential ≤ s.bound := by
  have hcard : s.openPairs.card ≤ s.program.size * s.agenda.length := by
    refine (Finset.card_filter_le _ _).trans ?_
    rw [Finset.card_product, Finset.card_range]
    refine Nat.mul_le_mul_left _ ((List.toFinset_card_le _).trans ?_)
    rw [List.length_map]
  have hmul := Nat.mul_le_mul_left s.program.size hcard
  calc s.potential ≤ s.agenda.length + s.program.size * (s.program.size * s.agenda.length) := by
        unfold potential
        omega
    _ = s.bound := by
        unfold bound
        ring

lemma card_openPairs_popped (s : Session) {a : Activation} {rest : List Activation}
    (hagenda : s.agenda = a :: rest) : (s.popped a rest).openPairs.card ≤ s.openPairs.card := by
  refine Finset.card_le_card fun q hq => ?_
  obtain ⟨⟨horder, b, hb, hhandle⟩, hfired⟩ := mem_openPairs.1 hq
  exact mem_openPairs.2 ⟨⟨horder, b, hagenda ▸ List.mem_cons_of_mem a hb, hhandle⟩, hfired⟩

/-- A firing settles a pair for good. -/
lemma card_openPairs_settled {a : Activation} {rest : List Activation} (hagenda : s.agenda = a :: rest)
    (hunfired : a.pair ∉ s.fired) (horder : a.order < s.program.size) (t : Transaction) :
    ((s.popped a rest).settled a t).openPairs.card + 1 ≤ s.openPairs.card := by
  generalize hs' : (s.popped a rest).settled a t = s'
  have hprogram : s'.program = s.program := by rw [← hs']; exact program_matchFact _ _ _
  have hfired : s'.fired = a.pair :: s.fired := by rw [← hs']; exact fired_matchFact _ _ _
  have hhandle : ∀ b ∈ s'.agenda, ∃ c ∈ s.agenda, c.handle = b.handle := by
    intro b hb
    rw [← hs'] at hb
    rcases handle_of_mem_matchFact _ _ _ b hb with hb | hb
    · exact ⟨b, hagenda ▸ List.mem_cons_of_mem a hb, rfl⟩
    · exact ⟨a, hagenda ▸ List.mem_cons_self, hb.symm⟩
  have hsub : s'.openPairs ⊆ s.openPairs.erase a.pair := by
    intro q hq
    obtain ⟨⟨hq1, b, hb, hq2⟩, hq3⟩ := mem_openPairs.1 hq
    rw [hfired, List.mem_cons, not_or] at hq3
    obtain ⟨c, hc, hcb⟩ := hhandle b hb
    exact Finset.mem_erase.2
      ⟨hq3.1, mem_openPairs.2 ⟨⟨hprogram ▸ hq1, c, hc, hcb.trans hq2⟩, hq3.2⟩⟩
  have hmem : a.pair ∈ s.openPairs :=
    mem_openPairs.2 ⟨⟨horder, a, hagenda ▸ List.mem_cons_self, rfl⟩, hunfired⟩
  have hcard := Finset.card_le_card hsub
  have herase := Finset.card_erase_add_one hmem
  omega

lemma potential_popped (s : Session) {a : Activation} {rest : List Activation}
    (hagenda : s.agenda = a :: rest) : (s.popped a rest).potential < s.potential := by
  have hmul := Nat.mul_le_mul_left s.program.size (card_openPairs_popped s hagenda)
  have hlength : s.agenda.length = rest.length + 1 := by rw [hagenda, List.length_cons]
  have hpopped : (s.popped a rest).potential =
      rest.length + s.program.size * (s.popped a rest).openPairs.card := rfl
  have hpotential : s.potential = s.agenda.length + s.program.size * s.openPairs.card := rfl
  omega

/-- A firing queues no more activations than there are clauses. -/
lemma potential_settled {a : Activation} {rest : List Activation} (hagenda : s.agenda = a :: rest)
    (hunfired : a.pair ∉ s.fired) (horder : a.order < s.program.size) (t : Transaction) :
    ((s.popped a rest).settled a t).potential < s.potential := by
  have hprogram : ((s.popped a rest).settled a t).program = s.program := program_matchFact _ _ _
  have hlength : ((s.popped a rest).settled a t).agenda.length ≤ rest.length + s.program.size :=
    length_agenda_matchFact_le _ _ _
  have hmul := Nat.mul_le_mul_left s.program.size (card_openPairs_settled hagenda hunfired horder t)
  have hlengths : s.agenda.length = rest.length + 1 := by rw [hagenda, List.length_cons]
  unfold potential
  rw [hprogram]
  rw [Nat.mul_add, Nat.mul_one] at hmul
  omega

lemma potential_step_of_unfired {f : Firings} {a : Activation} {rest : List Activation}
    (hagenda : f.session.agenda = a :: rest) (hunfired : a.pair ∉ f.session.fired) :
    (step f a rest).session.potential < f.session.potential := by
  cases hfiring : f.session.firing? f.pool a with
  | none =>
    obtain ⟨_, hstep⟩ := step_of_none hfiring rest
    rw [hstep]
    exact potential_popped _ hagenda
  | some fires =>
    obtain ⟨_, hstep⟩ := step_of_some hfiring rest
    rw [hstep]
    have hclause := (firing?_eq_some.1 hfiring).1
    exact potential_settled hagenda hunfired (List.getElem?_eq_some_iff.1 hclause).1 _

lemma potential_step {f : Firings} (h : f.session.Tidy) {a : Activation} {rest : List Activation}
    (hagenda : f.session.agenda = a :: rest) :
    (step f a rest).session.potential < f.session.potential :=
  potential_step_of_unfired hagenda (h.unfired a (hagenda ▸ List.mem_cons_self))

/-- Firing goes on until the agenda is empty. -/
theorem agenda_run {fuel : Nat} {f : Firings} (h : f.session.Tidy)
    (hfuel : f.session.potential ≤ fuel) : (run fuel f).session.agenda = [] := by
  induction fuel generalizing f with
  | zero =>
    have hlength : f.session.agenda.length = 0 := by
      unfold potential at hfuel
      omega
    exact List.eq_nil_of_length_eq_zero hlength
  | succ fuel ih =>
    cases hagenda : f.session.agenda with
    | nil => rwa [run_of_nil hagenda]
    | cons a rest =>
      have hlt := potential_step h hagenda
      rw [run_of_cons hagenda]
      exact ih (h.step hagenda) (by omega)

end Session

end TransactionRules
