import TransactionRules.Proofs.Agenda

/-!
# Refraction

What a session remembers of its firings are pairs of a clause and a handle, and no pair fires twice.
A fact has one handle that is not negative, the one that inserting gave; but a negative handle stands
for a fact as well, and what it stands for moves with every fact that is inserted. So a session whose
facts are matched again under the handles of their insertion fires no clause twice on a fact, and any
session fires at most twice as often as there are pairs of a clause and a fact (`Traced.refraction`).
-/

namespace TransactionRules.Session

/-- Sessions that are reached by inserting new facts, matching facts again under handles that the
session takes, firing, and changes of the transactions from outside. `used` has the handles under
which facts were matched again, `log` the clauses that fired and the positions of their facts. -/
inductive Traced (p : Program) : Session → Pool → List Int → List (Nat × Nat) → Prop where
  | start (pool : Pool) : Traced p (ofProgram p) pool [] []
  | insert {s s' : Session} {pool : Pool} {used : List Int} {log : List (Nat × Nat)} {position : Nat}
      {handle : Int} {events : List Event} (h : Traced p s pool used log) (new : position ∉ s.facts)
      (insert : s.insert pool position = .ok (s', handle, events)) : Traced p s' pool used log
  | update {s s' : Session} {pool : Pool} {used : List Int} {log : List (Nat × Nat)} {handle : Value}
      {n : Int} {events : List Event} (h : Traced p s pool used log) (whole : handleOf handle = .ok n)
      (update : s.updateAt pool handle = .ok (s', events)) : Traced p s' pool (n :: used) log
  | change {s : Session} {pool : Pool} {used : List Int} {log : List (Nat × Nat)}
      (h : Traced p s pool used log) (pool' : Pool) : Traced p s pool' used log
  | fire {s : Session} {pool : Pool} {used : List Int} {log : List (Nat × Nat)} {f : Firings}
      (h : Traced p s pool used log) (fire : s.fireAll pool = .ok f) :
      Traced p f.session f.pool used (log ++ f.fired)

/-! ## What every operation keeps -/

/-- A handle of a fact, that was used for an update if it is negative. -/
def Usable (s : Session) (used : List Int) (n : Int) : Prop :=
  (-(s.facts.length : Int) ≤ n ∧ n < s.facts.length) ∧ (0 ≤ n ∨ n ∈ used)

/-- An entry of the log is about a pair that fired. What a negative handle stood for is forgotten. -/
def Recorded (s : Session) (q : Nat × Int) (entry : Nat × Nat) : Prop :=
  q.1 = entry.1 ∧ (0 ≤ q.2 → s.facts[q.2.toNat]? = some entry.2)

/-- No pair waits or has fired twice, and the log has an entry for each that has fired. -/
structure Refracts (s : Session) (used : List Int) (log : List (Nat × Nat)) : Prop where
  distinct : s.facts.Nodup
  queued : s.queued.Perm (s.agenda.map Activation.pair)
  once : (s.queued ++ s.fired).Nodup
  usable : ∀ q ∈ s.queued ++ s.fired, s.Usable used q.2
  clauses : ∀ q ∈ s.fired, q.1 < s.program.size
  recorded : List.Forall₂ s.Recorded s.fired.reverse log

variable {s : Session} {pool : Pool} {used : List Int} {log : List (Nat × Nat)}

lemma fact?_eq_some {n : Int} {position : Nat} (h : s.fact? n = some position) :
    (-(s.facts.length : Int) ≤ n ∧ n < s.facts.length) ∧
      (0 ≤ n → s.facts[n.toNat]? = some position) := by
  unfold fact? at h
  split_ifs at h with hpos hneg
  · have hlt := (List.getElem?_eq_some_iff.1 h).1
    exact ⟨by omega, fun _ => h⟩
  · exact ⟨by omega, fun hpos' => absurd hpos' hpos⟩

lemma refracts_ofProgram (p : Program) : (ofProgram p).Refracts [] [] where
  distinct := .nil
  queued := .refl _
  once := .nil
  usable := fun _ hq => nomatch hq
  clauses := fun _ hq => nomatch hq
  recorded := .nil

/-- Firing changes neither the program nor whether the session is open. -/
lemma frame_run (fuel : Nat) (f : Firings) :
    (run fuel f).session.program = f.session.program ∧
      (run fuel f).session.disposed = f.session.disposed := by
  induction fuel generalizing f with
  | zero => exact ⟨rfl, rfl⟩
  | succ fuel ih =>
    cases hagenda : f.session.agenda with
    | nil =>
      rw [run_of_nil hagenda]
      exact ⟨rfl, rfl⟩
    | cons a rest =>
      rw [run_of_cons hagenda]
      obtain ⟨hprogram, hdisposed⟩ := ih (step f a rest)
      cases hfiring : f.session.firing? f.pool a with
      | none =>
        obtain ⟨_, hstep⟩ := step_of_none hfiring rest
        rw [hstep] at hprogram hdisposed ⊢
        exact ⟨hprogram, hdisposed⟩
      | some fires =>
        obtain ⟨_, hstep⟩ := step_of_some hfiring rest
        rw [hstep] at hprogram hdisposed ⊢
        exact ⟨hprogram.trans (program_matchFact _ _ _), hdisposed.trans (disposed_matchFact _ _ _)⟩

namespace Refracts

lemma queue (h : s.Refracts used log) {c : Clause} {n : Int} (hn : s.Usable used n)
    (hsettled : s.isSettled c.order n = false) : (s.queue c n).Refracts used log := by
  have hnew : (c.order, n) ∉ s.queued ++ s.fired := by
    intro hmem
    have htrue : s.isSettled c.order n = true := isSettled_iff.2 (List.mem_append.1 hmem).symm
    rw [hsettled] at htrue
    cases htrue
  refine ⟨h.distinct, ?_, List.nodup_cons.2 ⟨hnew, h.once⟩, fun q hq => ?_, h.clauses, h.recorded⟩
  · have hperm := Activation.perm_insert ⟨c.salience, c.order, n⟩ s.agenda
    exact (h.queued.cons (c.order, n)).trans (hperm.map Activation.pair).symm
  · rcases List.mem_cons.1 hq with rfl | hq
    · exact hn
    · exact h.usable q hq

lemma matchFact (h : s.Refracts used log) (t : Transaction) {n : Int} (hn : s.Usable used n) :
    (s.matchFact t n).Refracts used log := by
  have hall := s.matchFact_induction t n (fun s' => s'.Refracts used log ∧ s'.facts = s.facts)
    ⟨h, rfl⟩ ?_
  · exact hall.1
  · rintro s' c ⟨hs', hfacts⟩ - hsettled -
    have hn' : s'.Usable used n := by
      rw [Usable, hfacts]
      exact hn
    exact ⟨hs'.queue hn' hsettled, hfacts⟩

/-- Inserting a fact lets every handle stand that stood, and a handle that is not negative stands for
the same fact as before. -/
lemma add (h : s.Refracts used log) (pool : Pool) {position : Nat} (hnew : position ∉ s.facts) :
    (Session.add pool s position).Refracts used log := by
  have hlength : (s.facts ++ [position]).length = s.facts.length + 1 := by simp
  have hgrown : ({ s with facts := s.facts ++ [position] } : Session).Refracts used log := by
    refine ⟨?_, h.queued, h.once, fun q hq => ?_, h.clauses, h.recorded.imp fun q entry hentry => ?_⟩
    · refine List.nodup_append.2 ⟨h.distinct, List.nodup_singleton _, fun i hi j hj heq => hnew ?_⟩
      rw [← List.mem_singleton.1 hj, ← heq]
      exact hi
    · obtain ⟨hbounds, hsign⟩ := h.usable q hq
      simp only [Usable, hlength]
      exact ⟨by omega, hsign⟩
    · refine ⟨hentry.1, fun hpos => ?_⟩
      have hfact := hentry.2 hpos
      have hlt := (List.getElem?_eq_some_iff.1 hfact).1
      rw [List.getElem?_append_left hlt]
      exact hfact
  refine hgrown.matchFact _ ⟨?_, .inl (Int.natCast_nonneg _)⟩
  simp only [hlength]
  omega

lemma update (h : s.Refracts used log) (t : Transaction) {n : Int} {position : Nat}
    (hfact : s.fact? n = some position) : (s.matchFact t n).Refracts (n :: used) log := by
  have hmore : s.Refracts (n :: used) log :=
    ⟨h.distinct, h.queued, h.once, fun q hq => ⟨(h.usable q hq).1, (h.usable q hq).2.imp_right
      (List.mem_cons_of_mem n)⟩, h.clauses, h.recorded⟩
  exact hmore.matchFact t ⟨(fact?_eq_some hfact).1, .inr List.mem_cons_self⟩

lemma popped (h : s.Refracts used log) {a : Activation} {rest : List Activation}
    (hagenda : s.agenda = a :: rest) : (s.popped a rest).Refracts used log := by
  have hqueued := h.queued
  rw [hagenda, List.map_cons] at hqueued
  have herase := hqueued.erase a.pair
  rw [List.erase_cons_head] at herase
  have hsub : (s.queued.erase a.pair ++ s.fired).Sublist (s.queued ++ s.fired) :=
    List.erase_sublist.append_right _
  exact ⟨h.distinct, herase, h.once.sublist hsub, fun q hq => h.usable q (hsub.subset hq), h.clauses,
    h.recorded⟩

lemma settled (h : s.Refracts used log) {a : Activation} {rest : List Activation}
    (hagenda : s.agenda = a :: rest) {c : Clause} {position : Nat}
    (hfiring : s.firing? pool a = some (c, position)) (t : Transaction) :
    ((s.popped a rest).settled a t).Refracts used (log ++ [(a.order, position)]) := by
  obtain ⟨hclause, hfact, -⟩ := firing?_eq_some.1 hfiring
  have hpopped := h.popped hagenda
  have hmem : a.pair ∈ s.queued := by
    rw [h.queued.mem_iff, hagenda]
    exact List.mem_map_of_mem List.mem_cons_self
  have husable : s.Usable used a.handle := h.usable a.pair (List.mem_append_left _ hmem)
  -- the pair moves from what waits to what has fired
  have hmoved : (s.queued.erase a.pair ++ a.pair :: s.fired).Perm (s.queued ++ s.fired) :=
    List.perm_middle.trans ((List.perm_cons_erase hmem).symm.append_right s.fired)
  refine Refracts.matchFact (s := { s.popped a rest with fired := a.pair :: s.fired }) ?_ t husable
  refine ⟨h.distinct, hpopped.queued, hmoved.nodup_iff.2 h.once,
    fun q hq => h.usable q (hmoved.mem_iff.1 hq), fun q hq => ?_, ?_⟩
  · rcases List.mem_cons.1 hq with rfl | hq
    · exact (List.getElem?_eq_some_iff.1 hclause).1
    · exact h.clauses q hq
  · rw [List.reverse_cons]
    exact List.rel_append h.recorded (.cons ⟨rfl, (fact?_eq_some hfact).2⟩ .nil)

lemma step {f : Firings} (h : f.session.Refracts used (log ++ f.fired)) {a : Activation}
    {rest : List Activation} (hagenda : f.session.agenda = a :: rest) :
    (step f a rest).session.Refracts used (log ++ (step f a rest).fired) := by
  cases hfiring : f.session.firing? f.pool a with
  | none =>
    obtain ⟨_, hstep⟩ := step_of_none hfiring rest
    rw [hstep]
    exact h.popped hagenda
  | some fires =>
    obtain ⟨_, hstep⟩ := step_of_some hfiring rest
    rw [hstep, ← List.append_assoc]
    exact h.settled hagenda hfiring _

lemma run {f : Firings} (h : f.session.Refracts used (log ++ f.fired)) (fuel : Nat) :
    (run fuel f).session.Refracts used (log ++ (run fuel f).fired) := by
  induction fuel generalizing f with
  | zero => exact h
  | succ fuel ih =>
    cases hagenda : f.session.agenda with
    | nil => rwa [run_of_nil hagenda]
    | cons a rest =>
      rw [run_of_cons hagenda]
      exact ih (h.step hagenda)

/-- Pairs that fired have handles of facts, so there are not more than twice as many as pairs of a
clause and a fact; and not more than these if no handle is negative. -/
lemma length_fired_le (h : s.Refracts used log) {low : Int}
    (hlow : ∀ q ∈ s.fired, low ≤ q.2) :
    s.fired.length ≤ s.program.size * (s.facts.length - low).toNat := by
  have hfired : s.fired.Nodup := (List.nodup_append.1 h.once).2.1
  have hsub : s.fired.toFinset ⊆
      Finset.range s.program.size ×ˢ Finset.Ico low (s.facts.length : Int) := by
    intro q hq
    have hq := List.mem_toFinset.1 hq
    have hbounds := (h.usable q (List.mem_append_right _ hq)).1
    exact Finset.mem_product.2 ⟨Finset.mem_range.2 (h.clauses q hq),
      Finset.mem_Ico.2 ⟨hlow q hq, hbounds.2⟩⟩
  have hcard := Finset.card_le_card hsub
  rwa [List.toFinset_card_of_nodup hfired, Finset.card_product, Finset.card_range, Int.card_Ico] at hcard

/-- Without negative handles, two firings of one clause are on different facts. -/
lemma nodup_log (h : s.Refracts used log) (hpos : ∀ q ∈ s.fired, 0 ≤ q.2) : log.Nodup := by
  have hfired : s.fired.reverse.Nodup := List.nodup_reverse.2 (List.nodup_append.1 h.once).2.1
  have hrecorded : List.Forall₂ (fun q entry => 0 ≤ q.2 ∧ s.Recorded q entry) s.fired.reverse log :=
    (List.forall₂_and_left _ _).2 ⟨fun q hq => hpos q (List.mem_reverse.1 hq), h.recorded⟩
  refine (List.rel_nodup ⟨?_, ?_⟩ hrecorded).1 hfired
  · rintro q r entry ⟨hq, horder, hfact⟩ ⟨hr, horder', hfact'⟩
    obtain ⟨hlt, hget⟩ := List.getElem?_eq_some_iff.1 (hfact hq)
    obtain ⟨hlt', hget'⟩ := List.getElem?_eq_some_iff.1 (hfact' hr)
    have hindex := (h.distinct.getElem_inj_iff).1 (hget.trans hget'.symm)
    exact Prod.ext (horder.trans horder'.symm) (by omega)
  · rintro q entry entry' ⟨hq, horder, hfact⟩ ⟨-, horder', hfact'⟩
    exact Prod.ext (horder.symm.trans horder') (Option.some.inj ((hfact hq).symm.trans (hfact' hq)))

end Refracts

/-! ## Whole sessions -/

namespace Traced

variable {p : Program}

lemma refracts (h : Traced p s pool used log) :
    s.Refracts used log ∧ s.program = p ∧ s.disposed = false := by
  induction h with
  | start pool => exact ⟨refracts_ofProgram p, rfl, rfl⟩
  | @insert s s' pool used log position handle events _ new insert ih =>
    obtain ⟨hs, hprogram, hopened⟩ := ih
    obtain ⟨_, heq⟩ := insert_eq hopened pool position
    rw [heq, Except.ok.injEq] at insert
    rw [← (Prod.mk.inj insert).1]
    exact ⟨hs.add pool new, by simpa using hprogram, by simpa using hopened⟩
  | @update s s' pool used log handle n events _ whole update ih =>
    obtain ⟨hs, hprogram, hopened⟩ := ih
    simp only [updateAt, whole, Session.update, hopened] at update
    cases hfact : s.fact? n with
    | none => simp [hfact] at update
    | some position =>
      simp only [hfact, Bool.false_eq_true, if_false, Except.ok.injEq] at update
      rw [← (Prod.mk.inj update).1]
      exact ⟨hs.update _ hfact, by simpa using hprogram, by simpa using hopened⟩
  | change _ pool' ih => exact ih
  | @fire s pool used log f _ fire ih =>
    obtain ⟨hs, hprogram, hopened⟩ := ih
    rw [fireAll_eq hopened, Except.ok.injEq] at fire
    have hrun := Refracts.run (f := { session := s, pool := pool }) (by simpa using hs) s.bound
    obtain ⟨hprogram', hopened'⟩ := frame_run s.bound { session := s, pool := pool }
    rw [← fire]
    exact ⟨hrun, hprogram'.trans hprogram, hopened'.trans hopened⟩

/-- Refraction is by handles: no clause fires twice under one. So a session fires at most twice as
often as there are pairs of a clause and a fact; if no negative handle was used, no clause fires twice
on a fact, and the session fires at most once for each pair. The program may be any. -/
theorem refraction (h : Traced p s pool used log) :
    s.fired.Nodup ∧ s.fired.length = log.length ∧
      log.length ≤ p.size * (2 * s.facts.length) ∧
      ((∀ n ∈ used, 0 ≤ n) → log.Nodup ∧ log.length ≤ p.size * s.facts.length) := by
  obtain ⟨hs, rfl, -⟩ := h.refracts
  have hlength : s.fired.length = log.length := by simpa using hs.recorded.length_eq
  refine ⟨(List.nodup_append.1 hs.once).2.1, hlength, ?_, fun hused => ?_⟩
  · have hlow : ∀ q ∈ s.fired, -(s.facts.length : Int) ≤ q.2 := fun q hq =>
      (hs.usable q (List.mem_append_right _ hq)).1.1
    have hle := hs.length_fired_le hlow
    have hwidth : ((s.facts.length : Int) - -(s.facts.length : Int)).toNat = 2 * s.facts.length := by
      omega
    rwa [hwidth, hlength] at hle
  · have hpos : ∀ q ∈ s.fired, 0 ≤ q.2 := fun q hq =>
      (hs.usable q (List.mem_append_right _ hq)).2.elim id (hused q.2)
    have hle := hs.length_fired_le hpos
    rw [sub_zero, Int.toNat_natCast, hlength] at hle
    exact ⟨hs.nodup_log hpos, hle⟩

/-- A program of one clause that holds on every transaction. -/
def unconditional : Program :=
  ⟨"c", [⟨"c-rule", .int 10, 0,
    { id := .int 1, name := .text "rule", priority := .int 10, expression := .text "true"
      categoryId := .int 3, categoryName := .text "Food", predicate := ⟨0, .constant (.bool true)⟩ }⟩]⟩

/-- The clause fires once on a fact that is matched again under the handle of its insertion. -/
theorem refraction_unconditional :
    ∃ s pool used log, Traced unconditional s pool used log ∧ used = [0] ∧ log = [(0, 0)] ∧
      log.length ≤ unconditional.size * s.facts.length := by
  have hnew : 0 ∉ (ofProgram unconditional).facts := List.not_mem_nil
  have hfired := Traced.fire (.insert (.start [{}]) hnew rfl) rfl
  have hhandle : handleOf (.int 0) = .ok 0 := rfl
  have hupdated := Traced.update hfired hhandle rfl
  have hfinal := Traced.fire hupdated rfl
  exact ⟨_, _, _, _, hfinal, rfl, rfl, (hfinal.refraction.2.2.2 (by decide)).2⟩

/-- Under the handle -1 the fact is matched as if nothing had fired on it. -/
theorem fires_twice :
    ∃ s pool used log, Traced unconditional s pool used log ∧ used = [-1] ∧
      log = [(0, 0), (0, 0)] ∧ unconditional.size * s.facts.length = 1 := by
  have hnew : 0 ∉ (ofProgram unconditional).facts := List.not_mem_nil
  have hfired := Traced.fire (.insert (.start [{}]) hnew rfl) rfl
  have hhandle : handleOf (.int (-1)) = .ok (-1) := rfl
  have hupdated := Traced.update hfired hhandle rfl
  have hfinal := Traced.fire hupdated rfl
  exact ⟨_, _, _, _, hfinal, rfl, rfl, rfl⟩

end Traced

end TransactionRules.Session
