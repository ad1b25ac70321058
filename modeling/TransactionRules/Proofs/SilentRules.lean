import TransactionRules.Proofs.Policies

/-!
# Silent rules

A rule is silent on a transaction if its condition fails or does not hold on it, whatever category the
transaction could come to have. Taking such a rule out of a set renumbers the clauses behind it, and
that is all: the run over the transaction fires the same rules in the same order
(`Memory.Lacks.run`), so both engines leave the transaction as they leave it with the rule
(`Engine.apply_remove`). A rule that fails on one transaction is out of the way there only.
-/

namespace TransactionRules

namespace CompiledRule

/-- Whether the condition of the rule fails or does not hold on a transaction, with the category that
it has now and with every category that some other rules set. -/
structure SilentOn (r : CompiledRule) (others : List CompiledRule) (t : Transaction) : Prop where
  now : r.outcome t ≠ .ok true
  later : ∀ other ∈ others, r.outcome { t with category := other.categoryName } ≠ .ok true

variable {r : CompiledRule} {t : Transaction}

lemma holds_eq_false_iff : r.holds t = false ↔ r.outcome t ≠ .ok true := by
  unfold holds
  split <;> simp_all

/-- A rule of the others that sets its category leaves a silent rule silent. -/
lemma SilentOn.categorized {others : List CompiledRule} (h : r.SilentOn others t)
    {other : CompiledRule} (hother : other ∈ others) :
    r.SilentOn others { t with category := other.categoryName } :=
  ⟨h.later other hother, h.later⟩

/-- Rules that are told apart by whole numbers have one order. -/
lemma exists_precedes {rules : List CompiledRule} (hint : ∀ r ∈ rules, r.priority.IsInt ∧ r.id.IsInt)
    (hids : (rules.map (·.id)).Nodup) :
    ∃ ordered, inOrder rules = .ok ordered ∧ ordered.Perm rules ∧ ordered.Pairwise Precedes := by
  obtain ⟨ordered, hin, hperm, hsorted⟩ := exists_inOrder fun r hr => ⟨(hint r hr).1, .inr (hint r hr).2⟩
  have hids' : (ordered.map (·.id)).Nodup := (hperm.map _).nodup_iff.2 hids
  exact ⟨ordered, hin, hperm,
    pairwise_precedes (fun r hr => (hint r (hperm.mem_iff.1 hr)).2) hids' hsorted⟩

/-- The others keep their order when a rule is taken away. -/
lemma inOrder_remove {before after : List CompiledRule}
    (hint : ∀ s ∈ before ++ r :: after, s.priority.IsInt ∧ s.id.IsInt)
    (hids : ((before ++ r :: after).map (·.id)).Nodup) :
    ∃ first last, inOrder (before ++ r :: after) = .ok (first ++ r :: last) ∧
      inOrder (before ++ after) = .ok (first ++ last) ∧ (first ++ last).Perm (before ++ after) := by
  obtain ⟨ordered, hin, hperm, hprecedes⟩ := exists_precedes hint hids
  obtain ⟨first, last, rfl⟩ := List.append_of_mem (hperm.mem_iff.2 List.mem_append_cons_self)
  have hothers : (first ++ last).Perm (before ++ after) :=
    (List.perm_middle.symm.trans (hperm.trans List.perm_middle)).cons_inv
  have hsub : (before ++ after).Sublist (before ++ r :: after) :=
    (List.sublist_cons_self r after).append_left before
  obtain ⟨ordered', hin', hperm', hprecedes'⟩ := exists_precedes
    (fun s hs => hint s (hsub.subset hs)) (hids.sublist (hsub.map _))
  have hleft : (first ++ last).Pairwise Precedes :=
    hprecedes.sublist ((List.sublist_cons_self r last).append_left first)
  obtain rfl := eq_of_perm_of_precedes (hperm'.trans hothers.symm) hprecedes' hleft
  exact ⟨first, last, hin, hin', hothers⟩

end CompiledRule

open CompiledRule (SilentOn)

/-! ## Programs with and without a rule -/

/-- The clauses of a program are some rules in order, with their priorities as saliences. -/
structure Program.Lists (p : Program) (rules : List CompiledRule) : Prop where
  rules : p.clauses.map (·.rule) = rules
  saliences : ∀ c ∈ p.clauses, c.salience = c.rule.priority

namespace Program.Lists

variable {p : Program} {rules : List CompiledRule}

lemma getElem?_rules (h : p.Lists rules) {o : Nat} {c : Clause} (hc : p.clauses[o]? = some c) :
    rules[o]? = some c.rule ∧ c.salience = c.rule.priority := by
  refine ⟨?_, h.saliences c (List.mem_of_getElem? hc)⟩
  rw [← h.rules, List.getElem?_map, hc, Option.map_some]

lemma exists_clause (h : p.Lists rules) {o : Nat} {r : CompiledRule} (hr : rules[o]? = some r) :
    ∃ c, p.clauses[o]? = some c ∧ c.rule = r ∧ c.salience = r.priority := by
  rw [← h.rules, List.getElem?_map] at hr
  obtain ⟨c, hc, rfl⟩ := Option.map_eq_some_iff.1 hr
  exact ⟨c, hc, rfl, h.saliences c (List.mem_of_getElem? hc)⟩

end Program.Lists

/-- The number of a clause once there is another one in place `n`. -/
def Clause.shifted (n o : Nat) : Nat := if o < n then o else o + 1

namespace Clause

lemma shifted_lt {n o o' : Nat} (h : o < o') : shifted n o < shifted n o' := by
  unfold shifted
  split_ifs <;> omega

lemma shifted_injective {n o o' : Nat} (h : shifted n o = shifted n o') : o = o' := by
  unfold shifted at h
  split_ifs at h <;> omega

lemma exists_shifted {n o : Nat} (h : o ≠ n) : ∃ o', o = shifted n o' := by
  obtain hlt | hgt := Nat.lt_or_gt_of_ne h
  · exact ⟨o, (if_pos hlt).symm⟩
  · exact ⟨o - 1, by rw [shifted, if_neg (by omega)]; omega⟩

lemma getElem?_shifted {α : Type} (first last : List α) (a : α) (o : Nat) :
    (first ++ a :: last)[shifted first.length o]? = (first ++ last)[o]? := by
  unfold shifted
  split_ifs with h
  · rw [List.getElem?_append_left h, List.getElem?_append_left h]
  · rw [List.getElem?_append_right (by omega), List.getElem?_append_right (by omega),
      show o + 1 - first.length = o - first.length + 1 by omega, List.getElem?_cons_succ]

end Clause

open Clause (shifted)

/-! ## Runs with and without a rule -/

namespace Memory

variable {full less less' : Memory} {first last : List CompiledRule} {r : CompiledRule} {i : Nat}

/-- `less` knows of one fact what `full` knows of it, and of the same rules but for one that is silent
on the fact. -/
structure Lacks (full less : Memory) (first : List CompiledRule) (r : CompiledRule)
    (last : List CompiledRule) (i : Nat) : Prop where
  all : full.program.Lists (first ++ r :: last)
  others : less.program.Lists (first ++ last)
  facts : full.facts = [i] ∧ less.facts = [i]
  present : i < full.pool.length ∧ i < less.pool.length
  same : less.pool.get i = full.pool.get i
  fired : ∀ o, (o, (0 : Int)) ∈ less.fired ↔ (shifted first.length o, (0 : Int)) ∈ full.fired
  silent : r.SilentOn (first ++ last) (full.pool.get i)

/-- Clauses of one rule, numbered without and with the silent rule. -/
structure Renumbered (n : Nat) (q : Nat × Nat) (c : Clause) (q' : Nat × Nat) (c' : Clause) : Prop where
  number : q' = (shifted n q.1, 0)
  handle : q.2 = 0
  rule : c'.rule = c.rule
  salience : c'.salience = c.salience

lemma Renumbered.precedes {n : Nat} {q q' u u' : Nat × Nat} {c c' d d' : Clause}
    (h : Renumbered n q c q' c') (h' : Renumbered n u d u' d') (hprecedes : Precedes c q d u) :
    Precedes c' q' d' u' := by
  unfold Precedes at hprecedes ⊢
  rw [h.number, h'.number, h.salience, h'.salience]
  refine hprecedes.imp_right fun ⟨hequal, horder⟩ => ⟨hequal, .inl (Clause.shifted_lt ?_)⟩
  obtain hlt | ⟨-, hlt⟩ := horder
  · exact hlt
  · rw [h.handle, h'.handle] at hlt
    exact absurd hlt (lt_irrefl 0)

namespace Lacks

lemma position_eq (h : full.Lacks less first r last i) {q : Nat × Nat} {c : Clause} {j : Nat}
    (hq : less.Candidate q c j) : q.2 = 0 ∧ j = i := by
  have hfact := hq.fact
  rw [h.facts.2] at hfact
  obtain ⟨hlt, hj⟩ := List.getElem?_eq_some_iff.1 hfact
  have hzero : q.2 = 0 := by simpa using hlt
  simp only [hzero, List.getElem_cons_zero] at hj
  exact ⟨hzero, hj.symm⟩

/-- What can fire without the rule can fire with it. -/
lemma candidate_full (h : full.Lacks less first r last i) {q : Nat × Nat} {c : Clause} {j : Nat}
    (hq : less.Candidate q c j) :
    ∃ c', Renumbered first.length q c (shifted first.length q.1, 0) c' ∧
      full.Candidate (shifted first.length q.1, 0) c' i := by
  obtain ⟨hzero, rfl⟩ := h.position_eq hq
  obtain ⟨hrule, hsalience⟩ := h.others.getElem?_rules hq.clause
  rw [← Clause.getElem?_shifted first last r] at hrule
  obtain ⟨c', hc', hrule', hsalience'⟩ := h.all.exists_clause hrule
  refine ⟨c', ⟨rfl, hzero, hrule', hsalience'.trans hsalience.symm⟩, hc', by simp [h.facts.1], ?_, ?_⟩
  · have hunfired := hq.unfired
    rw [hzero] at hunfired
    exact mt (h.fired q.1).2 hunfired
  · rw [hrule', ← h.same]
    exact hq.holds

/-- What can fire with the rule is another rule, and can fire without it. -/
lemma candidate_less (h : full.Lacks less first r last i) {q' : Nat × Nat} {c' : Clause} {j : Nat}
    (hq : full.Candidate q' c' j) :
    ∃ q c, Renumbered first.length q c q' c' ∧ less.Candidate q c i := by
  have hfact := hq.fact
  rw [h.facts.1] at hfact
  obtain ⟨hlt, hj⟩ := List.getElem?_eq_some_iff.1 hfact
  have hzero : q'.2 = 0 := by simpa using hlt
  obtain rfl : i = j := by simpa [hzero] using hj
  obtain ⟨hrule, hsalience⟩ := h.all.getElem?_rules hq.clause
  have hne : q'.1 ≠ first.length := by
    intro heq
    have hr : r = c'.rule := by simpa [heq] using hrule
    have hsilent := CompiledRule.holds_eq_false_iff.2 h.silent.now
    rw [hr, hq.holds] at hsilent
    cases hsilent
  obtain ⟨o, ho⟩ := Clause.exists_shifted hne
  rw [ho, Clause.getElem?_shifted] at hrule
  obtain ⟨c, hc, hrule', hsalience'⟩ := h.others.exists_clause hrule
  refine ⟨(o, 0), c, ⟨Prod.ext ho hzero, rfl, hrule'.symm, hsalience.trans hsalience'.symm⟩, hc,
    by simp [h.facts.2], fun hmem => hq.unfired ?_, ?_⟩
  · rw [ho, hzero]
    exact (h.fired o).1 hmem
  · rw [hrule', h.same]
    exact hq.holds

/-- A firing without the rule is one with it. -/
lemma cycle (h : full.Lacks less first r last i) {q : Nat × Nat} (hcycle : less.Cycle q less') :
    ∃ q' full', full.Cycle q' full' ∧ full'.Lacks less' first r last i := by
  obtain ⟨c, j, hcandidate, hbest⟩ := hcycle
  obtain ⟨hzero, rfl⟩ := h.position_eq hcandidate
  obtain ⟨c', hnumbered, hcandidate'⟩ := h.candidate_full hcandidate
  refine ⟨_, _, .fire c' j hcandidate' fun u' d' k hu' hne => ?_, h.all, h.others, h.facts, ?_, ?_,
    fun o => ?_, ?_⟩
  · obtain ⟨u, d, hnumbered', hu⟩ := h.candidate_less hu'
    refine hnumbered.precedes hnumbered' (hbest u d j hu ?_)
    rintro rfl
    exact hne hnumbered'.number
  · simpa using h.present
  · rw [Pool.get_setCategory_self _ h.present.1, Pool.get_setCategory_self _ h.present.2, h.same,
      hnumbered.rule]
  · simp only [List.mem_cons, Prod.mk.injEq, hzero, Nat.cast_zero, and_true, h.fired]
    exact or_congr_left ⟨congrArg _, Clause.shifted_injective⟩
  · rw [Pool.get_setCategory_self _ h.present.1, hnumbered.rule]
    exact h.silent.categorized (List.mem_of_getElem? (h.others.getElem?_rules hcandidate.clause).1)

/-- The run without the rule is the run with it, but for the numbers of the clauses. -/
theorem run {seq : List (Nat × Nat)} (hrun : less.Run seq less')
    (h : full.Lacks less first r last i) :
    ∃ seq' full', full.Run seq' full' ∧ full'.Lacks less' first r last i := by
  induction hrun generalizing full with
  | done hnone =>
    refine ⟨[], full, .done fun q' c' j hq' => ?_, h⟩
    obtain ⟨q, c, -, hq⟩ := h.candidate_less hq'
    exact hnone q c i hq
  | cycle hfirst _ ih =>
    obtain ⟨q', full₁, hcycle, h₁⟩ := h.cycle hfirst
    obtain ⟨seq', full', hrun', h'⟩ := ih h₁
    exact ⟨q' :: seq', full', .cycle hcycle hrun', h'⟩

end Lacks

end Memory

/-! ## Engines -/

namespace FirstMatch

/-- A rule that does not match is passed over. -/
lemma classified_append_cons (first last : List CompiledRule) {r : CompiledRule} {t : Transaction}
    (h : r.holds t = false) : classified (first ++ r :: last) t = classified (first ++ last) t := by
  simp [classified, rule?, List.find?_append, h]

end FirstMatch

namespace Engine

variable {customer : String} {before after : List CompiledRule} {r : CompiledRule} {pool : Pool} {i : Nat}

/-- A program leaves one fact as the program without a silent rule leaves it. -/
lemma chain_remove {first last : List CompiledRule} {p p' : Program} (hp : p.WellFormed)
    (hp' : p'.WellFormed) (hall : p.Lists (first ++ r :: last)) (hothers : p'.Lists (first ++ last))
    (hpresent : i < pool.length) (hsilent : r.SilentOn (first ++ last) (pool.get i)) :
    ∃ result result', chain p pool [i] = .ok result ∧ chain p' pool [i] = .ok result' ∧
      result.pool.get i = result'.pool.get i := by
  have hmember : ∀ j ∈ [i], j < pool.length := by simpa using hpresent
  obtain ⟨result, seq, m, hchain, hrun, hpool, -⟩ := chain_run hp (List.nodup_singleton i) hmember
  obtain ⟨result', seq', m', hchain', hrun', hpool', -⟩ :=
    chain_run hp' (List.nodup_singleton i) hmember
  have hlacks : (Memory.initial p [i] pool).Lacks (Memory.initial p' [i] pool) first r last i :=
    ⟨hall, hothers, ⟨rfl, rfl⟩, ⟨hpresent, hpresent⟩, rfl, fun o => by simp [Memory.initial], hsilent⟩
  obtain ⟨seq'', m'', hrun'', hlacks'⟩ := hlacks.run hrun'
  obtain ⟨-, rfl⟩ := hrun.unique hp hrun''
  exact ⟨result, result', hchain, hchain', by rw [← hpool, ← hpool', hlacks'.same]⟩

/-- An engine leaves one transaction as it leaves it without a silent rule. -/
lemma apply_single_remove {e : Engine} {set less : RuleSet}
    (hset : e.plan customer (before ++ r :: after) = .ok set.plan)
    (hless : e.plan customer (before ++ after) = .ok less.plan)
    (hint : ∀ s ∈ before ++ r :: after, s.priority.IsInt ∧ s.id.IsInt)
    (hids : ((before ++ r :: after).map (·.id)).Nodup) (hpresent : i < pool.length)
    (hsilent : r.SilentOn (before ++ after) (pool.get i)) {one one' : Pool} {events events' : List Event}
    (hone : e.apply set pool [i] = .ok (one, events)) (hone' : e.apply less pool [i] = .ok (one', events')) :
    one.get i = one'.get i := by
  obtain ⟨first, last, hin, hin', hperm⟩ := CompiledRule.inOrder_remove hint hids
  cases e with
  | firstMatch =>
    obtain ⟨ordered, hordered, hplan⟩ := Outcome.map_eq_ok.1 hset
    obtain ⟨ordered', hordered', hplan'⟩ := Outcome.map_eq_ok.1 hless
    obtain rfl := Except.ok.inj (hin.symm.trans hordered)
    obtain rfl := Except.ok.inj (hin'.symm.trans hordered')
    rw [apply_ordered hplan, Except.ok.injEq] at hone
    rw [apply_ordered hplan', Except.ok.injEq] at hone'
    have hmember : ∀ j ∈ [i], j < pool.length := by simpa using hpresent
    have hget (rules : List CompiledRule) :=
      (FirstMatch.apply_spec rules (List.nodup_singleton i) hmember).2.1 i
    have hfull := hget (first ++ r :: last)
    have hrest := hget (first ++ last)
    rw [hone, if_pos (List.mem_singleton_self i)] at hfull
    rw [hone', if_pos (List.mem_singleton_self i)] at hrest
    rw [hfull, hrest]
    exact FirstMatch.classified_append_cons first last (CompiledRule.holds_eq_false_iff.2 hsilent.now)
  | forwardChaining =>
    obtain ⟨p, hp, hplan⟩ := Outcome.map_eq_ok.1 hset
    obtain ⟨p', hp', hplan'⟩ := Outcome.map_eq_ok.1 hless
    have hsub := (List.sublist_cons_self r after).append_left before
    have hwf := Program.wellFormed_ofRules hp fun s hs => (hint s hs).1.ne_nan
    have hwf' := Program.wellFormed_ofRules hp' fun s hs => (hint s (hsub.subset hs)).1.ne_nan
    obtain ⟨hrules, hsaliences⟩ := Program.clauses_ofRules hp hin
    obtain ⟨hrules', hsaliences'⟩ := Program.clauses_ofRules hp' hin'
    have hsilent' : r.SilentOn (first ++ last) (pool.get i) :=
      ⟨hsilent.now, fun s hs => hsilent.later s (hperm.mem_iff.1 hs)⟩
    obtain ⟨result, result', hchain, hchain', hsame⟩ := chain_remove hwf hwf'
      ⟨hrules, hsaliences⟩ ⟨hrules', hsaliences'⟩ hpresent hsilent'
    rw [apply_program hplan hchain, Except.ok.injEq] at hone
    rw [apply_program hplan' hchain', Except.ok.injEq] at hone'
    rw [← (Prod.mk.inj hone).1, ← (Prod.mk.inj hone').1, hsame]

end Engine

end TransactionRules
