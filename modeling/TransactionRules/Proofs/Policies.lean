import TransactionRules.Proofs.Batches

/-!
# The two policies

When no condition depends on the category, the rules that match a transaction are the same throughout
a run. First match leaves the category of the first of them, and forward chaining fires them all in
order and leaves the category of the last. So the policies agree exactly if these two categories are
equal, a second run changes nothing, and forward chaining is first match over the reversed rules
(`Engine.policies`).
-/

namespace TransactionRules

/-! ## Rules that ignore the category -/

namespace CompiledRule

/-- Whether the rule matches a transaction does not depend on the category. -/
def IgnoresCategory (r : CompiledRule) : Prop := ∀ t v, r.holds { t with category := v } = r.holds t

/-- The rules that match a transaction, by descending priority and then by ascending id. -/
def Matches (rules : List CompiledRule) (t : Transaction) (matched : List CompiledRule) : Prop :=
  matched.Perm (rules.filter (·.holds t)) ∧ matched.Pairwise Precedes

/-- A transaction with the category of a rule, or as it is without a rule. -/
def categorized : Option CompiledRule → Transaction → Transaction
  | some r, t => { t with category := r.categoryName }
  | none, t => t

lemma categorized_categorized (r : Option CompiledRule) (t : Transaction) :
    categorized r (categorized r t) = categorized r t := by
  cases r <;> rfl

/-- A change of the category lets the same rules match. -/
lemma filter_holds_categorized {rules : List CompiledRule} (h : ∀ r ∈ rules, r.IgnoresCategory)
    (r : Option CompiledRule) (t : Transaction) :
    rules.filter (·.holds (categorized r t)) = rules.filter (·.holds t) := by
  cases r with
  | none => rfl
  | some r => exact List.filter_congr fun r' hr' => h r' hr' t r.categoryName

end CompiledRule

open CompiledRule (Precedes IgnoresCategory Matches categorized)

lemma Pool.ext_get {pool pool' : Pool} (hlength : pool.length = pool'.length)
    (hget : ∀ i, pool.get i = pool'.get i) : pool = pool' := by
  refine List.ext_getElem hlength fun i hi hi' => ?_
  have heq := hget i
  rwa [Pool.get, Pool.get, List.getD_eq_getElem _ _ hi, List.getD_eq_getElem _ _ hi'] at heq

/-! ## One fact -/

namespace Memory

/-- What is known once a clause has fired. -/
def afterFiring (m : Memory) (q : Nat × Nat) (position : Nat) (c : Clause) : Memory :=
  { m with
    fired := (q.1, (q.2 : Int)) :: m.fired
    pool := m.pool.setCategory position c.rule.categoryName }

variable {m : Memory} {i : Nat}

/-- A firing takes one candidate away, and leaves the others if no rule reads the category. -/
lemma candidate_afterFiring (hignores : ∀ c ∈ m.program.clauses, c.rule.IgnoresCategory) {q r : Nat × Nat}
    {c d : Clause} {position j : Nat} :
    (m.afterFiring q position c).Candidate r d j ↔ m.Candidate r d j ∧ r ≠ q := by
  have hholds (hd : d ∈ m.program.clauses) :
      d.rule.holds ((m.afterFiring q position c).pool.get j) = d.rule.holds (m.pool.get j) := by
    rw [afterFiring, Pool.get_setCategory]
    exact hignores d hd _ _
  have hfired : (r.1, (r.2 : Int)) ∉ (m.afterFiring q position c).fired ↔
      r ≠ q ∧ (r.1, (r.2 : Int)) ∉ m.fired := by
    simp [afterFiring, Prod.ext_iff]
  constructor
  · rintro ⟨hclause, hfact, hunfired, hd⟩
    rw [hholds (List.mem_of_getElem? hclause)] at hd
    exact ⟨⟨hclause, hfact, (hfired.1 hunfired).2, hd⟩, (hfired.1 hunfired).1⟩
  · rintro ⟨⟨hclause, hfact, hunfired, hd⟩, hne⟩
    refine ⟨hclause, hfact, hfired.2 ⟨hne, hunfired⟩, ?_⟩
    rwa [hholds (List.mem_of_getElem? hclause)]

/-- The run over one fact fires the clauses that can fire from the first to the last. -/
lemma exists_run {clauses : List Clause} (hpresent : i < m.pool.length)
    (hignores : ∀ c ∈ m.program.clauses, c.rule.IgnoresCategory)
    (hcandidates : ∀ q c j, m.Candidate q c j ↔ c ∈ clauses ∧ q = (c.order, 0) ∧ j = i)
    (hsorted : clauses.Pairwise fun c d => Precedes c (c.order, 0) d (d.order, 0))
    (horders : clauses.Pairwise (·.order ≠ ·.order)) :
    ∃ m', m.Run (clauses.map fun c => (c.order, 0)) m' ∧
      m'.pool.get i = categorized (clauses.getLast?.map (·.rule)) (m.pool.get i) := by
  induction clauses generalizing m with
  | nil =>
    refine ⟨m, .done fun q c j h => ?_, rfl⟩
    cases ((hcandidates q c j).1 h).1
  | cons c rest ih =>
    obtain ⟨hfirst, hsorted⟩ := List.pairwise_cons.1 hsorted
    obtain ⟨hother, horders⟩ := List.pairwise_cons.1 horders
    have hcandidate : m.Candidate (c.order, 0) c i :=
      (hcandidates _ _ _).2 ⟨List.mem_cons_self, rfl, rfl⟩
    have hcycle : m.Cycle (c.order, 0) (m.afterFiring (c.order, 0) i c) := by
      refine .fire c i hcandidate fun r d j hr hne => ?_
      obtain ⟨hd, rfl, -⟩ := (hcandidates r d j).1 hr
      rcases List.mem_cons.1 hd with rfl | hd
      · exact absurd rfl hne
      · exact hfirst d hd
    -- what is left can fire as before, since only the category of the fact has changed
    have hleft : ∀ q d j, (m.afterFiring (c.order, 0) i c).Candidate q d j ↔
        d ∈ rest ∧ q = (d.order, 0) ∧ j = i := by
      intro q d j
      rw [candidate_afterFiring hignores, hcandidates]
      constructor
      · rintro ⟨⟨hd, rfl, rfl⟩, hne⟩
        rcases List.mem_cons.1 hd with rfl | hd
        · exact absurd rfl hne
        · exact ⟨hd, rfl, rfl⟩
      · rintro ⟨hd, rfl, rfl⟩
        refine ⟨⟨List.mem_cons_of_mem c hd, rfl, rfl⟩, fun heq => hother d hd ?_⟩
        exact (Prod.mk.inj heq).1.symm
    have hpresent' : i < (m.afterFiring (c.order, 0) i c).pool.length := by
      simpa [afterFiring] using hpresent
    obtain ⟨m', hrun, hget⟩ := ih hpresent' hignores hleft hsorted horders
    refine ⟨m', .cycle hcycle hrun, ?_⟩
    rw [hget, afterFiring, Pool.get_setCategory_self _ hpresent, List.getLast?_cons]
    cases rest.getLast? <;> rfl

end Memory

/-! ## Programs -/

namespace Program

variable {customer : String} {rules ordered : List CompiledRule} {p : Program}

/-- The clauses of a program are the ordered rules, with their priorities as saliences. -/
lemma clauses_ofRules (h : ofRules customer rules = .ok p)
    (hordered : CompiledRule.inOrder rules = .ok ordered) :
    p.clauses.map (·.rule) = ordered ∧ ∀ c ∈ p.clauses, c.salience = c.rule.priority := by
  simp only [ofRules, hordered, Outcome.ok_bind, Outcome.pure_eq, Except.ok.injEq] at h
  subst h
  refine ⟨?_, fun c hc => ?_⟩
  · rw [List.map_map]
    exact List.zipIdx_map_fst 0 ordered
  · obtain ⟨x, -, rfl⟩ := List.mem_map.1 hc
    rfl

variable {pool : Pool} {i : Nat}

/-- What can fire on a fact in the beginning are the clauses that hold on it. -/
lemma candidate_initial (hp : p.WellFormed) (q : Nat × Nat) (c : Clause) (j : Nat) :
    (Memory.initial p [i] pool).Candidate q c j ↔
      c ∈ p.clauses.filter (·.rule.holds (pool.get i)) ∧ q = (c.order, 0) ∧ j = i := by
  rw [List.mem_filter]
  constructor
  · rintro ⟨hclause, hfact, -, hholds⟩
    have hclause : p.clauses[q.1]? = some c := hclause
    obtain ⟨hlt, hj⟩ := List.getElem?_eq_some_iff.1 hfact
    have hzero : q.2 = 0 := by
      have : q.2 < 1 := hlt
      omega
    have hj : i = j := by simpa [Memory.initial, hzero] using hj
    subst hj
    refine ⟨⟨List.mem_of_getElem? hclause, hholds⟩, ?_, rfl⟩
    rw [hp.numbered q.1 c hclause, ← hzero]
  · rintro ⟨⟨hc, hholds⟩, rfl, rfl⟩
    exact ⟨hp.getElem? hc, rfl, List.not_mem_nil, hholds⟩

/-- Clauses of rules in strict order come in the order of firing. -/
lemma pairwise_clauses (hp : p.WellFormed) (hrules : p.clauses.map (·.rule) = ordered)
    (hsalience : ∀ c ∈ p.clauses, c.salience = c.rule.priority)
    (hint : ∀ r ∈ ordered, r.priority.IsInt) (hordered : ordered.Pairwise Precedes) :
    p.clauses.Pairwise fun c d =>
      Memory.Precedes c (c.order, 0) d (d.order, 0) ∧ c.order ≠ d.order := by
  refine List.pairwise_iff_getElem.2 fun k l hk hl hkl => ?_
  have hc := List.getElem_mem hk
  have hd := List.getElem_mem hl
  have hordk := hp.numbered k _ (List.getElem?_eq_getElem hk)
  have hordl := hp.numbered l _ (List.getElem?_eq_getElem hl)
  have hrank : Precedes p.clauses[k].rule p.clauses[l].rule := by
    subst hrules
    have := List.pairwise_iff_getElem.1 hordered k l (by simpa using hk) (by simpa using hl) hkl
    simpa using this
  obtain ⟨x, hx⟩ := hint _ (hrules ▸ List.mem_map_of_mem hc)
  obtain ⟨y, hy⟩ := hint _ (hrules ▸ List.mem_map_of_mem hd)
  refine ⟨?_, by omega⟩
  simp only [Memory.Precedes, hsalience _ hc, hsalience _ hd, hx, hy, Value.ordered_lt_int,
    Value.equal_int, hordk, hordl]
  rw [Precedes, hx, hy] at hrank
  simp only [Value.toInt] at hrank
  rcases hrank with hlt | ⟨heq, -⟩
  · exact .inl (congrArg Except.ok (decide_eq_true hlt))
  · exact .inr ⟨decide_eq_true heq.symm, .inl hkl⟩

end Program

/-! ## Engines -/

namespace Engine

/-- Of the rules that match, the one whose category an engine leaves. -/
def winner : Engine → List CompiledRule → Option CompiledRule
  | .firstMatch, matched => matched.head?
  | .forwardChaining, matched => matched.getLast?

/-- Rules that are told apart by their ids, in the order that engines try them in, and that do not
read what engines write. -/
structure Independent (rules ordered : List CompiledRule) : Prop where
  priorities : ∀ r ∈ rules, r.priority.IsInt
  ignores : ∀ r ∈ rules, r.IgnoresCategory
  inOrder : CompiledRule.inOrder rules = .ok ordered
  perm : ordered.Perm rules
  precedes : ordered.Pairwise Precedes

variable {customer : String} {rules ordered : List CompiledRule} {set : RuleSet} {pool : Pool}

lemma exists_independent (hint : ∀ r ∈ rules, r.priority.IsInt ∧ r.id.IsInt)
    (hids : (rules.map (·.id)).Nodup) (hignores : ∀ r ∈ rules, r.IgnoresCategory) :
    ∃ ordered, Independent rules ordered := by
  obtain ⟨ordered, hin, hperm, hsorted⟩ :=
    CompiledRule.exists_inOrder fun r hr => ⟨(hint r hr).1, .inr (hint r hr).2⟩
  have hids' : (ordered.map (·.id)).Nodup := (hperm.map _).nodup_iff.2 hids
  have hprecedes := CompiledRule.pairwise_precedes (fun r hr => (hint r (hperm.mem_iff.1 hr)).2) hids'
    hsorted
  exact ⟨ordered, fun r hr => (hint r hr).1, hignores, hin, hperm, hprecedes⟩

namespace Independent

variable (h : Independent rules ordered)
include h

lemma ne_nan {r : CompiledRule} (hr : r ∈ rules) : r.priority.quantity? ≠ some .nan :=
  (h.priorities r hr).ne_nan

/-- The rules that match are those of the order, in that order. -/
lemma matches_filter (t : Transaction) : Matches rules t (ordered.filter (·.holds t)) :=
  ⟨h.perm.filter _, h.precedes.filter _⟩

lemma ordered_ignores : ∀ r ∈ ordered, r.IgnoresCategory :=
  fun r hr => h.ignores r (h.perm.mem_iff.1 hr)

/-- A program fires on one fact the rules that match it, and leaves the category of the last. -/
lemma chain_single {p : Program} (hp : Program.ofRules customer rules = .ok p) {i : Nat}
    (hpresent : i < pool.length) :
    ∃ result, chain p pool [i] = .ok result ∧
      result.pool.get i =
        categorized (ordered.filter (·.holds (pool.get i))).getLast? (pool.get i) ∧
      firings result.events = (ordered.filter (·.holds (pool.get i))).length := by
  have hwf := Program.wellFormed_ofRules hp fun r hr => h.ne_nan hr
  obtain ⟨hrules, hsalience⟩ := Program.clauses_ofRules hp h.inOrder
  have hclauses := Program.pairwise_clauses hwf hrules hsalience
    (fun r hr => h.priorities r (h.perm.mem_iff.1 hr)) h.precedes
  have hignores : ∀ c ∈ p.clauses, c.rule.IgnoresCategory := fun c hc =>
    h.ignores _ (h.perm.mem_iff.1 (hrules ▸ List.mem_map_of_mem hc))
  -- the run of the matching clauses is the run of the program
  obtain ⟨m, hrun, hget⟩ := Memory.exists_run (m := Memory.initial p [i] pool) hpresent hignores
    (Program.candidate_initial hwf) ((hclauses.imp And.left).filter _)
    ((hclauses.imp And.right).filter _)
  have hmember : ∀ j ∈ [i], j < pool.length := by simpa using hpresent
  obtain ⟨result, seq, m', hchain, hrun', hpool, hfirings⟩ :=
    chain_run hwf (List.nodup_singleton i) hmember
  obtain ⟨rfl, rfl⟩ := hrun.unique hwf hrun'
  have hmatched : (p.clauses.filter (·.rule.holds (pool.get i))).map (·.rule) =
      ordered.filter (·.holds (pool.get i)) := by
    rw [← hrules, List.filter_map]
    rfl
  refine ⟨result, hchain, ?_, ?_⟩
  · rw [← hpool, hget, ← hmatched, List.getLast?_map]
    rfl
  · rw [hfirings, ← hmatched, List.length_map, List.length_map]

lemma firingsOf_single (hplan : forwardChaining.plan customer rules = .ok set.plan) {i : Nat}
    (hpresent : i < pool.length) :
    forwardChaining.firingsOf set pool [i] = (ordered.filter (·.holds (pool.get i))).length := by
  obtain ⟨p, hp, hprogram⟩ := Outcome.map_eq_ok.1 hplan
  obtain ⟨result, hchain, -, hfirings⟩ := h.chain_single hp hpresent
  rw [firingsOf, apply_program hprogram hchain]
  exact hfirings

/-- What an engine does to a batch: each member gets the category of the winner, if there is one. -/
lemma apply_eq {e : Engine} (hplan : e.plan customer rules = .ok set.plan) {batch : List Nat}
    (hdistinct : batch.Nodup) (hpresent : ∀ i ∈ batch, i < pool.length) :
    ∃ after events, e.apply set pool batch = .ok (after, events) ∧ after.length = pool.length ∧
      (∀ i, after.get i =
        if i ∈ batch then categorized (e.winner (ordered.filter (·.holds (pool.get i)))) (pool.get i)
        else pool.get i) ∧
      firings events = (batch.map fun i => e.firingsOf set pool [i]).sum := by
  have hset : set.PlannedBy e := ⟨customer, rules, fun r hr => h.ne_nan hr, hplan⟩
  obtain ⟨after, events, happly, hlength, -, hothers, hmembers, hsum⟩ :=
    apply_eq_single hset hdistinct hpresent
  refine ⟨after, events, happly, hlength, fun i => ?_, hsum⟩
  split_ifs with hi
  · obtain ⟨one, events', hone, hget⟩ := hmembers i hi
    rw [← hget]
    cases e with
    | firstMatch =>
      obtain ⟨ordered', hordered, hplanned⟩ := Outcome.map_eq_ok.1 hplan
      rw [h.inOrder, Except.ok.injEq] at hordered
      subst hordered
      rw [apply_ordered hplanned, Except.ok.injEq] at hone
      have hmember : ∀ j ∈ [i], j < pool.length := by simpa using hpresent i hi
      obtain ⟨-, hspec, -⟩ := FirstMatch.apply_spec ordered (List.nodup_singleton i) hmember
      have hclassified := hspec i
      rw [hone, if_pos (List.mem_singleton_self i)] at hclassified
      rw [hclassified, winner, List.head?_filter]
      unfold FirstMatch.classified FirstMatch.rule?
      cases ordered.find? (·.holds (pool.get i)) <;> rfl
    | forwardChaining =>
      obtain ⟨p, hp, hprogram⟩ := Outcome.map_eq_ok.1 hplan
      obtain ⟨result, hchain, hcategory, -⟩ := h.chain_single hp (hpresent i hi)
      rw [apply_program hprogram hchain, Except.ok.injEq] at hone
      rw [← (Prod.mk.inj hone).1, hcategory]
      rfl
  · exact hothers i hi

/-- Applied to its own result, an engine changes nothing. -/
lemma apply_again {e : Engine} (hplan : e.plan customer rules = .ok set.plan) {batch : List Nat}
    (hdistinct : batch.Nodup) (hpresent : ∀ i ∈ batch, i < pool.length) {after : Pool}
    {events : List Event} (happly : e.apply set pool batch = .ok (after, events)) :
    ∃ events', e.apply set after batch = .ok (after, events') := by
  obtain ⟨after', events', happly', hlength, hget, -⟩ := h.apply_eq hplan hdistinct hpresent
  rw [happly', Except.ok.injEq, Prod.mk.injEq] at happly
  obtain ⟨rfl, rfl⟩ := happly
  have hpresent' : ∀ i ∈ batch, i < after'.length := fun i hi => hlength ▸ hpresent i hi
  obtain ⟨again, events'', hagain, hlength', hget', -⟩ := h.apply_eq hplan hdistinct hpresent'
  have hsame : again = after' := by
    refine Pool.ext_get hlength' fun i => ?_
    rw [hget' i]
    split_ifs with hi
    · rw [hget i, if_pos hi, CompiledRule.filter_holds_categorized h.ordered_ignores,
        CompiledRule.categorized_categorized]
    · rfl
  exact ⟨events'', hsame ▸ hagain⟩

end Independent

/-- First match over the reversed rules leaves the category of the last rule that matches. -/
lemma apply_reverse {batch : List Nat} (hdistinct : batch.Nodup)
    (hpresent : ∀ i ∈ batch, i < pool.length) {after : Pool} (hlength : after.length = pool.length)
    (hget : ∀ i, after.get i =
      if i ∈ batch then categorized (ordered.filter (·.holds (pool.get i))).getLast? (pool.get i)
      else pool.get i) :
    (FirstMatch.apply ordered.reverse pool batch).1 = after := by
  obtain ⟨hlength', hget', -⟩ := FirstMatch.apply_spec ordered.reverse hdistinct hpresent
  refine Pool.ext_get (hlength'.trans hlength.symm) fun i => ?_
  rw [hget' i, hget i]
  split_ifs with hi
  · rw [List.getLast?_eq_head?_reverse, ← List.filter_reverse, List.head?_filter]
    unfold FirstMatch.classified FirstMatch.rule?
    cases ordered.reverse.find? (·.holds (pool.get i)) <;> rfl
  · rfl

/-- The engines leave equal transactions if no rule matches, or the first and the last that match name
one category. -/
lemma categorized_head?_eq_iff (matched : List CompiledRule) (t : Transaction) :
    categorized matched.head? t = categorized matched.getLast? t ↔
      matched = [] ∨ matched.head?.map (·.categoryName) = matched.getLast?.map (·.categoryName) := by
  cases matched with
  | nil => simp
  | cons r rest => simp [List.getLast?_cons, categorized]

end Engine

end TransactionRules
