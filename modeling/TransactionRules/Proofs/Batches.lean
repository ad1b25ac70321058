import TransactionRules.Engine.Basic
import TransactionRules.Proofs.Projection

/-!
# Batches

An engine classifies every member of a batch as it classifies the member alone, and fires as often on
the batch as on its members together (`Engine.apply_eq_single`). For first match this is an induction
over the batch; for forward chaining it is the projection of the run over the batch.
-/

namespace TransactionRules

/-! ## Counting firings -/

/-- The number of firings that an event reports. -/
def Event.firings : Event → Nat
  | .rulesFired fired _ _ => fired
  | _ => 0

/-- The number of firings that events report together. -/
def firings (events : List Event) : Nat := (events.map Event.firings).sum

@[simp] lemma firings_append (events later : List Event) :
    firings (events ++ later) = firings events + firings later := by
  simp [firings]

@[simp] lemma firings_cons (e : Event) (events : List Event) :
    firings (e :: events) = e.firings + firings events := by
  simp [firings]

@[simp] lemma firings_nil : firings [] = 0 := rfl

lemma firings_eq_zero {events : List Event} : firings events = 0 ↔ ∀ e ∈ events, e.firings = 0 := by
  rw [firings, List.sum_eq_zero_iff, List.forall_mem_map]

lemma CompiledRule.firings_warnings (r : CompiledRule) (t : Transaction) :
    firings (r.warnings t) = 0 := by
  unfold warnings
  split <;> rfl

namespace Session

lemma firings_matchWarnings (s : Session) (t : Transaction) (handle : Int) :
    firings (s.matchWarnings t handle) = 0 := by
  refine firings_eq_zero.2 fun e he => ?_
  obtain ⟨c, -, hc⟩ := List.mem_flatMap.1 he
  exact firings_eq_zero.1 (c.rule.firings_warnings t) e hc

lemma firings_step (f : Firings) (a : Activation) (rest : List Activation) :
    firings (step f a rest).events = firings f.events := by
  unfold step
  simp only
  split
  · split_ifs
    · rw [firings_append, firings_cons, firings_matchWarnings]
      rfl
    · rw [firings_append, CompiledRule.firings_warnings, Nat.add_zero]
  · rfl

lemma firings_run (fuel : Nat) (f : Firings) : firings (run fuel f).events = firings f.events := by
  induction fuel generalizing f with
  | zero => rfl
  | succ fuel ih =>
    cases hagenda : f.session.agenda with
    | nil => rw [run_of_nil hagenda]
    | cons a rest => rw [run_of_cons hagenda, ih, firings_step]

lemma firings_insertAll {s s' : Session} {pool : Pool} {batch : List Nat} {events : List Event}
    (h : Engine.insertAll s pool batch = .ok (s', events)) : firings events = 0 := by
  induction batch generalizing s s' events with
  | nil =>
    rw [← (Prod.mk.inj (Except.ok.inj h)).2]
    rfl
  | cons position rest ih =>
    obtain ⟨⟨s₁, handle, first⟩, hinsert, h⟩ := Outcome.bind_eq_ok.1 h
    obtain ⟨⟨s₂, later⟩, hrest, h⟩ := Outcome.bind_eq_ok.1 h
    rw [← (Prod.mk.inj (Except.ok.inj h)).2, firings_append, ih hrest]
    unfold insert at hinsert
    split_ifs at hinsert
    rw [← (Prod.mk.inj (Prod.mk.inj (Except.ok.inj hinsert)).2).2, firings_matchWarnings]

end Session

/-! ## Forward chaining -/

lemma Session.memory_loaded (p : Program) (pool : Pool) (batch : List Nat) :
    (loaded p pool batch).memory pool = Memory.initial p batch pool := by
  have hfold (s : Session) : (s.addAll pool batch).memory pool =
      ⟨s.program, s.facts ++ batch, s.fired, pool⟩ := by
    induction batch generalizing s with
    | nil => simp [addAll, memory]
    | cons position rest ih => simpa [addAll] using ih (add pool s position)
  exact hfold (ofProgram p)

lemma Session.inv_loaded {p : Program} (hp : p.WellFormed) {pool : Pool} {batch : List Nat}
    (hdistinct : batch.Nodup) (hpresent : ∀ i ∈ batch, i < pool.length) :
    (loaded p pool batch).Inv pool ∅ := by
  have hfold (s : Session) (hs : s.Inv pool ∅) (hnew : ∀ i ∈ batch, i ∉ s.facts) :
      (s.addAll pool batch).Inv pool ∅ := by
    induction batch generalizing s with
    | nil => exact hs
    | cons position rest ih =>
      obtain ⟨hposition, hrest⟩ := List.nodup_cons.1 hdistinct
      refine ih hrest (fun i hi => hpresent i (by simp [hi])) _
        (hs.add (hpresent position (by simp)) (hnew position (by simp))) fun i hi => ?_
      rw [facts_add, List.mem_append, List.mem_singleton, not_or]
      exact ⟨hnew i (by simp [hi]), fun heq => hposition (heq ▸ hi)⟩
  exact hfold _ (inv_ofProgram hp pool) fun i _ => List.not_mem_nil

namespace Engine

/-- A program goes through the run over the batch, and reports its length. -/
lemma chain_run {p : Program} (hp : p.WellFormed) {pool : Pool} {batch : List Nat}
    (hdistinct : batch.Nodup) (hpresent : ∀ i ∈ batch, i < pool.length) :
    ∃ result seq m, chain p pool batch = .ok result ∧ (Memory.initial p batch pool).Run seq m ∧
      m.pool = result.pool ∧ firings result.events = seq.length := by
  obtain ⟨events, hinsert⟩ := Session.insertAll_eq (s := Session.ofProgram p) rfl pool batch
  have hdisposed := Session.disposed_addAll (Session.ofProgram p) pool batch
  obtain ⟨seq, hrun, hfired⟩ := Session.run_refines
    (f := { session := Session.loaded p pool batch, pool := pool })
    (Session.inv_loaded hp hdistinct hpresent) (Session.potential_le_bound _)
  rw [Session.memory_loaded] at hrun
  simp only [chain, hinsert, Outcome.ok_bind, Session.fireAll_eq hdisposed, Outcome.pure_eq]
  refine ⟨_, seq, _, rfl, hrun, rfl, ?_⟩
  have hlength := congrArg List.length hfired
  simp only [List.length_map, List.map_nil, List.nil_append] at hlength
  simp only [firings_append, Session.firings_insertAll hinsert, Session.firings_run, firings_cons,
    firings_nil, Event.firings, Nat.zero_add, Nat.add_zero]
  exact hlength

end Engine

/-! ## First match -/

namespace FirstMatch

/-- A transaction as the first matching rule leaves it. -/
def classified (rules : List CompiledRule) (t : Transaction) : Transaction :=
  match rule? rules t with
  | some r => { t with category := r.categoryName }
  | none => t

lemma firings_events (rules : List CompiledRule) (t : Transaction) : firings (events rules t) = 0 := by
  induction rules with
  | nil => rfl
  | cons r rest ih =>
    rw [events]
    split_ifs
    · rfl
    · rw [firings_append, CompiledRule.firings_warnings, ih]

/-- The pool after the transaction at a position was classified. -/
def advance (rules : List CompiledRule) (pool : Pool) (position : Nat) : Pool :=
  match rule? rules (pool.get position) with
  | some r => pool.setCategory position r.categoryName
  | none => pool

lemma apply_cons (rules : List CompiledRule) (pool : Pool) (position : Nat) (rest : List Nat) :
    apply rules pool (position :: rest) = ((apply rules (advance rules pool position) rest).1,
      events rules (pool.get position) ++ (apply rules (advance rules pool position) rest).2) := rfl

lemma length_advance (rules : List CompiledRule) (pool : Pool) (position : Nat) :
    (advance rules pool position).length = pool.length := by
  unfold advance
  split
  · exact Pool.length_setCategory _ _ _
  · rfl

lemma get_advance (rules : List CompiledRule) {pool : Pool} {position : Nat}
    (h : position < pool.length) (i : Nat) :
    (advance rules pool position).get i =
      if i = position then classified rules (pool.get i) else pool.get i := by
  unfold advance classified
  split_ifs with hi
  · subst hi
    split
    · exact Pool.get_setCategory_self _ h
    · rfl
  · split
    · exact Pool.get_setCategory_of_ne _ _ (Ne.symm hi)
    · rfl

/-- Each transaction is classified by itself. -/
lemma apply_spec (rules : List CompiledRule) {pool : Pool} {batch : List Nat}
    (hdistinct : batch.Nodup) (hpresent : ∀ i ∈ batch, i < pool.length) :
    (apply rules pool batch).1.length = pool.length ∧
      (∀ i, (apply rules pool batch).1.get i =
        if i ∈ batch then classified rules (pool.get i) else pool.get i) ∧
      firings (apply rules pool batch).2 = 0 := by
  induction batch generalizing pool with
  | nil => exact ⟨rfl, fun i => by simp [apply], rfl⟩
  | cons position rest ih =>
    obtain ⟨hposition, hrest⟩ := List.nodup_cons.1 hdistinct
    have hlength := length_advance rules pool position
    have hadvance := get_advance rules (hpresent position (by simp))
    have hlater : ∀ i ∈ rest, i < (advance rules pool position).length := fun i hi =>
      hlength ▸ hpresent i (by simp [hi])
    obtain ⟨hlen, hget, hfirings⟩ := ih hrest hlater
    rw [apply_cons]
    refine ⟨hlen.trans hlength, fun i => ?_, by rw [firings_append, firings_events, hfirings]⟩
    rw [hget i, hadvance i]
    by_cases hi : i = position
    · subst hi
      simp [hposition]
    · simp [hi]

end FirstMatch

/-! ## Engines -/

/-- The plan of a set is what an engine makes of rules whose priorities have an order. -/
def RuleSet.PlannedBy (e : Engine) (set : RuleSet) : Prop :=
  ∃ customer rules, (∀ r ∈ rules, r.priority.quantity? ≠ some .nan) ∧
    e.plan customer rules = .ok set.plan

namespace Engine

/-- The number of firings that an engine reports for a batch. -/
def firingsOf (e : Engine) (set : RuleSet) (pool : Pool) (batch : List Nat) : Nat :=
  match e.apply set pool batch with
  | .ok (_, events) => firings events
  | .error _ => 0

lemma apply_ordered {set : RuleSet} {rules : List CompiledRule} (h : .ordered rules = set.plan)
    (pool : Pool) (batch : List Nat) :
    firstMatch.apply set pool batch = .ok (FirstMatch.apply rules pool batch) := by
  simp only [apply, ← h]

lemma apply_program {set : RuleSet} {p : Program} (h : .program p = set.plan) {pool : Pool}
    {batch : List Nat} {result : Firings} (hchain : chain p pool batch = .ok result) :
    forwardChaining.apply set pool batch = .ok (result.pool, result.events) := by
  simp only [apply, ← h, hchain]

/-- An engine applies its plans to every batch. -/
lemma exists_apply {e : Engine} {set : RuleSet} (hset : set.PlannedBy e) (pool : Pool)
    (batch : List Nat) : ∃ after events, e.apply set pool batch = .ok (after, events) := by
  obtain ⟨customer, rules, -, hplan⟩ := hset
  cases e with
  | firstMatch =>
    obtain ⟨ordered, -, hordered⟩ := Outcome.map_eq_ok.1 hplan
    exact ⟨_, _, apply_ordered hordered pool batch⟩
  | forwardChaining =>
    obtain ⟨p, -, hprogram⟩ := Outcome.map_eq_ok.1 hplan
    obtain ⟨result, hchain, -⟩ := Session.chain_eq p pool batch
    exact ⟨_, _, apply_program hprogram hchain⟩

/-- Members of a batch are classified as they are alone, nothing but their categories changes, and
there are as many firings as for the members together. -/
theorem apply_eq_single {e : Engine} {set : RuleSet} (hset : set.PlannedBy e) {pool : Pool}
    {batch : List Nat} (hdistinct : batch.Nodup) (hpresent : ∀ i ∈ batch, i < pool.length) :
    ∃ after events, e.apply set pool batch = .ok (after, events) ∧ after.length = pool.length ∧
      (∀ i, after.get i = { pool.get i with category := (after.get i).category }) ∧
      (∀ i ∉ batch, after.get i = pool.get i) ∧
      (∀ i ∈ batch, ∃ one events', e.apply set pool [i] = .ok (one, events') ∧
        one.get i = after.get i) ∧
      firings events = (batch.map fun i => e.firingsOf set pool [i]).sum := by
  obtain ⟨customer, rules, hnan, hplan⟩ := hset
  cases e with
  | firstMatch =>
    obtain ⟨ordered, -, hordered⟩ := Outcome.map_eq_ok.1 hplan
    have happly (batch : List Nat) := apply_ordered hordered pool batch
    obtain ⟨hlength, hget, hfirings⟩ := FirstMatch.apply_spec ordered hdistinct hpresent
    have hsingle {i : Nat} (hi : i ∈ batch) := FirstMatch.apply_spec ordered
      (List.nodup_singleton i) (by simpa using hpresent i hi)
    refine ⟨_, _, happly batch, hlength, fun i => ?_, fun i hi => by rw [hget, if_neg hi],
      fun i hi => ⟨(FirstMatch.apply ordered pool [i]).1, _, happly [i], ?_⟩, ?_⟩
    · rw [hget]
      split_ifs
      · unfold FirstMatch.classified
        split <;> rfl
      · rfl
    · rw [(hsingle hi).2.1, hget, if_pos hi, if_pos (List.mem_singleton_self i)]
    · rw [hfirings, eq_comm, List.sum_eq_zero_iff, List.forall_mem_map]
      intro i hi
      rw [firingsOf, happly]
      exact (hsingle hi).2.2
  | forwardChaining =>
    obtain ⟨p, hp, hprogram⟩ := Outcome.map_eq_ok.1 hplan
    have hwf := Program.wellFormed_ofRules hp hnan
    obtain ⟨result, seq, m, hchain, hrun, hpool, hfirings⟩ := chain_run hwf hdistinct hpresent
    have hgrown := hrun.grown
    -- the run over one member, and its part of the run over the batch
    have hsingle (k : Nat) (hk : k < batch.length) : ∃ one,
        chain p pool [batch[k]] = .ok one ∧ one.pool.get batch[k] = result.pool.get batch[k] ∧
          firings one.events = (seq.filter (·.2 == k)).length := by
      have hposition := hpresent batch[k] (List.getElem_mem hk)
      have hmember : ∀ i ∈ [batch[k]], i < pool.length := by simpa using hposition
      obtain ⟨one, seq', m', hone, hrun', hpool', hfirings'⟩ :=
        chain_run hwf (List.nodup_singleton batch[k]) hmember
      have hshows : (Memory.initial p batch pool).Shows (Memory.initial p [batch[k]] pool) k batch[k] :=
        ⟨rfl, List.getElem?_eq_getElem hk, rfl, ⟨hposition, hposition⟩, rfl, fun o => by
          simp [Memory.initial]⟩
      obtain ⟨m'', hproject, hshows'⟩ := hrun.project hdistinct hshows
      obtain ⟨hseq, hm⟩ := hrun'.unique hwf hproject
      refine ⟨one, hone, ?_, by rw [hfirings', hseq, List.length_map]⟩
      rw [← hpool', ← hpool, hm]
      exact hshows'.same
    refine ⟨_, _, apply_program hprogram hchain, hpool ▸ hgrown.length, hpool ▸ hgrown.category,
      hpool ▸ hgrown.others, fun i hi => ?_, ?_⟩
    · obtain ⟨k, hk, rfl⟩ := List.getElem_of_mem hi
      obtain ⟨one, hone, hget, -⟩ := hsingle k hk
      exact ⟨_, _, apply_program hprogram hone, hget⟩
    · have hsum : ∑ k ∈ Finset.range batch.length, (seq.filter (·.2 == k)).length = seq.length :=
        hrun.sum_length
      rw [hfirings, ← hsum, ← Fin.sum_univ_fun_getElem, Finset.sum_range]
      refine Finset.sum_congr rfl fun k _ => ?_
      obtain ⟨one, hone, -, hcount⟩ := hsingle k k.isLt
      rw [firingsOf, apply_program hprogram hone]
      exact hcount.symm

end Engine

end TransactionRules
