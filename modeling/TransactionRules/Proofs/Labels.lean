import TransactionRules.Proofs.Changes
import TransactionRules.Proofs.ClassifierRuns
import TransactionRules.Proofs.Policies

/-!
# Labels

A report writes a field that is a text as it is, and something else in the place of a field that does
not hold; such fields are labels. The names of stored categories are labels, so the sets that a
classifier planned from its store, now or earlier, set categories to labels only.
-/

namespace TransactionRules

/-- A text, or what does not hold. -/
def Value.IsLabel (v : Value) : Prop := v.truthy = true → ∃ s, v = .text s

lemma Value.isLabel_text (s : String) : (Value.text s).IsLabel := fun _ => ⟨s, rfl⟩

lemma Value.isLabel_null : Value.null.IsLabel := fun h => nomatch h

/-! ## From rules to sets -/

/-- Whether the name of a rule's category is a label. -/
def Rule.Labelled (r : Rule) : Prop := ∀ category, r.category = some category → category.name.IsLabel

/-- The rules that a plan tries. -/
def Plan.rules : Plan → List CompiledRule
  | .program p => p.clauses.map (·.rule)
  | .ordered rules => rules

/-- Whether a set sets categories to labels only. -/
def RuleSet.Labelled (set : RuleSet) : Prop := ∀ r ∈ set.plan.rules, r.categoryName.IsLabel

lemma Compiler.labelled_compileRule {c c' : Compiler} {r : Rule} {compiled : CompiledRule}
    {events : List Event} (h : c.compileRule r = .ok (c', compiled, events)) (hr : r.Labelled) :
    compiled.categoryName.IsLabel := by
  unfold compileRule at h
  split_ifs at h
  split at h
  · cases h
  · next category hcategory =>
    split at h
    · cases h
    · split at h
      · cases h
      · cases h
        exact hr category hcategory

lemma Compiler.labelled_compileRules {c : Compiler} {rules : List Rule} {compiled : List CompiledRule}
    (h : (c.compileRules rules).2.2 = .ok compiled) (hrules : ∀ r ∈ rules, r.Labelled) :
    ∀ r ∈ compiled, r.categoryName.IsLabel := by
  induction rules generalizing c compiled with
  | nil =>
    cases h
    exact fun r hr => nomatch hr
  | cons r rest ih =>
    obtain ⟨hr, hrest⟩ := List.forall_mem_cons.mp hrules
    unfold compileRules at h
    split at h
    · cases h
    · next first =>
      obtain ⟨later, hlater, rfl⟩ := Outcome.map_eq_ok.1 h
      exact List.forall_mem_cons.mpr ⟨labelled_compileRule first hr, ih hlater hrest⟩

/-- An engine plans with the rules that it is given. -/
lemma Engine.rules_plan {e : Engine} {customer : String} {rules : List CompiledRule} {plan : Plan}
    (h : e.plan customer rules = .ok plan) : ∀ r ∈ plan.rules, r ∈ rules := by
  cases e with
  | firstMatch =>
    obtain ⟨ordered, hordered, rfl⟩ := Outcome.map_eq_ok.1 h
    exact fun r hr => (CompiledRule.of_inOrder hordered).1.mem_iff.1 hr
  | forwardChaining =>
    obtain ⟨p, hp, rfl⟩ := Outcome.map_eq_ok.1 h
    obtain ⟨ordered, hordered, -⟩ := Outcome.bind_eq_ok.1 hp
    intro r hr
    rw [Plan.rules, (Program.clauses_ofRules hp hordered).1] at hr
    exact (CompiledRule.of_inOrder hordered).1.mem_iff.1 hr

/-! ## From sets to categories -/

/-- Pools that come from one by setting categories to labels. -/
inductive Pool.Relabelled (start : Pool) : Pool → Prop
  | refl : Relabelled start start
  | set {pool : Pool} (h : Relabelled start pool) (i : Nat) {v : Value} (hv : v.IsLabel) :
      Relabelled start (pool.setCategory i v)

section Apply

variable {start pool : Pool}

lemma FirstMatch.relabelled_apply {rules : List CompiledRule}
    (hrules : ∀ r ∈ rules, r.categoryName.IsLabel) (batch : List Nat)
    (h : start.Relabelled pool) : start.Relabelled (apply rules pool batch).1 := by
  induction batch generalizing pool with
  | nil => exact h
  | cons position rest ih =>
    unfold apply
    apply ih
    split
    · next r found => exact h.set position (hrules r (List.mem_of_find?_eq_some found))
    · exact h

/-- A firing sets the category of a clause of the program, and keeps the program. -/
lemma Session.relabelled_run {f : Firings}
    (hclauses : ∀ c ∈ f.session.program.clauses, c.rule.categoryName.IsLabel) (fuel : Nat)
    (h : start.Relabelled f.pool) : start.Relabelled (run fuel f).pool := by
  induction fuel generalizing f with
  | zero => exact h
  | succ fuel ih =>
    cases hagenda : f.session.agenda with
    | nil => rwa [run_of_nil hagenda]
    | cons a rest =>
      rw [run_of_cons hagenda]
      cases hfiring : f.session.firing? f.pool a with
      | none =>
        obtain ⟨events, hstep⟩ := step_of_none hfiring rest
        rw [hstep]
        exact ih hclauses h
      | some firing =>
        obtain ⟨c, position⟩ := firing
        obtain ⟨events, hstep⟩ := step_of_some hfiring rest
        have hc : c ∈ f.session.program.clauses :=
          List.mem_of_getElem? (firing?_eq_some.1 hfiring).1
        rw [hstep]
        refine ih ?_ (h.set position (hclauses c hc))
        simpa [settled, popped] using hclauses

/-- Classification with a set that has labels sets categories to labels, and does nothing else. -/
theorem Engine.relabelled_apply {e : Engine} {set : RuleSet} {after : Pool} {batch : List Nat}
    {events : List Event} (h : e.apply set pool batch = .ok (after, events))
    (hlabels : set.Labelled) : pool.Relabelled after := by
  unfold apply at h
  split at h
  · next p hplan =>
    obtain ⟨result, hchain, hpool, -⟩ := Session.chain_eq p pool batch
    rw [hchain] at h
    cases h
    rw [hpool]
    have hprogram : (Session.loaded p pool batch).program = p :=
      congrArg Memory.program (Session.memory_loaded p pool batch)
    have hclauses : ∀ c ∈ (Session.loaded p pool batch).program.clauses,
        c.rule.categoryName.IsLabel := by
      intro c hc
      apply hlabels
      rw [hplan]
      exact List.mem_map_of_mem (hprogram ▸ hc)
    exact Session.relabelled_run hclauses _ .refl
  · next rules hplan =>
    have hafter : (FirstMatch.apply rules pool batch).1 = after :=
      congrArg Prod.fst (Except.ok.inj h)
    have hrules : ∀ r ∈ rules, r.categoryName.IsLabel := by
      intro r hr
      apply hlabels
      rwa [hplan]
    rw [← hafter]
    exact FirstMatch.relabelled_apply hrules batch .refl
  · cases h

end Apply

/-! ## From stores to sets -/

lemma Store.database_rulesOf (s : Store) (customer : Value) :
    (s.rulesOf customer).1.database = s.database :=
  database_read _ _

/-- The categories of stored rules have labels for names. -/
lemma Store.labelled_rulesOf {s : Store} {customer : Value} {rules : List Rule}
    (h : (s.rulesOf customer).2 = .ok rules) : ∀ r ∈ rules, r.Labelled := by
  obtain ⟨-, -, h⟩ := Outcome.bind_eq_ok.1 (read_ok h)
  obtain ⟨cell, -, h⟩ := Outcome.bind_eq_ok.1 h
  cases h
  intro r hr category hcategory
  obtain ⟨⟨id, row⟩, -, rfl⟩ := List.mem_map.1 hr
  obtain ⟨reference, -, rfl⟩ := Option.map_eq_some_iff.1 hcategory
  split
  · next stored _ => exact Value.isLabel_text stored.name
  · exact Value.isLabel_null

namespace RuleSetCache

variable {ρ : Type} {c : RuleSetCache ρ}

/-- Whether all cached sets set categories to labels only. -/
def Labelled (c : RuleSetCache ρ) : Prop :=
  ∀ customer set, c.peek? customer = some set → set.Labelled

lemma labelled_assemble {customer fingerprint : String} {compiled : List CompiledRule} {set : RuleSet}
    (h : c.assemble customer fingerprint compiled = .ok set)
    (hcompiled : ∀ r ∈ compiled, r.categoryName.IsLabel) : set.Labelled := by
  obtain ⟨ordered, hordered, h⟩ := Outcome.bind_eq_ok.1 h
  obtain ⟨plan, hplan, h⟩ := Outcome.bind_eq_ok.1 h
  cases h
  intro r hr
  exact hcompiled r ((CompiledRule.of_inOrder hordered).1.mem_iff.1 (Engine.rules_plan hplan r hr))

lemma labelled_rebuild (hc : c.Labelled) {compiler : Compiler} {customer fingerprint : String}
    {active : List Rule} (hactive : ∀ r ∈ active, r.Labelled) :
    let answer := c.rebuild compiler customer fingerprint active
    answer.cache.Labelled ∧ ∀ set, answer.result = .ok set → set.Labelled := by
  unfold rebuild
  simp only
  split
  · exact ⟨hc, fun set hset => nomatch hset⟩
  · next compiled hcompiled =>
    split
    · exact ⟨hc, fun set hset => nomatch hset⟩
    · next set hassemble =>
      have hset : set.Labelled :=
        labelled_assemble hassemble (Compiler.labelled_compileRules hcompiled hactive)
      refine ⟨fun other set' hset' => ?_, fun set' hset' => Except.ok.inj hset' ▸ hset⟩
      by_cases hother : other = customer
      · subst hother
        rw [peek?, lookup_put_self, Option.some.injEq] at hset'
        exact hset' ▸ hset
      · rw [peek?, lookup_put_of_ne hother] at hset'
        exact hc other set' hset'

/-- Requests keep the labels of the cached sets, and hand out sets with labels. -/
lemma labelled_get (hc : c.Labelled) (compiler : Compiler) (view : ρ → Rule) (customer : String)
    {stored : List ρ} (hstored : ∀ r ∈ stored, (view r).Labelled) :
    let answer := c.get compiler view customer stored
    answer.cache.Labelled ∧ ∀ set, answer.result = .ok set → set.Labelled := by
  have hremember : (c.remember customer stored).Labelled := hc
  have hactive : ∀ r ∈ Rule.activeOf (stored.map view), r.Labelled := by
    intro r hr
    obtain ⟨r', hr', rfl⟩ := List.mem_map.1 (List.mem_of_mem_filter hr)
    exact hstored r' hr'
  unfold get
  simp only
  split
  · exact ⟨hremember, fun set hset => nomatch hset⟩
  · split
    · next set hpeek =>
      split_ifs
      · exact ⟨hremember, fun set' hset' => Except.ok.inj hset' ▸ hc customer set hpeek⟩
      · exact labelled_rebuild hremember hactive
    · exact labelled_rebuild hremember hactive

end RuleSetCache

/-! ## Classifiers -/

namespace Classifier

variable {c c' : Classifier}

def Labelled (c : Classifier) : Prop := ∀ cache, c.cache = some cache → cache.Labelled

/-- What a call that only reads the store leaves alone. -/
structure Keeps (c c' : Classifier) : Prop where
  database : c'.store.database = c.store.database
  labelled : c.Labelled → c'.Labelled

lemma Keeps.rfl : c.Keeps c := ⟨Eq.refl _, id⟩

lemma Keeps.trans {c'' : Classifier} (h : c.Keeps c') (h' : c'.Keeps c'') : c.Keeps c'' :=
  ⟨h'.database.trans h.database, h'.labelled ∘ h.labelled⟩

lemma keeps_withCache (c : Classifier) (around : Surroundings) :
    c.Keeps (c.withCache around).1 := by
  obtain ⟨c', events, r, heq, hstore, -, -, hcache⟩ := c.withCache_spec around
  rw [heq]
  refine ⟨congrArg Store.database hstore, fun hc cache hsome => ?_⟩
  obtain ⟨e, -, hsame⟩ | ⟨cache', -, hsome', hold | ⟨e, rfl⟩⟩ := hcache
  · exact hc cache (hsame ▸ hsome)
  · obtain rfl := Option.some.inj (hsome'.symm.trans hsome)
    exact hc cache' hold
  · obtain rfl := Option.some.inj (hsome'.symm.trans hsome)
    exact fun customer set hset => nomatch hset

lemma keeps_readRules (c : Classifier) (customer : String) :
    c.Keeps (c.readRules customer).1 ∧
      ∀ rules, (c.readRules customer).2.2 = .ok rules → ∀ r ∈ rules, r.Labelled := by
  refine ⟨⟨Store.database_rulesOf _ _, fun hc => hc⟩, fun rules hrules => ?_⟩
  exact Store.labelled_rulesOf (Outcome.mapError_eq_ok.1 hrules)

lemma keeps_ruleSet {cache : RuleSetCache Rule} (hcache : c.cache = some cache) (customer : String) :
    c.Keeps (c.ruleSet cache customer).1 ∧
      (c.Labelled → ∀ set, (c.ruleSet cache customer).2.2 = .ok set → set.Labelled) := by
  obtain ⟨hkeeps, hrules⟩ := c.keeps_readRules customer
  unfold ruleSet
  split
  · next hread =>
    rw [hread] at hkeeps
    exact ⟨hkeeps, fun _ set hset => nomatch hset⟩
  · next c₁ events stored hread =>
    rw [hread] at hkeeps hrules
    have hget (hc : c.Labelled) :=
      RuleSetCache.labelled_get (hc cache hcache) c₁.compiler id customer (hrules stored rfl)
    refine ⟨⟨hkeeps.database, fun hc cache' hsome => ?_⟩, fun hc set hset => ?_⟩
    · exact Option.some.inj hsome ▸ (hget hc).1
    · exact (hget hc).2 set (Outcome.mapError_eq_ok.1 hset)

/-- A run changes neither the stored rows nor that sets have labels, and sets categories to labels. -/
theorem keeps_run (c : Classifier) (around : Surroundings) (pool : Pool) (batch : List Nat)
    (customer : String) : c.Keeps (c.run around pool batch customer).1 ∧
      (c.Labelled → pool.Relabelled (c.run around pool batch customer).2.1) := by
  have hwith := c.keeps_withCache around
  obtain ⟨c₁, made, r, heq, -, -, -, hcache⟩ := c.withCache_spec around
  rw [heq] at hwith
  obtain ⟨e, rfl, -⟩ | ⟨cache, rfl, hsome, -⟩ := hcache
  · simp only [run, heq]
    exact ⟨hwith, fun _ => .refl⟩
  · obtain ⟨hrules, hset⟩ := keeps_ruleSet hsome customer
    simp only [run, heq]
    split
    · next hruleSet =>
      rw [hruleSet] at hrules
      exact ⟨hwith.trans hrules, fun _ => .refl⟩
    · next c₂ events set hruleSet =>
      rw [hruleSet] at hrules hset
      split
      · exact ⟨hwith.trans hrules, fun _ => .refl⟩
      · next happly =>
        refine ⟨hwith.trans hrules, fun hc => ?_⟩
        have hlabels : set.Labelled := hset (hwith.labelled hc) set rfl
        exact Engine.relabelled_apply happly hlabels

lemma keeps_classify (c : Classifier) (around : Surroundings) (pool : Pool) (position : Nat)
    (customer : String) : c.Keeps (c.classify around pool position customer).1 := by
  rw [fst_classify]
  exact (c.keeps_run around pool [position] customer).1

/-- A batch changes neither the stored rows nor that sets have labels, and sets categories to labels. -/
theorem keeps_classifyBatch (c : Classifier) (around : Surroundings) (pool : Pool)
    (batch : List Nat) (customer : String) :
    c.Keeps (c.classifyBatch around pool batch customer).1 ∧
      (c.Labelled → pool.Relabelled (c.classifyBatch around pool batch customer).2.1) := by
  have hrun := c.keeps_run around pool batch customer
  unfold classifyBatch
  split_ifs
  · exact ⟨.rfl, fun _ => .refl⟩
  · split <;> next heq => rwa [heq] at hrun

lemma keeps_rulesFor (c : Classifier) (around : Surroundings) (customer : String) :
    c.Keeps (c.rulesFor around customer).1 := by
  have hwith := c.keeps_withCache around
  obtain ⟨c₁, made, r, heq, -, -, -, hcache⟩ := c.withCache_spec around
  rw [heq] at hwith
  unfold rulesFor
  rw [heq]
  obtain ⟨e, rfl, -⟩ | ⟨cache, rfl, hsome, -⟩ := hcache
  · exact hwith
  · simp only
    split
    · exact hwith
    · have hread := (c₁.keeps_readRules customer).1
      split
      · next hrules =>
        rw [hrules] at hread
        exact hwith.trans hread
      · next c₂ events rules hrules =>
        rw [hrules] at hread
        refine hwith.trans ⟨hread.database, fun hc cache' hsome' => ?_⟩
        exact Option.some.inj hsome' ▸ hc cache hsome

end Classifier

end TransactionRules
