import TransactionRules.Classifier
import TransactionRules.Proofs.Batches
import TransactionRules.Proofs.CacheTransparency
import TransactionRules.Proofs.Changes

/-!
# Classifiers in use

A classifier is reached by classifying, by reading rules, by opening sessions, and by edits of its
store. Its cache holds sets that its engine planned, and, while the stores are well typed, sets that
were built from their rules (`Classifier.Inv`). Which set a request gives does not depend on the
transactions, so a batch is classified as its members are (`Classifier.classifyBatch_eq_classify`).
-/

namespace TransactionRules

/-! ## Stores -/

/-- The rules of a store as a classifier reads them. -/
def Store.source (s : Store) : RuleSource Rule where
  view := id
  names customer := match (s.rulesOf (.text customer)).2 with
    | .ok rules => rules
    | .error _ => []

/-- Every priority has a place in the order of numbers, or is no number at all. -/
def RuleSource.Ordered {ρ : Type} (s : RuleSource ρ) : Prop :=
  ∀ customer, ∀ r ∈ s.rules customer, r.priority.quantity? ≠ some .nan

/-- Reading a store opens it and does nothing else. -/
lemma Store.source_rulesOf (s : Store) (customer : Value) : (s.rulesOf customer).1.source = s.source := by
  have hopen : ({ s with isOpen := true } : Store).source = s.source := by
    unfold source rulesOf read connect
    cases s.defect with
    | none => rfl
    | some e => cases e <;> rfl
  unfold rulesOf read connect
  cases hdefect : s.defect with
  | none => simpa [hdefect] using hopen
  | some e => cases e <;> simp_all

/-- The order of priorities can be read off the rows. -/
lemma Store.ordered_source {s : Store}
    (h : ∀ entry ∈ s.database.rules.rows, entry.2.priority.toValue.quantity? ≠ some .nan) :
    s.source.Ordered := by
  intro customer r hr
  obtain ⟨r', hr', rfl⟩ := List.mem_map.1 hr
  unfold source at hr'
  simp only at hr'
  split at hr'
  · next rules hrules =>
    obtain ⟨_, -, hquery⟩ := Outcome.bind_eq_ok.1 (read_ok hrules)
    obtain ⟨cell, -, hquery⟩ := Outcome.bind_eq_ok.1 hquery
    rw [← Except.ok.inj hquery] at hr'
    obtain ⟨⟨id, row⟩, hrow, rfl⟩ := List.mem_map.1 hr'
    exact h (id, row) (List.mem_of_mem_filter (List.mem_mergeSort.1 hrow))
  · cases hr'

/-! ## What planning sees -/

lemma Rule.priority_of_compiled {r : Rule} {c : CompiledRule} (h : r.compiled = .ok c) :
    c.priority = r.priority := by
  unfold compiled at h
  split_ifs at h
  split at h
  · cases h
  · split at h
    · cases h
    · split at h
      · cases h
      · rw [← Except.ok.inj h]

lemma Rule.priority_of_mapM {rules : List Rule} {compiled : List CompiledRule}
    (h : rules.mapM Rule.compiled = .ok compiled) : ∀ c ∈ compiled, ∃ r ∈ rules, c.priority = r.priority := by
  intro c hc
  obtain ⟨r, hr, hcompiled⟩ := Outcome.exists_of_mem_mapM h hc
  exact ⟨r, hr, priority_of_compiled hcompiled⟩

namespace RuleSetCache

variable {ρ : Type} {s : RuleSource ρ} {c : RuleSetCache ρ}

/-- Every entry has a plan of the engine. -/
def Planned (c : RuleSetCache ρ) : Prop :=
  ∀ customer set, c.peek? customer = some set → set.PlannedBy c.engine

lemma planned_rebuild (hs : s.Ordered) (hc : c.Planned) {compiler : Compiler} (hcompiler : compiler.Sound)
    (customer fingerprint : String) :
    let answer := c.rebuild compiler customer fingerprint (s.active customer)
    answer.compiler.Sound ∧ answer.cache.engine = c.engine ∧ answer.cache.Planned ∧
      ∀ set, answer.result = .ok set → set.PlannedBy c.engine := by
  obtain ⟨hsound, hresult⟩ := hcompiler.compileRules (s.active customer)
  unfold rebuild
  simp only
  cases h : (compiler.compileRules (s.active customer)).2.2 with
  | error e => exact ⟨hsound, rfl, hc, fun set hset => nomatch hset⟩
  | ok compiled =>
    rw [h] at hresult
    cases hassemble : c.assemble customer fingerprint compiled with
    | error f =>
      simp only [hassemble]
      exact ⟨hsound, trivial, hc, fun set hset => nomatch hset⟩
    | ok set =>
      simp only [hassemble]
      obtain ⟨ordered, hin, hassemble⟩ := Outcome.bind_eq_ok.1 hassemble
      obtain ⟨plan, hplan, hassemble⟩ := Outcome.bind_eq_ok.1 hassemble
      have hplanned : set.PlannedBy c.engine := by
        refine ⟨customer, ordered, fun r hr => ?_, by rw [hplan, ← Except.ok.inj hassemble]⟩
        have hmem : r.anonymous ∈ compiled.map CompiledRule.anonymous :=
          List.mem_map_of_mem ((CompiledRule.of_inOrder hin).1.mem_iff.1 hr)
        obtain ⟨rule, hrule, hpriority⟩ := Rule.priority_of_mapM hresult.symm _ hmem
        rw [CompiledRule.priority_anonymous] at hpriority
        rw [hpriority]
        exact hs customer rule (RuleSource.mem_rules_of_mem_active hrule)
      refine ⟨hsound, trivial, fun other set' hset' => ?_,
        fun set' hset' => Except.ok.inj hset' ▸ hplanned⟩
      by_cases hother : other = customer
      · subst hother
        rw [peek?, lookup_put_self, Option.some.injEq] at hset'
        exact hset' ▸ hplanned
      · rw [peek?, lookup_put_of_ne hother] at hset'
        exact hc other set' hset'

/-- Requests keep the plans of the entries, and hand out planned sets. -/
lemma planned_get (hs : s.Ordered) (hc : c.Planned) {compiler : Compiler} (hcompiler : compiler.Sound)
    (customer : String) :
    let answer := c.get compiler s.view customer (s.names customer)
    answer.compiler.Sound ∧ answer.cache.engine = c.engine ∧ answer.cache.Planned ∧
      ∀ set, answer.result = .ok set → set.PlannedBy c.engine := by
  have hremember : (c.remember customer (s.names customer)).Planned := hc
  have hactive : Rule.activeOf ((s.names customer).map s.view) = s.active customer := rfl
  unfold get
  simp only [hactive]
  cases Rule.fingerprint (s.active customer) with
  | error f => exact ⟨hcompiler, rfl, hremember, fun set hset => nomatch hset⟩
  | ok fingerprint =>
    have hrebuild := planned_rebuild hs hremember hcompiler customer fingerprint
    cases hpeek : (c.remember customer (s.names customer)).peek? customer with
    | none => exact hrebuild
    | some set =>
      simp only
      split_ifs
      · exact ⟨hcompiler, rfl, hremember, fun set' hset' => Except.ok.inj hset' ▸ hc customer set hpeek⟩
      · exact hrebuild

end RuleSetCache

/-! ## Events of requests -/

lemma Compiler.firings_compile {c c' : Compiler} {text : String} {p : Predicate} {events : List Event}
    (h : c.compile text = .ok (c', p, events)) : firings events = 0 := by
  unfold compile at h
  split at h
  · cases h
  · split at h
    · rw [← (Prod.mk.inj (Prod.mk.inj (Except.ok.inj h)).2).2]
      rfl
    · obtain ⟨condition, -, h⟩ := Outcome.bind_eq_ok.1 h
      rw [← (Prod.mk.inj (Prod.mk.inj (Except.ok.inj h)).2).2]
      rfl

lemma Compiler.firings_compileRule {c c' : Compiler} {r : Rule} {compiled : CompiledRule}
    {events : List Event} (h : c.compileRule r = .ok (c', compiled, events)) : firings events = 0 := by
  unfold compileRule at h
  split_ifs at h
  split at h
  · cases h
  · split at h
    · cases h
    · split at h
      · cases h
      · next hcompile =>
        rw [← (Prod.mk.inj (Prod.mk.inj (Except.ok.inj h)).2).2]
        exact firings_compile hcompile

lemma Compiler.firings_compileRules (c : Compiler) (rules : List Rule) :
    firings (c.compileRules rules).2.1 = 0 := by
  induction rules generalizing c with
  | nil => rfl
  | cons r rest ih =>
    unfold compileRules
    cases h : c.compileRule r with
    | error e => rfl
    | ok compiled =>
      obtain ⟨c', compiled, events⟩ := compiled
      simp only [firings_append, firings_compileRule h, ih]

lemma RuleSetCache.firings_get {ρ : Type} (c : RuleSetCache ρ) (compiler : Compiler) (view : ρ → Rule)
    (customer : String) (stored : List ρ) : firings (c.get compiler view customer stored).events = 0 := by
  have hrebuild (c : RuleSetCache ρ) (fingerprint : String) (active : List Rule) :
      firings (c.rebuild compiler customer fingerprint active).events = 0 := by
    have hcompile := compiler.firings_compileRules active
    have hstart : firings [Event.setRebuilding customer (c.contains customer)] = 0 := rfl
    unfold rebuild
    simp only
    split
    · rw [firings_append, hstart, hcompile]
    · split
      · rw [firings_append, hstart, hcompile]
      · rw [firings_append, firings_append, hstart, hcompile]
        rfl
  unfold get
  simp only
  split
  · rfl
  · split
    · split_ifs
      · rfl
      · exact hrebuild _ _ _
    · exact hrebuild _ _ _

lemma Registry.firings_create (r : Registry) (around : Surroundings) (type : Option Value) :
    firings (r.create around type).2.1 = 0 := by
  have hnamed (r : Registry) (type : Value) : firings (r.createNamed type).1 = 0 := by
    unfold createNamed
    split
    · simp only
      split <;> rfl
    · rfl
  unfold create
  simp only
  split
  · rfl
  · split
    · rfl
    · exact hnamed _ _

lemma Store.firings_reports (before after : Store) : firings (before.reports after) = 0 := by
  unfold reports
  split_ifs <;> rfl

/-! ## Parts of a call -/

namespace Classifier

variable {c : Classifier}

/-- The cache of a classifier is the one that it has, or a new one. -/
lemma withCache_spec (c : Classifier) (around : Surroundings) :
    ∃ c' events r, c.withCache around = (c', events, r) ∧ c'.store = c.store ∧
      c'.compiler = c.compiler ∧ firings events = 0 ∧
      ((∃ e, r = .error e ∧ c'.cache = c.cache) ∨
        ∃ cache, r = .ok cache ∧ c'.cache = some cache ∧
          (c.cache = some cache ∨ ∃ e, cache = { engine := e })) := by
  unfold withCache
  cases hcache : c.cache with
  | some cache => exact ⟨c, [], _, rfl, rfl, rfl, rfl, .inr ⟨cache, rfl, hcache, .inl rfl⟩⟩
  | none =>
    cases c.engine with
    | some engine => exact ⟨_, _, _, rfl, rfl, rfl, rfl, .inr ⟨_, rfl, rfl, .inr ⟨engine, rfl⟩⟩⟩
    | none =>
      have hevents := c.registry.firings_create around none
      generalize c.registry.create around none = created at hevents
      obtain ⟨registry, events, r⟩ := created
      cases r with
      | error e => exact ⟨_, _, _, rfl, rfl, rfl, hevents, .inl ⟨_, rfl, rfl⟩⟩
      | ok engine => exact ⟨_, _, _, rfl, rfl, rfl, hevents, .inr ⟨_, rfl, rfl, .inr ⟨engine, rfl⟩⟩⟩

lemma readRules_spec (c : Classifier) (customer : String) :
    ∃ c' events r, c.readRules customer = (c', events, r) ∧ c'.store.source = c.store.source ∧
      c'.cache = c.cache ∧ c'.compiler = c.compiler ∧ firings events = 0 ∧
      ∀ rules, r = .ok rules → c.store.source.names customer = rules := by
  refine ⟨_, _, _, rfl, Store.source_rulesOf _ _, rfl, rfl, Store.firings_reports _ _, ?_⟩
  intro rules hrules
  replace hrules : (c.store.rulesOf (.text customer)).2.mapError ClassifierError.store = .ok rules :=
    hrules
  unfold Store.source
  simp only
  cases h : (c.store.rulesOf (.text customer)).2 with
  | error e =>
    rw [h] at hrules
    cases hrules
  | ok stored =>
    rw [h] at hrules
    exact Except.ok.inj hrules

/-- A request for a set fails with the store, or is one request to the cache. -/
lemma ruleSet_spec (c : Classifier) (cache : RuleSetCache Rule) (customer : String) :
    ∃ c' events r, c.ruleSet cache customer = (c', events, r) ∧ c'.store.source = c.store.source ∧
      firings events = 0 ∧
      ((∃ e, r = .error e ∧ c'.cache = c.cache ∧ c'.compiler = c.compiler) ∨
        ∃ answer, answer = CacheRun.answer ⟨c.store.source, cache, c.compiler⟩ customer ∧
          c'.cache = some answer.cache ∧ c'.compiler = answer.compiler ∧
          r = answer.result.mapError .rule) := by
  obtain ⟨c₁, events, r, hread, hsource, hcache, hcompiler, hevents, hrules⟩ :=
    c.readRules_spec customer
  unfold ruleSet
  rw [hread]
  cases r with
  | error e => exact ⟨c₁, events, _, rfl, hsource, hevents, .inl ⟨e, rfl, hcache, hcompiler⟩⟩
  | ok stored =>
    refine ⟨_, _, _, rfl, hsource, ?_, .inr ⟨_, ?_, rfl, rfl, rfl⟩⟩
    · rw [firings_append, hevents, RuleSetCache.firings_get]
    · rw [CacheRun.answer, hrules stored rfl, hcompiler]
      rfl

/-! ## Invariants -/

/-- The cache holds planned sets; it is a cache in a run over the given stores if they are well typed. -/
structure Inv (sources : List (RuleSource Rule)) (c : Classifier) : Prop where
  source : c.store.source ∈ sources
  sound : c.compiler.Sound
  planned : ∀ cache, c.cache = some cache → cache.Planned
  built : (∀ s ∈ sources, s.WellTyped) → ∀ cache, c.cache = some cache →
    CacheRun.Inv cache.engine sources ⟨c.store.source, cache, c.compiler⟩

variable {sources : List (RuleSource Rule)}

/-- A classifier with a new cache. -/
lemma Inv.of_new (hsource : c.store.source ∈ sources) (hsound : c.compiler.Sound)
    (hcache : ∀ cache, c.cache = some cache → ∃ e, cache = { engine := e }) : c.Inv sources where
  source := hsource
  sound := hsound
  planned := by
    intro cache hsome customer set hset
    obtain ⟨e, rfl⟩ := hcache cache hsome
    cases hset
  built := by
    intro _ cache hsome
    obtain ⟨e, rfl⟩ := hcache cache hsome
    exact CacheRun.inv_new e hsound hsource

/-- What a classifier does besides requests: it opens its store, and makes its cache. -/
lemma Inv.transfer (h : c.Inv sources) {c' : Classifier} (hsource : c'.store.source = c.store.source)
    (hcompiler : c'.compiler = c.compiler)
    (hcache : c'.cache = c.cache ∨ ∃ e, c'.cache = some { engine := e }) : c'.Inv sources := by
  rcases hcache with hcache | ⟨e, hcache⟩
  · refine ⟨hsource ▸ h.source, hcompiler ▸ h.sound, hcache ▸ h.planned, fun htyped cache hsome => ?_⟩
    rw [hsource, hcompiler]
    exact h.built htyped cache (hcache ▸ hsome)
  · refine Inv.of_new (hsource ▸ h.source) (hcompiler ▸ h.sound) fun cache hsome => ⟨e, ?_⟩
    exact (Option.some.inj (hcache.symm.trans hsome)).symm

lemma Inv.withCache (h : c.Inv sources) (around : Surroundings) : (c.withCache around).1.Inv sources := by
  obtain ⟨c', events, r, heq, hstore, hcompiler, -, hcache⟩ := c.withCache_spec around
  rw [heq]
  refine h.transfer (congrArg Store.source hstore) hcompiler ?_
  rcases hcache with ⟨e, -, hsame⟩ | ⟨cache, -, hsome, hold | ⟨e, hnew⟩⟩
  · exact .inl hsame
  · exact .inl (hsome.trans hold.symm)
  · exact .inr ⟨e, hnew ▸ hsome⟩

lemma Inv.ruleSet (hordered : ∀ s ∈ sources, s.Ordered) (h : c.Inv sources) {cache : RuleSetCache Rule}
    (hcache : c.cache = some cache) (customer : String) :
    (c.ruleSet cache customer).1.Inv sources ∧
      ∀ set, (c.ruleSet cache customer).2.2 = .ok set → set.PlannedBy cache.engine := by
  obtain ⟨c', events, r, heq, hsource, -, ⟨e, rfl, hsame, hcompiler⟩ |
    ⟨answer, rfl, hcache', hcompiler, rfl⟩⟩ := c.ruleSet_spec cache customer
  · rw [heq]
    exact ⟨h.transfer hsource hcompiler (.inl hsame), fun set hset => nomatch hset⟩
  · obtain ⟨hsound, hengine, hplanned, hresult⟩ :=
      RuleSetCache.planned_get (hordered _ h.source) (h.planned cache hcache) h.sound customer
    have hplanned' : (CacheRun.answer ⟨c.store.source, cache, c.compiler⟩ customer).cache.Planned :=
      hplanned
    rw [heq]
    refine ⟨⟨hsource ▸ h.source, hcompiler ▸ hsound, fun cache' hsome => ?_,
      fun htyped cache' hsome => ?_⟩, fun set hset => hresult set ?_⟩
    · rw [hcache', Option.some.injEq] at hsome
      exact hsome ▸ hplanned'
    · rw [hcache', Option.some.injEq] at hsome
      have hbuilt := (h.built htyped cache hcache).get htyped customer
      rw [← hsome, hsource, hcompiler]
      exact hbuilt.engine.symm ▸ hbuilt
    · cases hr : (CacheRun.answer ⟨c.store.source, cache, c.compiler⟩ customer).result with
      | error e =>
        rw [hr] at hset
        cases hset
      | ok set' =>
        rw [hr] at hset
        exact hr.trans (congrArg Except.ok (Except.ok.inj hset))

lemma Inv.remember (h : c.Inv sources) {cache : RuleSetCache Rule} (hcache : c.cache = some cache)
    (customer : String) (rules : List Rule) :
    Inv sources { c with cache := some (cache.remember customer rules) } where
  source := h.source
  sound := h.sound
  planned := fun cache' hsome => Option.some.inj hsome ▸ h.planned cache hcache
  built := fun htyped cache' hsome => by
    have hold := h.built htyped cache hcache
    rw [← Option.some.inj hsome]
    exact ⟨hold.engine, hold.compiler, hold.source, hold.entries⟩

/-! ## Calls -/

/-- What a call does before the engine runs does not depend on the transactions. -/
lemma run_spec (hordered : ∀ s ∈ sources, s.Ordered) (h : c.Inv sources) (around : Surroundings)
    (customer : String) :
    ∃ c' events, c'.Inv sources ∧ firings events = 0 ∧
      ((∃ e, ∀ pool batch, c.run around pool batch customer = (c', pool, events, .error e)) ∨
        ∃ (engine : Engine) (set : RuleSet), set.PlannedBy engine ∧
          (∀ pool batch after fired, engine.apply set pool batch = .ok (after, fired) →
            c.run around pool batch customer = (c', after, events ++ fired, .ok ())) ∧
          ((∀ s ∈ sources, s.WellTyped) → Set.InjOn Sha256.ofText (CacheRun.contents sources) →
            ∃ compiled, (c.store.source.active customer).mapM Rule.compiled = .ok compiled)) := by
  have hinv := h.withCache around
  obtain ⟨c₁, made, r, hwith, hstore, hcompiler, hmade, hcache⟩ := c.withCache_spec around
  rw [hwith] at hinv
  rcases hcache with ⟨e, rfl, -⟩ | ⟨cache, rfl, hsome, -⟩
  · exact ⟨c₁, made, hinv, hmade, .inl ⟨e, fun pool batch => by simp only [run, hwith]⟩⟩
  · have hset := hinv.ruleSet hordered hsome customer
    obtain ⟨c₂, events, r, hrules, -, hevents, hanswer⟩ := c₁.ruleSet_spec cache customer
    rw [hrules] at hset
    refine ⟨c₂, made ++ events, hset.1, by rw [firings_append, hmade, hevents], ?_⟩
    cases r with
    | error e => exact .inl ⟨e, fun pool batch => by simp only [run, hwith, hrules]⟩
    | ok set =>
      refine .inr ⟨cache.engine, set, hset.2 set rfl, fun pool batch after fired hfired => ?_, ?_⟩
      · simp only [run, hwith, hrules, hfired]
      · intro htyped hdigest
        have hbuilt := hinv.built htyped cache hsome
        rcases hanswer with ⟨e, he, -⟩ | ⟨answer, rfl, -, -, hresult⟩
        · cases he
        rcases hbuilt.answer_spec htyped hdigest customer with ⟨e, he, -⟩ | ⟨set', -, hset'⟩
        · rw [he] at hresult
          cases hresult
        · obtain ⟨compiled, hcompiled, -⟩ := hset'.compiled
          exact ⟨compiled, by rw [← hstore]; exact hcompiled⟩

lemma Inv.run (hordered : ∀ s ∈ sources, s.Ordered) (h : c.Inv sources) (around : Surroundings)
    (pool : Pool) (batch : List Nat) (customer : String) :
    (c.run around pool batch customer).1.Inv sources := by
  obtain ⟨c', events, hinv, -, ⟨e, hrun⟩ | ⟨engine, set, hset, hrun, -⟩⟩ :=
    run_spec hordered h around customer
  · rw [hrun]
    exact hinv
  · obtain ⟨after, fired, happly⟩ := Engine.exists_apply hset pool batch
    rw [hrun _ _ _ _ happly]
    exact hinv

lemma fst_classify (c : Classifier) (around : Surroundings) (pool : Pool) (position : Nat)
    (customer : String) :
    (c.classify around pool position customer).1 = (c.run around pool [position] customer).1 := by
  unfold classify
  split <;> simp_all

lemma fst_classifyBatch (c : Classifier) (around : Surroundings) (pool : Pool) (batch : List Nat)
    (customer : String) : (c.classifyBatch around pool batch customer).1 = c ∨
      (c.classifyBatch around pool batch customer).1 = (c.run around pool batch customer).1 := by
  unfold classifyBatch
  split_ifs
  · exact .inl rfl
  · split <;> simp_all

lemma Inv.rulesFor (h : c.Inv sources) (around : Surroundings) (customer : String) :
    (c.rulesFor around customer).1.Inv sources := by
  have hinv := h.withCache around
  obtain ⟨c₁, made, r, hwith, -, -, -, hcache⟩ := c.withCache_spec around
  rw [hwith] at hinv
  unfold Classifier.rulesFor
  rw [hwith]
  rcases hcache with ⟨e, rfl, -⟩ | ⟨cache, rfl, hsome, -⟩
  · exact hinv
  · simp only
    split
    · exact hinv
    · obtain ⟨c₂, events, r, hread, hsource, hcache, hcompiler, -⟩ := c₁.readRules_spec customer
      rw [hread]
      have hinv₂ : c₂.Inv sources := hinv.transfer hsource hcompiler (.inl hcache)
      cases r with
      | error e => exact hinv₂
      | ok rules => exact hinv₂.remember (hcache.trans hsome) customer rules

lemma Inv.openSession (hordered : ∀ s ∈ sources, s.Ordered) (h : c.Inv sources)
    (around : Surroundings) (customer : String) : (c.openSession around customer).1.Inv sources := by
  have hinv := h.withCache around
  obtain ⟨c₁, made, r, hwith, -, -, -, hcache⟩ := c.withCache_spec around
  rw [hwith] at hinv
  unfold Classifier.openSession
  rw [hwith]
  rcases hcache with ⟨e, rfl, -⟩ | ⟨cache, rfl, hsome, -⟩
  · exact hinv
  · have hset := (hinv.ruleSet hordered hsome customer).1
    simp only
    split_ifs
    · exact hinv
    · obtain ⟨c₂, events, r, hrules, -⟩ := c₁.ruleSet_spec cache customer
      rw [hrules] at hset ⊢
      cases r <;> exact hset

/-! ## Classifiers in use -/

/-- Classifiers that come from new ones by their own calls and by edits of their stores, which may
leave any other store. The list has the rules of the stores on the way, the last store first. -/
inductive Reached : Classifier → List (RuleSource Rule) → Prop where
  | new (store : Store) (registry : Registry) (engine : Option Engine) :
      Reached { store := store, registry := registry, engine := engine } [store.source]
  | ofEngine (store : Store) (registry : Registry) (engine : Engine) :
      Reached (ofEngine store registry engine) [store.source]
  | edit {c : Classifier} {sources : List (RuleSource Rule)} (h : Reached c sources) (store : Store) :
      Reached { c with store := store } (store.source :: sources)
  | classify {c : Classifier} {sources : List (RuleSource Rule)} (h : Reached c sources)
      (around : Surroundings) (pool : Pool) (position : Nat) (customer : String) :
      Reached (c.classify around pool position customer).1 sources
  | classifyBatch {c : Classifier} {sources : List (RuleSource Rule)} (h : Reached c sources)
      (around : Surroundings) (pool : Pool) (batch : List Nat) (customer : String) :
      Reached (c.classifyBatch around pool batch customer).1 sources
  | rulesFor {c : Classifier} {sources : List (RuleSource Rule)} (h : Reached c sources)
      (around : Surroundings) (customer : String) :
      Reached (c.rulesFor around customer).1 sources
  | openSession {c : Classifier} {sources : List (RuleSource Rule)} (h : Reached c sources)
      (around : Surroundings) (customer : String) :
      Reached (c.openSession around customer).1 sources

lemma Reached.inv (h : Reached c sources) (hordered : ∀ s ∈ sources, s.Ordered) : c.Inv sources := by
  induction h with
  | new store registry engine =>
    exact .of_new (by simp) Compiler.sound_new fun _ hcache => nomatch hcache
  | ofEngine store registry engine =>
    exact .of_new (by simp [Classifier.ofEngine]) Compiler.sound_new fun _ hcache =>
      ⟨engine, (Option.some.inj hcache).symm⟩
  | @edit c sources _ store ih =>
    have hold := ih fun s hs => hordered s (List.mem_cons_of_mem _ hs)
    refine ⟨List.mem_cons_self, hold.sound, hold.planned, fun htyped cache hcache => ?_⟩
    have hbuilt := hold.built (fun s hs => htyped s (List.mem_cons_of_mem _ hs)) cache hcache
    refine ⟨hbuilt.engine, hbuilt.compiler, List.mem_cons_self, fun customer set hset => ?_⟩
    obtain ⟨s, hs, hfrom⟩ := hbuilt.entries customer set hset
    exact ⟨s, List.mem_cons_of_mem _ hs, hfrom⟩
  | classify _ around pool position customer ih =>
    rw [fst_classify]
    exact (ih hordered).run hordered around pool [position] customer
  | @classifyBatch c sources _ around pool batch customer ih =>
    rcases c.fst_classifyBatch around pool batch customer with heq | heq <;> rw [heq]
    · exact ih hordered
    · exact (ih hordered).run hordered around pool batch customer
  | rulesFor _ around customer ih => exact (ih hordered).rulesFor around customer
  | openSession _ around customer ih => exact (ih hordered).openSession hordered around customer

end Classifier

end TransactionRules
