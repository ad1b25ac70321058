import TransactionRules.Proofs.CacheTransparency

/-!
# What one request to a cache changes

A request hands the customer's entry out again, replaces it, or is refused, and the rows of the entry
and the customer's active rules alone decide which of the three it is (`CacheRun.Reached.get_changes`). A
refused request leaves every entry in place, so the entry is handed out again when the customer's rules
come back to its content.
-/

namespace TransactionRules

/-! ## Rules that cannot be in a set -/

namespace Rule

/-- The rule has a category, and its condition compiles. -/
structure Compilable (r : Rule) : Prop where
  category : r.category.isSome = true
  condition : ∃ text condition, r.condition = .text text ∧ Condition.ofText text = .ok condition

/-- What an active rule that does not compile is refused with. Both errors name the rule. -/
inductive RefusedWith (r : Rule) : RuleError → Prop
  | noCategory (h : r.category = none) : RefusedWith r (.noCategory r.id r.condition)
  | badCondition {text : String} {e : ConditionError} (hcategory : r.category.isSome = true)
      (hcondition : r.condition = .text text) (h : Condition.ofText text = .error e) :
      RefusedWith r (.badCondition r.id r.condition e)

lemma RefusedWith.not_compilable {r : Rule} {e : RuleError} (h : r.RefusedWith e) : ¬ r.Compilable := by
  rintro ⟨hsome, text, condition, htext, hok⟩
  cases h with
  | noCategory hnone => simp [hnone] at hsome
  | badCondition _ htext' herror =>
    rw [htext, Value.text.injEq] at htext'
    rw [← htext', hok] at herror
    cases herror

lemma compilable_of_compiled {r : Rule} (hcondition : r.condition.IsText) {c : CompiledRule}
    (h : r.compiled = .ok c) : r.Compilable := by
  obtain ⟨s, hs⟩ := hcondition
  unfold compiled at h
  rw [hs, conditionText_text] at h
  split at h
  · cases h
  · split at h
    · cases h
    · next category hcategory =>
      simp only at h
      split at h
      · cases h
      · next condition hok => exact ⟨by rw [hcategory]; rfl, s, condition, hs, hok⟩

lemma refusedWith_of_compiled {r : Rule} (hcondition : r.condition.IsText)
    (hactive : r.active.truthy = true) {e : RuleError} (h : r.compiled = .error e) :
    r.RefusedWith e := by
  obtain ⟨s, hs⟩ := hcondition
  unfold compiled at h
  simp only [hactive, Bool.not_true, Bool.false_eq_true, if_false] at h
  split at h
  · next hnone =>
    obtain rfl := Except.error.inj h
    exact .noCategory hnone
  · next category hcategory =>
    rw [hs, conditionText_text] at h
    simp only at h
    split at h
    · next e' he' =>
      obtain rfl := Except.error.inj h
      rw [← hs]
      exact .badCondition (by rw [hcategory]; rfl) hs he'
    · cases h

/-- Rules that do not all compile are refused because of the first that does not. -/
lemma exists_refused {rules : List Rule} (h : ∀ r ∈ rules, r.Typed)
    (hactive : ∀ r ∈ rules, r.active.truthy = true) {e : RuleError}
    (he : rules.mapM compiled = .error e) :
    ∃ before r rest, rules = before ++ r :: rest ∧ (∀ q ∈ before, q.Compilable) ∧ r.RefusedWith e := by
  obtain ⟨before, r, rest, hrules, hbefore, hr⟩ := Outcome.exists_of_mapM_eq_error he
  have hmem : ∀ q ∈ before, q ∈ rules := fun q hq => by simp [hrules, hq]
  have hmemr : r ∈ rules := by simp [hrules]
  refine ⟨before, r, rest, hrules, fun q hq => ?_, ?_⟩
  · obtain ⟨c, hc⟩ := hbefore q hq
    exact compilable_of_compiled (h q (hmem q hq)).condition hc
  · exact refusedWith_of_compiled (h r hmemr).condition (hactive r hmemr) hr

end Rule

namespace RuleSetCache

variable {ρ : Type}

variable {compiler : Compiler} {customer : String} {set : RuleSet}

lemma serial_of_assemble {c : RuleSetCache ρ} {fingerprint : String} {rules : List CompiledRule}
    (h : c.assemble customer fingerprint rules = .ok set) : set.serial = c.buildCount := by
  obtain ⟨ordered, -, h⟩ := Outcome.bind_eq_ok.1 h
  obtain ⟨plan, -, h⟩ := Outcome.bind_eq_ok.1 h
  rw [← Except.ok.inj h]

lemma serial_of_rebuild {c : RuleSetCache ρ} {fingerprint : String} {active : List Rule}
    (h : (c.rebuild compiler customer fingerprint active).result = .ok set) :
    set.serial = c.buildCount := by
  unfold rebuild at h
  simp only at h
  split at h
  · cases h
  · split at h
    · cases h
    · next hassemble =>
      rw [← Except.ok.inj h]
      exact serial_of_assemble hassemble

/-- A set that was built is numbered by the sets that were built before it. -/
lemma serial_of_get {c : RuleSetCache ρ} {view : ρ → Rule} {stored : List ρ}
    (hset : (c.get compiler view customer stored).result = .ok set)
    (hcount : (c.get compiler view customer stored).cache.buildCount = c.buildCount + 1) :
    set.serial = c.buildCount := by
  have hremember : (c.remember customer stored).buildCount = c.buildCount := rfl
  unfold get at hset hcount
  simp only at hset hcount
  split at hset
  · cases hset
  · next fingerprint hfingerprint =>
    rw [hfingerprint] at hcount
    simp only at hcount
    split at hset
    · next old hold =>
      rw [hold] at hcount
      split_ifs at hset with hsame
      · simp only [hsame, if_true, hremember] at hcount
        exact absurd hcount (Nat.ne_of_lt (Nat.lt_succ_self _))
      · exact (serial_of_rebuild hset).trans hremember
    · exact (serial_of_rebuild hset).trans hremember

end RuleSetCache

namespace CacheRun

variable {ρ : Type} {e : Engine} {stores : List (RuleSource ρ)} {s : CacheRun ρ}

/-! ## States of a cache -/

/-- The rules of a customer are listed: as last read, and they are read if they never were. -/
def list (s : CacheRun ρ) (customer : String) : CacheRun ρ :=
  match s.cache.snapshot? customer with
  | some _ => s
  | none => { s with cache := s.cache.remember customer (s.source.names customer) }

/-- The states that a cache comes to while the store is each of some stores. -/
inductive Reached (e : Engine) (stores : List (RuleSource ρ)) : CacheRun ρ → Prop
  | new {source : RuleSource ρ} (texts : List String) (h : source ∈ stores) :
      Reached e stores (new e source texts)
  | step {s : CacheRun ρ} (h : Reached e stores s) (x : CacheStep ρ)
      (hx : ∀ next, x = .edit next → next ∈ stores) : Reached e stores (s.step x)
  | list {s : CacheRun ρ} (h : Reached e stores s) (customer : String) : Reached e stores (s.list customer)

lemma Inv.list (h : s.Inv e stores) (customer : String) : (s.list customer).Inv e stores := by
  unfold CacheRun.list
  split
  · exact h
  · exact ⟨h.engine, h.compiler, h.source, h.entries⟩

lemma Reached.inv (htyped : ∀ store ∈ stores, store.WellTyped) (h : Reached e stores s) :
    s.Inv e stores := by
  induction h with
  | new texts h => exact inv_new e (Compiler.sound_after texts) h
  | step _ x hx ih => exact ih.step htyped x hx
  | list _ customer ih => exact ih.list customer

/-- No two entries that were built one after the other have one number. -/
lemma Reached.serial_lt (htyped : ∀ store ∈ stores, store.WellTyped) (h : Reached e stores s)
    {customer : String} {set : RuleSet} (hset : s.cache.peek? customer = some set) :
    set.serial < s.cache.buildCount := by
  induction h generalizing customer set with
  | new texts h => cases hset
  | @step s h x hx ih =>
    cases x with
    | edit next => exact ih hset
    | compile text => exact ih hset
    | get other =>
      have hinv := h.inv htyped
      have hspec := RuleSetCache.get_spec (htyped _ hinv.source) s.cache hinv.compiler other
      rcases hspec with ⟨_, _, -, -, hget⟩ | ⟨_, _, _, -, -, hget⟩ | ⟨built, _, _, -, -, hget⟩
      · simp only [CacheRun.step, answer, hget] at hset ⊢
        exact ih hset
      · simp only [CacheRun.step, answer, hget] at hset ⊢
        exact ih hset
      · have hserial : built.serial = s.cache.buildCount :=
          RuleSetCache.serial_of_get (by rw [hget]) (by rw [hget])
        simp only [CacheRun.step, answer, hget] at hset ⊢
        by_cases hother : customer = other
        · subst hother
          rw [RuleSetCache.peek?, RuleSetCache.lookup_put_self, Option.some.injEq] at hset
          rw [← hset, hserial]
          exact Nat.lt_succ_self _
        · rw [RuleSetCache.peek?, RuleSetCache.lookup_put_of_ne hother] at hset
          exact Nat.lt_succ_of_lt (ih hset)
  | @list s _ other ih =>
    have hcount : (s.list other).cache.buildCount = s.cache.buildCount := by
      unfold CacheRun.list
      split <;> rfl
    have hentries : (s.list other).cache.peek? customer = s.cache.peek? customer := by
      unfold CacheRun.list
      split <;> rfl
    rw [hcount]
    exact ih (hentries ▸ hset)

/-! ## The three ways of a request -/

/-- The set is the customer's entry, and it has the rows of the customer's active rules. -/
structure IsCurrent (s : CacheRun ρ) (customer : String) (set : RuleSet) : Prop where
  entry : s.cache.peek? customer = some set
  rows : (set.rules.map CompiledRule.row).Perm ((s.source.active customer).map Rule.row)

/-- The entry is handed out again. -/
structure Reuses (s : CacheRun ρ) (customer : String) : Prop where
  current : ∃ set, s.IsCurrent customer set ∧ (s.answer customer).result = .ok set
  entries : (s.answer customer).cache.entries = s.cache.entries
  buildCount : (s.answer customer).cache.buildCount = s.cache.buildCount
  compiler : (s.answer customer).compiler = s.compiler

/-- A new set, which is no entry yet, takes the place of the entry. -/
structure Builds (s : CacheRun ρ) (customer : String) : Prop where
  stale : ¬ ∃ set, s.IsCurrent customer set
  compilable : ∀ r ∈ s.source.active customer, r.Compilable
  built : ∃ set, (s.answer customer).result = .ok set ∧
    (s.step (.get customer)).IsCurrent customer set ∧
    ∀ other old, s.cache.peek? other = some old → old.serial ≠ set.serial
  others : ∀ other, other ≠ customer →
    (s.answer customer).cache.peek? other = s.cache.peek? other
  buildCount : (s.answer customer).cache.buildCount = s.cache.buildCount + 1

/-- The request fails because of the first active rule that does not compile. -/
structure Refuses (s : CacheRun ρ) (customer : String) : Prop where
  stale : ¬ ∃ set, s.IsCurrent customer set
  first : ∃ before r rest error, s.source.active customer = before ++ r :: rest ∧
    (∀ q ∈ before, q.Compilable) ∧ r.RefusedWith error ∧
    (s.answer customer).result = .error error
  entries : (s.answer customer).cache.entries = s.cache.entries
  buildCount : (s.answer customer).cache.buildCount = s.cache.buildCount

lemma Builds.not_refuses {customer : String} (h : s.Builds customer) : ¬ s.Refuses customer := by
  intro hrefuses
  obtain ⟨before, r, rest, error, hactive, -, hr, -⟩ := hrefuses.first
  exact hr.not_compilable (h.compilable r (by simp [hactive]))

/-- An entry with the rows of the active rules has their fingerprint. -/
lemma fingerprint_of_rows (htyped : ∀ store ∈ stores, store.WellTyped) {customer : String}
    {set : RuleSet} {source : RuleSource ρ}
    (hbuilt : ∃ store ∈ stores, set.BuiltFrom e customer (store.active customer))
    (hrows : (set.rules.map CompiledRule.row).Perm ((source.active customer).map Rule.row)) :
    Rule.fingerprint (source.active customer) = .ok set.fingerprint := by
  obtain ⟨store, hstore, hbuilt⟩ := hbuilt
  have hstoreTyped := htyped store hstore
  have hperm := (hbuilt.perm_rows hstoreTyped).symm.trans hrows
  have hcontent := Rule.content_eq_of_perm (hstoreTyped.active customer)
    (hstoreTyped.distinct_active customer) hperm
  rw [Rule.fingerprint_eq, ← hcontent, ← Rule.fingerprint_eq]
  exact hbuilt.fingerprint

/-- An entry with the rows of the active rules is handed out, and nothing is built. -/
lemma Inv.get_of_rows (htyped : ∀ store ∈ stores, store.WellTyped) (h : s.Inv e stores)
    {customer : String} {set : RuleSet} (hcurrent : s.IsCurrent customer set) :
    s.answer customer = ⟨s.cache.remember customer (s.source.names customer), s.compiler,
      [.setReused customer], .ok set⟩ :=
  RuleSetCache.get_of_entry hcurrent.entry
    (fingerprint_of_rows htyped (h.entries customer set hcurrent.entry) hcurrent.rows) s.compiler

lemma Reached.trichotomy (htyped : ∀ store ∈ stores, store.WellTyped)
    (hdigest : Set.InjOn Sha256.ofText (contents stores)) (h : Reached e stores s) (customer : String) :
    s.Reuses customer ∨ s.Builds customer ∨ s.Refuses customer := by
  have hinv := h.inv htyped
  have hsource := htyped _ hinv.source
  have hspec := RuleSetCache.get_spec hsource s.cache hinv.compiler customer
  have hstale {cache : RuleSetCache ρ} {compiler : Compiler} {events : List Event}
      {result : Except RuleError RuleSet} (hget : s.answer customer = ⟨cache, compiler, events, result⟩)
      (hnew : (∃ error, result = .error error) ∨ cache.buildCount = s.cache.buildCount + 1) :
      ¬ ∃ set, s.IsCurrent customer set := by
    rintro ⟨set, hcurrent⟩
    have hreuse := hinv.get_of_rows htyped hcurrent
    rw [hget] at hreuse
    injection hreuse with hcache _ _ hresult
    rcases hnew with ⟨error, herror⟩ | hcount
    · exact nomatch herror.symm.trans hresult
    · rw [hcache] at hcount
      exact absurd hcount (Nat.ne_of_lt (Nat.lt_succ_self _))
  rcases hspec with ⟨set, _, hpeek, -, hget⟩ | ⟨error, _, _, -, hcompiled, hget⟩ |
    ⟨set, _, _, -, hbuilt, hget⟩
  · refine .inl ⟨⟨set, ⟨hpeek, ?_⟩, by rw [answer, hget]⟩, ?_, ?_, ?_⟩
    · rcases hinv.answer_spec htyped hdigest customer with ⟨error, herror, -⟩ | ⟨set', hset', hbuilt⟩
      · simp [answer, hget] at herror
      · simp only [answer, hget, Except.ok.injEq] at hset'
        exact hset' ▸ hbuilt.perm_rows hsource
    · rw [answer, hget]
      rfl
    · rw [answer, hget]
      rfl
    · rw [answer, hget]
  · obtain ⟨before, r, rest, hactive, hbefore, hr⟩ := Rule.exists_refused (hsource.active customer)
      (fun r hr => RuleSource.truthy_of_mem_active hr) hcompiled
    refine .inr (.inr ⟨hstale hget (.inl ⟨error, rfl⟩), ⟨before, r, rest, error, hactive, hbefore, hr, ?_⟩,
      ?_, ?_⟩)
    · rw [answer, hget]
    · rw [answer, hget]
      rfl
    · rw [answer, hget]
      rfl
  · have hserial : set.serial = s.cache.buildCount :=
      RuleSetCache.serial_of_get (by rw [hget]) (by rw [hget])
    refine .inr (.inl ⟨hstale hget (.inr rfl), fun r hr => ?_, ⟨set, by rw [answer, hget], ⟨?_, ?_⟩, ?_⟩,
      fun other hother => ?_, by rw [answer, hget]⟩)
    · obtain ⟨rules, hrules, -⟩ := hbuilt.compiled
      obtain ⟨c, -, hc⟩ := Outcome.exists_of_mapM_eq_ok hrules hr
      exact Rule.compilable_of_compiled (hsource.active customer r hr).condition hc
    · simp only [CacheRun.step, answer, hget]
      exact RuleSetCache.lookup_put_self _ _ _
    · exact hbuilt.perm_rows hsource
    · intro other old hold
      have := h.serial_lt htyped hold
      omega
    · rw [answer, hget]
      exact RuleSetCache.lookup_put_of_ne hother _ _

/-- A request remembers the names that it read for the customer, and no others. -/
lemma Reached.snapshot_answer (htyped : ∀ store ∈ stores, store.WellTyped) (h : Reached e stores s)
    (customer other : String) :
    (s.answer customer).cache.snapshot? other =
      if other = customer then some (s.source.names customer) else s.cache.snapshot? other := by
  have hinv := h.inv htyped
  have hspec := RuleSetCache.get_spec (htyped _ hinv.source) s.cache hinv.compiler customer
  have hremember : (s.cache.remember customer (s.source.names customer)).snapshot? other =
      if other = customer then some (s.source.names customer) else s.cache.snapshot? other := by
    split_ifs with hother
    · subst hother
      exact RuleSetCache.lookup_put_self _ _ _
    · exact RuleSetCache.lookup_put_of_ne hother _ _
  rcases hspec with ⟨_, _, -, -, hget⟩ | ⟨_, _, _, -, -, hget⟩ | ⟨_, _, _, -, -, hget⟩
  all_goals
    rw [answer, hget]
    exact hremember

end CacheRun

end TransactionRules
