import TransactionRules.Rule.Shelf
import TransactionRules.RuleSet.Cache
import TransactionRules.Proofs.Anonymous

/-!
# Single requests to a cache of rule sets

A request reads the customer's rules from the store as it is then. Either the entry of the customer
has the fingerprint of the active rules and is the answer, or the set is built anew; a build fails
with the first rule that does not compile, and the entries stay (`RuleSetCache.get_spec`). What a set
was built from (`RuleSet.BuiltFrom`) settles its rows, their order, and what applying it does.
-/

namespace TransactionRules

/-! ## Stores as a cache reads them -/

/-- The names of every customer's rules, and the rules that they stand for. -/
structure RuleSource (ρ : Type) where
  view : ρ → Rule
  names : String → List ρ

def RuleShelf.source (s : RuleShelf) : RuleSource Nat := ⟨s.view, s.names⟩

namespace RuleSource

variable {ρ : Type}

def rules (s : RuleSource ρ) (customer : String) : List Rule := (s.names customer).map s.view

def active (s : RuleSource ρ) (customer : String) : List Rule := Rule.activeOf (s.rules customer)

/-- Every customer's rules have the declared types and are told apart by whole numbers as ids. -/
structure WellTyped (s : RuleSource ρ) : Prop where
  typed : ∀ customer, ∀ r ∈ s.rules customer, r.Typed
  ids : ∀ customer, ∀ r ∈ s.rules customer, r.id.IsInt
  distinct : ∀ customer, ((s.rules customer).map (·.id)).Nodup

/-- The texts behind the fingerprints of the customers' active rules. -/
def contents (s : RuleSource ρ) : Set String :=
  {text | ∃ customer, Rule.content (s.active customer) = .ok text}

variable {s : RuleSource ρ}

lemma mem_rules_of_mem_active {customer : String} {r : Rule} (h : r ∈ s.active customer) :
    r ∈ s.rules customer := List.mem_of_mem_filter h

lemma truthy_of_mem_active {customer : String} {r : Rule} (h : r ∈ s.active customer) :
    r.active.truthy = true := (List.mem_filter.1 h).2

lemma WellTyped.active (h : s.WellTyped) (customer : String) : ∀ r ∈ s.active customer, r.Typed :=
  fun r hr => h.typed customer r (mem_rules_of_mem_active hr)

lemma WellTyped.ids_active (h : s.WellTyped) (customer : String) :
    ∀ r ∈ s.active customer, r.id.IsInt :=
  fun r hr => h.ids customer r (mem_rules_of_mem_active hr)

lemma WellTyped.distinct_active (h : s.WellTyped) (customer : String) :
    ((s.active customer).map (·.id)).Nodup :=
  (h.distinct customer).sublist (List.filter_sublist.map _)

/-- Compilation of the active rules reads their rows only. -/
lemma WellTyped.mapM_compiled (h : s.WellTyped) (customer : String) :
    (s.active customer).mapM Rule.compiled =
      ((s.active customer).map Rule.row).mapM Rule.Row.compiled :=
  Rule.mapM_compiled_eq (h.active customer) fun _ hr => truthy_of_mem_active hr

end RuleSource

/-! ## What a set was built from -/

/-- The set is what an engine makes of some active rules. -/
structure RuleSet.BuiltFrom (e : Engine) (customer : String) (active : List Rule) (set : RuleSet) :
    Prop where
  fingerprint : Rule.fingerprint active = .ok set.fingerprint
  compiled : ∃ rules, active.mapM Rule.compiled = .ok rules ∧
    (set.rules.map CompiledRule.anonymous).Perm rules
  ordered : set.rules.Pairwise CompiledRule.Precedes
  plan : set.plan = e.planOf customer set.rules

/-- What the compiled forms of rules were compiled from. -/
lemma Rule.map_row_of_mapM {rows : List Rule.Row} {rules : List CompiledRule}
    (h : rows.mapM Rule.Row.compiled = .ok rules) : rules.map CompiledRule.row = rows := by
  have hall := Outcome.mapM_eq_ok_iff.1 h
  induction hall with
  | nil => rfl
  | cons hrow hrest ih =>
    rw [List.map_cons, Rule.Row.row_of_compiled hrow, ih (Outcome.mapM_eq_ok_iff.2 hrest)]

namespace RuleSet.BuiltFrom

variable {ρ : Type} {e : Engine} {customer : String} {s s' : RuleSource ρ} {set set' : RuleSet}

lemma perm_rows (hs : s.WellTyped) (h : set.BuiltFrom e customer (s.active customer)) :
    (set.rules.map CompiledRule.row).Perm ((s.active customer).map Rule.row) := by
  obtain ⟨rules, hrules, hperm⟩ := h.compiled
  rw [hs.mapM_compiled] at hrules
  rw [← Rule.map_row_of_mapM hrules]
  simpa [Function.comp_def] using hperm.map CompiledRule.row

/-- Two sets of one engine that were built from the same rules classify every batch alike. -/
lemma apply_eq (h : set.BuiltFrom e customer (s.active customer))
    (h' : set'.BuiltFrom e customer (s.active customer)) (pool : Pool) (batch : List Nat) :
    ∃ after, (e.apply set pool batch).map (·.1) = .ok after ∧
      (e.apply set' pool batch).map (·.1) = .ok after := by
  obtain ⟨rules, hrules, hperm⟩ := h.compiled
  obtain ⟨rules', hrules', hperm'⟩ := h'.compiled
  rw [hrules, Except.ok.injEq] at hrules'
  rw [← hrules'] at hperm'
  have hanonymous : set.rules.map CompiledRule.anonymous = set'.rules.map CompiledRule.anonymous :=
    CompiledRule.eq_of_perm_of_precedes (hperm.trans hperm'.symm)
      (List.pairwise_map.2 h.ordered) (List.pairwise_map.2 h'.ordered)
  exact Engine.apply_planOf h.plan h'.plan hanonymous pool batch

/-- A set fits the rules of another store with the same content. -/
lemma of_content_eq (hs : s.WellTyped) (hs' : s'.WellTyped)
    (hcontent : Rule.content (s.active customer) = Rule.content (s'.active customer))
    (h : set.BuiltFrom e customer (s.active customer)) :
    set.BuiltFrom e customer (s'.active customer) where
  fingerprint := by
    rw [Rule.fingerprint_eq, ← hcontent, ← Rule.fingerprint_eq]
    exact h.fingerprint
  compiled := by
    obtain ⟨rules, hrules, hperm⟩ := h.compiled
    rw [hs.mapM_compiled] at hrules
    obtain ⟨rules', hrules', hp⟩ := Outcome.mapM_perm
      (Rule.perm_of_content_eq (hs.active customer) (hs'.active customer) hcontent) hrules
    exact ⟨rules', by rw [hs'.mapM_compiled, hrules'], hperm.trans hp⟩
  ordered := h.ordered
  plan := h.plan

end RuleSet.BuiltFrom

/-! ## Single requests -/

namespace RuleSetCache

variable {ρ : Type}

lemma lookup_put_self {α : Type} (key : String) (v : α) (entries : List (String × α)) :
    (put key v entries).lookup key = some v := by
  induction entries with
  | nil => simp [put]
  | cons entry rest ih =>
    obtain ⟨k, w⟩ := entry
    rw [put]
    split_ifs with hk
    · simp [beq_iff_eq.1 hk]
    · rw [List.lookup_cons, beq_eq_false_iff_ne.2 fun h => hk (by simp [h])]
      exact ih

lemma lookup_put_of_ne {α : Type} {key other : String} (h : other ≠ key) (v : α)
    (entries : List (String × α)) : (put key v entries).lookup other = entries.lookup other := by
  induction entries with
  | nil => simp [put, h]
  | cons entry rest ih =>
    obtain ⟨k, w⟩ := entry
    rw [put]
    split_ifs with hk
    · have hne : (other == k) = false := beq_eq_false_iff_ne.2 (beq_iff_eq.1 hk ▸ h)
      rw [List.lookup_cons, List.lookup_cons, hne]
    · rw [List.lookup_cons, List.lookup_cons, ih]

/-- Rules that compile can be assembled into a set. -/
lemma exists_assemble {s : RuleSource ρ} (hs : s.WellTyped) (c : RuleSetCache ρ)
    {customer fingerprint : String} {compiled : List CompiledRule}
    (hfingerprint : Rule.fingerprint (s.active customer) = .ok fingerprint)
    (hcompiled : (s.active customer).mapM Rule.compiled = .ok (compiled.map CompiledRule.anonymous)) :
    ∃ set, c.assemble customer fingerprint compiled = .ok set ∧
      set.BuiltFrom c.engine customer (s.active customer) := by
  have hrows : compiled.map CompiledRule.row = (s.active customer).map Rule.row := by
    have := Rule.map_row_of_mapM ((hs.mapM_compiled customer).symm.trans hcompiled)
    simpa [Function.comp_def] using this
  have htyped : ∀ r ∈ compiled, r.row.Typed := fun r hr =>
    Rule.typed_rows (hs.active customer) _ (hrows ▸ List.mem_map_of_mem hr)
  have hidsEq : compiled.map (·.id) = (s.active customer).map (·.id) := by
    have := congrArg (List.map Rule.Row.id) hrows
    rwa [List.map_map, List.map_map] at this
  have hint : ∀ r ∈ compiled, r.id.IsInt := fun r hr => by
    have hmem : r.id ∈ (s.active customer).map (·.id) := hidsEq ▸ List.mem_map_of_mem hr
    obtain ⟨rule, hrule, hid⟩ := List.mem_map.1 hmem
    exact hid ▸ hs.ids_active customer rule hrule
  obtain ⟨ordered, hin, hperm, hsorted⟩ :=
    CompiledRule.exists_inOrder fun r hr => CompiledRule.ranked_of_typed (htyped r hr)
  have hordered : ordered.Pairwise CompiledRule.Precedes := by
    refine CompiledRule.pairwise_precedes (fun r hr => hint r (hperm.mem_iff.1 hr)) ?_ hsorted
    rw [(hperm.map (·.id)).nodup_iff, hidsEq]
    exact hs.distinct_active customer
  have hplan := Engine.plan_of_pairwise c.engine customer
    (fun r hr => htyped r (hperm.mem_iff.1 hr)) hordered
  refine ⟨⟨customer, fingerprint, ordered, c.engine.planOf customer ordered, c.buildCount⟩, ?_, ?_⟩
  · simp [assemble, hin, hplan]
  · exact ⟨hfingerprint, ⟨_, hcompiled, hperm.map _⟩, hordered, rfl⟩

/-- Building a set succeeds when all rules compile, and replaces the customer's entry only then. -/
lemma rebuild_spec {s : RuleSource ρ} (hs : s.WellTyped) (c : RuleSetCache ρ) {compiler : Compiler}
    (hcompiler : compiler.Sound) {customer fingerprint : String}
    (hfingerprint : Rule.fingerprint (s.active customer) = .ok fingerprint) :
    (∃ error compiler' events, compiler'.Sound ∧
      (s.active customer).mapM Rule.compiled = .error error ∧
      c.rebuild compiler customer fingerprint (s.active customer) =
        ⟨c, compiler', events, .error error⟩) ∨
    ∃ set compiler' events, compiler'.Sound ∧ set.BuiltFrom c.engine customer (s.active customer) ∧
      c.rebuild compiler customer fingerprint (s.active customer) =
        ⟨{ c with entries := put customer set c.entries, buildCount := c.buildCount + 1 }, compiler',
          events, .ok set⟩ := by
  obtain ⟨hsound, hresult⟩ := hcompiler.compileRules (s.active customer)
  unfold rebuild
  simp only
  cases h : (compiler.compileRules (s.active customer)).2.2 with
  | error error =>
    rw [h] at hresult
    exact .inl ⟨error, _, _, hsound, hresult.symm, rfl⟩
  | ok compiled =>
    rw [h] at hresult
    obtain ⟨set, hset, hbuilt⟩ := exists_assemble hs c hfingerprint hresult.symm
    simp only [hset]
    exact .inr ⟨set, _, _, hsound, hbuilt, rfl⟩

/-- An entry with the fingerprint of the active rules is the answer, and nothing is built. -/
lemma get_of_entry {s : RuleSource ρ} {c : RuleSetCache ρ} {customer : String} {set : RuleSet}
    (hpeek : c.peek? customer = some set)
    (hfingerprint : Rule.fingerprint (s.active customer) = .ok set.fingerprint) (compiler : Compiler) :
    c.get compiler s.view customer (s.names customer) =
      ⟨c.remember customer (s.names customer), compiler, [.setReused customer], .ok set⟩ := by
  have hactive : Rule.activeOf ((s.names customer).map s.view) = s.active customer := rfl
  have hpeek' : (c.remember customer (s.names customer)).peek? customer = some set := hpeek
  simp only [get, hactive, hfingerprint, hpeek', beq_self_eq_true, if_true]

/-- A request is answered with the entry of the customer when the fingerprint is right, and with a
new set otherwise. -/
lemma get_spec {s : RuleSource ρ} (hs : s.WellTyped) (c : RuleSetCache ρ) {compiler : Compiler}
    (hcompiler : compiler.Sound) (customer : String) :
    (∃ set events, c.peek? customer = some set ∧
      Rule.fingerprint (s.active customer) = .ok set.fingerprint ∧
      c.get compiler s.view customer (s.names customer) =
        ⟨c.remember customer (s.names customer), compiler, events, .ok set⟩) ∨
    (∃ error compiler' events, compiler'.Sound ∧
      (s.active customer).mapM Rule.compiled = .error error ∧
      c.get compiler s.view customer (s.names customer) =
        ⟨c.remember customer (s.names customer), compiler', events, .error error⟩) ∨
    ∃ set compiler' events, compiler'.Sound ∧ set.BuiltFrom c.engine customer (s.active customer) ∧
      c.get compiler s.view customer (s.names customer) =
        ⟨{ c.remember customer (s.names customer) with
            entries := put customer set c.entries, buildCount := c.buildCount + 1 }, compiler',
          events, .ok set⟩ := by
  obtain ⟨text, htext⟩ := Rule.exists_content (hs.active customer)
  have hfingerprint : Rule.fingerprint (s.active customer) = .ok (Sha256.ofText text) := by
    rw [Rule.fingerprint_eq, htext]
    rfl
  have hrebuild := rebuild_spec hs (c.remember customer (s.names customer)) hcompiler hfingerprint
  by_cases hentry : ∃ set, c.peek? customer = some set ∧ set.fingerprint = Sha256.ofText text
  · obtain ⟨set, hpeek, heq⟩ := hentry
    rw [← heq] at hfingerprint
    exact .inl ⟨set, _, hpeek, hfingerprint, get_of_entry hpeek hfingerprint compiler⟩
  · have hget : c.get compiler s.view customer (s.names customer) =
        (c.remember customer (s.names customer)).rebuild compiler customer (Sha256.ofText text)
          (s.active customer) := by
      have hactive : Rule.activeOf ((s.names customer).map s.view) = s.active customer := rfl
      have hremember :
          (c.remember customer (s.names customer)).peek? customer = c.peek? customer := rfl
      simp only [get, hactive, hfingerprint, hremember]
      cases hpeek : c.peek? customer with
      | none => rfl
      | some set => exact if_neg fun heq => hentry ⟨set, hpeek, beq_iff_eq.1 heq⟩
    rw [hget]
    exact .inr hrebuild

end RuleSetCache

end TransactionRules
