import TransactionRules.Proofs.CacheChanges
import TransactionRules.Proofs.ClassifierRuns
import TransactionRules.Proofs.RuleListings

/-!
# One sequence of rules

A store lists the rules of a customer, a cache sorts the compiled ones among them, and an engine makes
clauses or a list of those. Where ids and priorities are whole numbers the order by priorities and ids
is strict, so one arrangement only is in this order, and all of these are that one
(`CacheRun.rules_in_step`).
-/

namespace TransactionRules

/-! ## Stores under repositories -/

/-- A higher priority first, and the lower id first where priorities are the same. -/
def Rule.Row.Precedes (a b : Rule.Row) : Prop :=
  b.priority.toInt < a.priority.toInt ∨
    b.priority.toInt = a.priority.toInt ∧ a.id.toInt < b.id.toInt

namespace RuleBook

variable {b : RuleBook}

lemma typed_shown (b : RuleBook) (id : Int) (e : RuleEntry) : (b.shown id e).Typed where
  id := .inr ⟨id, rfl⟩
  condition := ⟨e.condition, rfl⟩
  priority := ⟨e.priority, rfl⟩
  categoryId := by
    intro c hc
    obtain ⟨k, -, hk⟩ := Option.bind_eq_some_iff.1 hc
    obtain ⟨row, -, rfl⟩ := Option.map_eq_some_iff.1 hk
    exact .inr ⟨k, rfl⟩
  categoryName := by
    intro c hc
    obtain ⟨k, -, hk⟩ := Option.bind_eq_some_iff.1 hc
    obtain ⟨row, -, rfl⟩ := Option.map_eq_some_iff.1 hk
    exact ⟨row.name, rfl⟩

lemma Precedes.shown {x y : Int × RuleEntry} (h : Precedes x y) :
    (b.shown x.1 x.2).row.Precedes (b.shown y.1 y.2).row := h.imp_right (And.imp_left Eq.symm)

end RuleBook

namespace Store

variable {s : Store} {b : RuleBook}

/-- The stores that repositories come to: from empty tables by calls about categories and rules, and by
whatever leaves these tables as they are. -/
inductive Managed : Store → Prop
  | blank (path : String) (isOpen : Bool) (transactions : Table TransactionRow) :
      Managed (blank path isOpen transactions)
  | call {s : Store} (c : RuleBook.Call) : Managed s → Managed (s.call c).1
  | other {s s' : Store} : Managed s → s'.defect = s.defect →
      s'.database = { s.database with transactions := s'.database.transactions } → Managed s'

lemma Managed.callAll (h : s.Managed) (calls : List RuleBook.Call) : (s.callAll calls).1.Managed := by
  induction calls generalizing s with
  | nil => exact h
  | cons c rest ih => exact ih (h.call c)

lemma Managed.exists_agrees (h : s.Managed) : ∃ b, s.Agrees b := by
  induction h with
  | blank path isOpen transactions => exact ⟨_, agrees_blank path isOpen transactions⟩
  | call c _ ih =>
    obtain ⟨b, hb⟩ := ih
    exact ⟨_, (hb.call c).1⟩
  | other _ hdefect hdatabase ih =>
    obtain ⟨b, hb⟩ := ih
    refine ⟨b, hdefect.trans hb.sound, ?_⟩
    rw [hdatabase]
    exact ⟨hb.database.created, hb.database.categories, hb.database.lastCategory,
      hb.database.rules, hb.database.lastRule, hb.database.kept⟩

namespace Agrees

/-- What a cache reads is what the store lists. -/
lemma rules_source (h : s.Agrees b) (customer : String) :
    (s.rulesOf (.text customer)).2 = .ok (s.source.rules customer) := by
  obtain ⟨listed, hlisted, -⟩ := h.rulesOf customer
  simp [RuleSource.rules, source, hlisted]

lemma exists_listed (h : s.Agrees b) (customer : String) :
    ∃ listed : List (Int × RuleEntry),
      s.source.rules customer = listed.map (fun x => b.shown x.1 x.2) ∧
        (listed.map (·.1)).Nodup ∧ listed.Pairwise RuleBook.Precedes := by
  obtain ⟨listed, hlisted, hmem, hordered⟩ := h.rulesOf customer
  refine ⟨listed, Except.ok.inj ((h.rules_source customer).symm.trans hlisted), ?_, hordered⟩
  rw [List.Nodup, List.pairwise_map]
  refine hordered.imp_of_mem fun {x y} hx hy hxy heq => ?_
  -- an id has one entry, and no entry precedes itself
  have hsame : some x.2 = some y.2 := by
    rw [← ((hmem x.1 x.2).1 hx).1, ← ((hmem y.1 y.2).1 hy).1, heq]
  rw [RuleBook.Precedes, Option.some.inj hsame] at hxy
  omega

/-- The rows of the active rules are listed in strict order. -/
lemma pairwise_active (h : s.Agrees b) (customer : String) :
    ((s.source.active customer).map Rule.row).Pairwise Rule.Row.Precedes := by
  obtain ⟨listed, hlisted, -, hordered⟩ := h.exists_listed customer
  have hall : (s.source.rules customer).Pairwise fun r r' => r.row.Precedes r'.row := by
    rw [hlisted, List.pairwise_map]
    exact hordered.imp RuleBook.Precedes.shown
  exact List.pairwise_map.2 (hall.filter _)

lemma wellTyped (h : s.Agrees b) : s.source.WellTyped where
  typed := by
    intro customer r hr
    obtain ⟨listed, hlisted, -⟩ := h.exists_listed customer
    rw [hlisted] at hr
    obtain ⟨x, -, rfl⟩ := List.mem_map.1 hr
    exact b.typed_shown x.1 x.2
  ids := by
    intro customer r hr
    obtain ⟨listed, hlisted, -⟩ := h.exists_listed customer
    rw [hlisted] at hr
    obtain ⟨x, -, rfl⟩ := List.mem_map.1 hr
    exact ⟨x.1, rfl⟩
  distinct := by
    intro customer
    obtain ⟨listed, hlisted, hdistinct, -⟩ := h.exists_listed customer
    rw [hlisted, List.map_map]
    have hids : listed.map ((·.id) ∘ fun x => b.shown x.1 x.2) =
        (listed.map (·.1)).map Value.int := by
      rw [List.map_map]
      rfl
    rw [hids]
    exact hdistinct.map fun _ _ => Value.int.inj

end Agrees

end Store

/-! ## Sets in step with a list of rules -/

/-- What an engine made of some rules has them one by one: in its clauses, each of which is numbered by
its place and has the priority of its rule as the salience, or in its list. -/
def Engine.Follows (e : Engine) (rules : List Rule) (plan : Plan) : Prop :=
  match e with
  | .forwardChaining => ∃ p, plan = .program p ∧
      p.clauses.map (fun c => (c.order, c.salience, c.rule.id)) =
        rules.zipIdx.map fun (r, i) => (i, r.priority, r.id)
  | .firstMatch => ∃ ordered, plan = .ordered ordered ∧ ordered.map (·.id) = rules.map (·.id)

/-- A set has some rules one by one, and so has what its engine made of them. -/
structure RuleSet.InStep (e : Engine) (active : List Rule) (set : RuleSet) : Prop where
  rules : set.rules.map (·.id) = active.map (·.id)
  plan : e.Follows active set.plan

namespace RuleSet.BuiltFrom

variable {ρ : Type} {e : Engine} {customer : String} {s : RuleSource ρ} {set : RuleSet}

/-- A set that was built from rules in strict order has their rows in this order. -/
lemma rows_eq (hs : s.WellTyped)
    (hordered : ((s.active customer).map Rule.row).Pairwise Rule.Row.Precedes)
    (h : set.BuiltFrom e customer (s.active customer)) :
    set.rules.map CompiledRule.row = (s.active customer).map Rule.row := by
  obtain ⟨rules, hrules, hperm⟩ := h.compiled
  rw [hs.mapM_compiled] at hrules
  have hrows := Rule.map_row_of_mapM hrules
  have hpairwise : rules.Pairwise CompiledRule.Precedes := by
    rw [← hrows, List.pairwise_map] at hordered
    exact hordered
  have hsame : set.rules.map CompiledRule.anonymous = rules :=
    CompiledRule.eq_of_perm_of_precedes hperm (List.pairwise_map.2 h.ordered) hpairwise
  rw [← hrows, ← hsame, List.map_map]
  rfl

lemma inStep (hs : s.WellTyped)
    (hordered : ((s.active customer).map Rule.row).Pairwise Rule.Row.Precedes)
    (h : set.BuiltFrom e customer (s.active customer)) : set.InStep e (s.active customer) := by
  have hrows := h.rows_eq hs hordered
  have hids : set.rules.map (·.id) = (s.active customer).map (·.id) := by
    have := congrArg (List.map Rule.Row.id) hrows
    rwa [List.map_map, List.map_map] at this
  refine ⟨hids, ?_⟩
  rw [h.plan]
  cases e with
  | forwardChaining =>
    refine ⟨_, rfl, ?_⟩
    have hclauses := congrArg (fun rows => rows.zipIdx.map fun (r, i) =>
      (i, Rule.Row.priority r, Rule.Row.id r)) hrows
    simpa [List.zipIdx_map, Function.comp_def, CompiledRule.row, Rule.row] using hclauses
  | firstMatch => exact ⟨_, rfl, hids⟩

end RuleSet.BuiltFrom

namespace CacheRun

variable {e : Engine} {stores : List (RuleSource Rule)} {s : CacheRun Rule}

/-- A set for a customer who had no entry is a new one. -/
lemma buildCount_of_no_entry (hsource : s.source.WellTyped) (hcompiler : s.compiler.Sound)
    {customer : String} (hnone : s.cache.peek? customer = none) {set : RuleSet}
    (hset : (s.answer customer).result = .ok set) :
    (s.answer customer).cache.buildCount = s.cache.buildCount + 1 := by
  have hspec := RuleSetCache.get_spec hsource s.cache hcompiler customer
  rcases hspec with ⟨_, _, hpeek, -⟩ | ⟨_, _, _, -, -, hget⟩ | ⟨_, _, _, -, -, hget⟩
  · cases hnone.symm.trans hpeek
  · rw [answer, hget] at hset
    cases hset
  · rw [answer, hget]

/-- Where repositories keep the stores of a run, a request for a customer whose active rules compile
is answered with a set that has them in the order in which the store lists them, and so has what the
engine made of it. For a set that is handed out again this takes that no two payloads of the run have
one digest. -/
theorem rules_in_step
    (hstores : ∀ source ∈ stores, ∃ store : Store, store.Managed ∧ source = store.source)
    (h : Reached e stores s) {store : Store} (hstore : s.source = store.source)
    (hmanaged : store.Managed) (customer : String) :
    ∃ rules, (store.rulesOf (.text customer)).2 = .ok rules ∧
      ((∀ r ∈ Rule.activeOf rules, r.Compilable) →
        ∃ set, (s.answer customer).result = .ok set ∧
          ((s.answer customer).cache.buildCount = s.cache.buildCount + 1 ∨
              Set.InjOn Sha256.ofText (contents stores) →
            set.InStep e (Rule.activeOf rules))) := by
  have htyped : ∀ source ∈ stores, source.WellTyped := by
    intro source hsource
    obtain ⟨other, hother, rfl⟩ := hstores source hsource
    obtain ⟨b, hb⟩ := hother.exists_agrees
    exact hb.wellTyped
  obtain ⟨b, hb⟩ := hmanaged.exists_agrees
  have hlisted : Rule.activeOf (store.source.rules customer) = s.source.active customer := by
    rw [hstore]
    rfl
  have hordered : ((s.source.active customer).map Rule.row).Pairwise Rule.Row.Precedes :=
    hstore ▸ hb.pairwise_active customer
  have hinv := h.inv htyped
  have hsource := htyped _ hinv.source
  refine ⟨store.source.rules customer, hb.rules_source customer, ?_⟩
  rw [hlisted]
  intro hcompilable
  have hspec := RuleSetCache.get_spec hsource s.cache hinv.compiler customer
  rcases hspec with ⟨set, _, -, -, hget⟩ | ⟨error, _, _, -, hcompiled, -⟩ |
    ⟨set, _, _, -, hbuilt, hget⟩
  · have hresult : (s.answer customer).result = .ok set := by rw [answer, hget]
    refine ⟨set, hresult, fun hwhen => ?_⟩
    rcases hwhen with hcount | hdigest
    · rw [answer, hget] at hcount
      exact absurd hcount (Nat.ne_of_lt (Nat.lt_succ_self _))
    · rcases hinv.answer_spec htyped hdigest customer with ⟨error, herror, -⟩ | ⟨set', hset', hbuilt⟩
      · cases herror.symm.trans hresult
      · obtain rfl := Except.ok.inj (hset'.symm.trans hresult)
        exact hbuilt.inStep hsource hordered
  · obtain ⟨before, r, rest, hactive, -, hr⟩ := Rule.exists_refused (hsource.active customer)
      (fun r hr => RuleSource.truthy_of_mem_active hr) hcompiled
    exact absurd (hcompilable r (by simp [hactive])) hr.not_compilable
  · rw [hinv.engine] at hbuilt
    exact ⟨set, by rw [answer, hget], fun _ => hbuilt.inStep hsource hordered⟩

/-- The rule of a higher priority comes before two others of one priority, which their ids tell apart. -/
theorem rules_in_step_tied :
    let category : Category := { name := .text "Food", id := .int 1 }
    let low : RuleDraft := ⟨"low", "amount > 5", 5, "c", true, some category, none, rfl⟩
    let high : RuleDraft := ⟨"high", "amount > 5", 9, "c", true, some category, none, rfl⟩
    let store := ((Store.blank "store.db" false default).callAll
      [.category ⟨"Food", ""⟩ .null, .rule low, .rule high, .rule low]).1
    ∃ rules set, (store.rulesOf (.text "c")).2 = .ok rules ∧
      ((new .forwardChaining store.source []).answer "c").result = .ok set ∧
      set.InStep .forwardChaining (Rule.activeOf rules) ∧
      (Rule.activeOf rules).map (·.id.toInt) = [2, 1, 3] := by
  intro category low high store
  have hmanaged : store.Managed := .callAll (.blank "store.db" false default) _
  have hstores : ∀ source ∈ [store.source], ∃ store : Store, store.Managed ∧ source = store.source :=
    fun source hsource => ⟨store, hmanaged, List.mem_singleton.1 hsource⟩
  have hnew : Reached .forwardChaining [store.source] (new .forwardChaining store.source []) :=
    .new [] (List.mem_singleton_self _)
  obtain ⟨rules, hrules, hserved⟩ := rules_in_step hstores hnew rfl hmanaged "c"
  have hlisted : (∀ r ∈ rules, r.category.isSome = true ∧ r.condition.toText = "amount > 5") ∧
      (Rule.activeOf rules).map (·.id.toInt) = [2, 1, 3] := by
    have hall : (store.rulesOf (.text "c")).2.toOption.all (fun rules =>
        rules.all (fun r => r.category.isSome && r.condition.toText == "amount > 5") &&
          (Rule.activeOf rules).map (·.id.toInt) == [2, 1, 3]) = true := by
      cbv
    rw [hrules, Except.toOption, Option.all_some] at hall
    simpa using hall
  have hcompilable : ∀ r ∈ Rule.activeOf rules, r.Compilable := by
    intro r hr
    obtain ⟨hcategory, hcondition⟩ := hlisted.1 r (List.mem_of_mem_filter hr)
    have htext : r.condition = .text "amount > 5" := by
      cases h : r.condition <;> simp_all [Value.toText]
    have hcompiles : (Condition.ofText "amount > 5").isOk = true := by decide +kernel
    cases hcompiled : Condition.ofText "amount > 5" with
    | ok condition => exact ⟨hcategory, _, condition, htext, hcompiled⟩
    | error e => simp [hcompiled, Except.isOk, Except.toBool] at hcompiles
  obtain ⟨set, hset, hstep⟩ := hserved hcompilable
  obtain ⟨b, hb⟩ := hmanaged.exists_agrees
  have hbuilt := buildCount_of_no_entry hb.wellTyped (Compiler.sound_after []) rfl hset
  exact ⟨rules, set, hrules, hset, hstep (.inl hbuilt), hlisted.2⟩

end CacheRun

end TransactionRules
