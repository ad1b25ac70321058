import TransactionRules.Proofs.CacheRequests

/-!
# A cache of rule sets is invisible

A run lets a store change in any way, requests the rule sets of any customers from one cache, and
uses the compiler of the cache for other conditions in between. Every set that the cache holds was
built from the active rules of some store of the run (`CacheRun.Inv`), and it is handed out only when
the store's active rules have the fingerprint of those rules. So, unless two payloads of the run
collide, each request is answered as by a new cache over the store as it is then (`get_alike_new`).
-/

namespace TransactionRules

variable {ρ : Type}

/-- What happens between and at the requests to a cache. -/
inductive CacheStep (ρ : Type) where
  /-- The store is edited; any other store may be the outcome. -/
  | edit (next : RuleSource ρ)
  /-- A customer's set is requested. -/
  | get (customer : String)
  /-- The compiler of the cache, which others may share, is asked for a condition. -/
  | compile (text : String)

/-- A store, a cache over it, and the compiler of the cache. -/
structure CacheRun (ρ : Type) where
  source : RuleSource ρ
  cache : RuleSetCache ρ
  compiler : Compiler

namespace CacheRun

/-- A new cache over a store, with a compiler that some conditions were asked of before. -/
def new (e : Engine) (source : RuleSource ρ) (texts : List String) : CacheRun ρ :=
  ⟨source, { engine := e }, .after texts⟩

/-- The answer to a request for a customer's set. -/
def answer (s : CacheRun ρ) (customer : String) : CacheAnswer ρ :=
  s.cache.get s.compiler s.source.view customer (s.source.names customer)

def step (s : CacheRun ρ) : CacheStep ρ → CacheRun ρ
  | .edit next => { s with source := next }
  | .get customer => ⟨s.source, (s.answer customer).cache, (s.answer customer).compiler⟩
  | .compile text => { s with compiler := s.compiler.request text }

def after (s : CacheRun ρ) (steps : List (CacheStep ρ)) : CacheRun ρ := steps.foldl step s

/-- The stores that a run has seen. -/
def sources (start : RuleSource ρ) (steps : List (CacheStep ρ)) : List (RuleSource ρ) :=
  start :: steps.filterMap fun
    | .edit next => some next
    | _ => none

/-- Every entry was built from the active rules of a store of the run. -/
structure Inv (e : Engine) (stores : List (RuleSource ρ)) (s : CacheRun ρ) : Prop where
  engine : s.cache.engine = e
  compiler : s.compiler.Sound
  source : s.source ∈ stores
  entries : ∀ customer set, s.cache.peek? customer = some set →
    ∃ store ∈ stores, set.BuiltFrom e customer (store.active customer)

lemma inv_new (e : Engine) {source : RuleSource ρ} {compiler : Compiler} {stores : List (RuleSource ρ)}
    (hcompiler : compiler.Sound) (h : source ∈ stores) :
    Inv e stores ⟨source, { engine := e }, compiler⟩ where
  engine := rfl
  compiler := hcompiler
  source := h
  entries := fun _ _ hset => nomatch hset

variable {e : Engine} {stores : List (RuleSource ρ)} {s : CacheRun ρ}

lemma Inv.get (htyped : ∀ store ∈ stores, store.WellTyped) (h : s.Inv e stores) (customer : String) :
    (s.step (.get customer)).Inv e stores := by
  have hspec := RuleSetCache.get_spec (htyped _ h.source) s.cache h.compiler customer
  rcases hspec with ⟨set, _, -, -, hget⟩ | ⟨_, compiler', _, hsound, -, hget⟩ |
    ⟨set, compiler', _, hsound, hbuilt, hget⟩
  · refine ⟨?_, ?_, h.source, ?_⟩ <;> simp only [step, answer, hget]
    · exact h.engine
    · exact h.compiler
    · exact h.entries
  · refine ⟨?_, ?_, h.source, ?_⟩ <;> simp only [step, answer, hget]
    · exact h.engine
    · exact hsound
    · exact h.entries
  · rw [h.engine] at hbuilt
    refine ⟨?_, ?_, h.source, fun other set' hset' => ?_⟩ <;>
      simp only [step, answer, hget] at *
    · exact h.engine
    · exact hsound
    · by_cases hother : other = customer
      · subst hother
        rw [RuleSetCache.peek?, RuleSetCache.lookup_put_self, Option.some.injEq] at hset'
        exact ⟨s.source, h.source, hset' ▸ hbuilt⟩
      · rw [RuleSetCache.peek?, RuleSetCache.lookup_put_of_ne hother] at hset'
        exact h.entries other set' hset'

lemma Inv.step (htyped : ∀ store ∈ stores, store.WellTyped) (h : s.Inv e stores) (x : CacheStep ρ)
    (hx : ∀ next, x = .edit next → next ∈ stores) : (s.step x).Inv e stores := by
  cases x with
  | edit next => exact ⟨h.engine, h.compiler, hx next rfl, h.entries⟩
  | get customer => exact h.get htyped customer
  | compile text => exact ⟨h.engine, h.compiler.request text, h.source, h.entries⟩

lemma inv_after (e : Engine) (start : RuleSource ρ) (texts : List String) (steps : List (CacheStep ρ))
    (htyped : ∀ store ∈ sources start steps, store.WellTyped) :
    ((new e start texts).after steps).Inv e (sources start steps) := by
  have hfold (rest : List (CacheStep ρ)) (s : CacheRun ρ) (hrest : ∀ x ∈ rest, x ∈ steps)
      (hs : s.Inv e (sources start steps)) : (s.after rest).Inv e (sources start steps) := by
    induction rest generalizing s with
    | nil => exact hs
    | cons x rest ih =>
      refine ih _ (fun y hy => hrest y (by simp [hy])) (hs.step htyped x ?_)
      rintro next rfl
      have hmem : CacheStep.edit next ∈ steps := hrest _ (by simp)
      exact List.mem_cons_of_mem _ (List.mem_filterMap.2 ⟨_, hmem, rfl⟩)
  exact hfold steps _ (fun x hx => hx) (inv_new e (Compiler.sound_after texts) (by simp [sources]))

/-! ## Requests in a run -/

/-- The text of a payload of the run. -/
def contents (stores : List (RuleSource ρ)) : Set String := {text | ∃ s ∈ stores, text ∈ s.contents}

/-- A request fails with the first active rule that does not compile, and otherwise gives a set that
could have been built from the active rules of the store as it is then. -/
lemma Inv.answer_spec (htyped : ∀ store ∈ stores, store.WellTyped)
    (hdigest : Set.InjOn Sha256.ofText (contents stores)) (h : s.Inv e stores) (customer : String) :
    (∃ error, (s.answer customer).result = .error error ∧
      (s.source.active customer).mapM Rule.compiled = .error error) ∨
    ∃ set, (s.answer customer).result = .ok set ∧
      set.BuiltFrom e customer (s.source.active customer) := by
  have hspec := RuleSetCache.get_spec (htyped _ h.source) s.cache h.compiler customer
  rcases hspec with ⟨set, _, hpeek, hfingerprint, hget⟩ | ⟨error, _, _, -, hcompiled, hget⟩ |
    ⟨set, _, _, -, hbuilt, hget⟩
  · obtain ⟨store, hstore, hbuilt⟩ := h.entries customer set hpeek
    obtain ⟨text, htext⟩ := Rule.exists_content ((htyped _ h.source).active customer)
    obtain ⟨text', htext'⟩ := Rule.exists_content ((htyped _ hstore).active customer)
    have hold := hbuilt.fingerprint
    rw [Rule.fingerprint_eq, htext, Outcome.ok_map, Except.ok.injEq] at hfingerprint
    rw [Rule.fingerprint_eq, htext', Outcome.ok_map, Except.ok.injEq, ← hfingerprint] at hold
    have hsame : text' = text := hdigest ⟨store, hstore, customer, htext'⟩
      ⟨s.source, h.source, customer, htext⟩ hold
    refine .inr ⟨set, by rw [answer, hget], hbuilt.of_content_eq (htyped _ hstore) (htyped _ h.source) ?_⟩
    rw [htext, htext', hsame]
  · exact .inl ⟨error, by rw [answer, hget], hcompiled⟩
  · rw [h.engine] at hbuilt
    exact .inr ⟨set, by rw [answer, hget], hbuilt⟩

/-- A set that was handed out is the customer's entry. -/
lemma peek_of_answer (htyped : ∀ store ∈ stores, store.WellTyped) (h : s.Inv e stores)
    {customer : String} {set : RuleSet} (hset : (s.answer customer).result = .ok set) :
    (s.step (.get customer)).cache.peek? customer = some set ∧
      Rule.fingerprint (s.source.active customer) = .ok set.fingerprint := by
  have hspec := RuleSetCache.get_spec (htyped _ h.source) s.cache h.compiler customer
  rcases hspec with ⟨set', _, hpeek, hfingerprint, hget⟩ | ⟨error, _, _, -, hcompiled, hget⟩ |
    ⟨set', _, _, -, hbuilt, hget⟩
  all_goals simp only [step, answer, hget, Except.ok.injEq, reduceCtorEq] at hset ⊢
  · exact hset ▸ ⟨hpeek, hfingerprint⟩
  · exact hset ▸ ⟨RuleSetCache.lookup_put_self _ _ _, hbuilt.fingerprint⟩

/-- Every request for the customer's set among the steps is refused. -/
def Refused (s : CacheRun ρ) (customer : String) (steps : List (CacheStep ρ)) : Prop :=
  ∀ before rest, steps = before ++ .get customer :: rest →
    ∃ error, ((s.after before).answer customer).result = .error error

lemma refused_nil (s : CacheRun ρ) (customer : String) : s.Refused customer [] :=
  fun before _ hsteps => absurd hsteps.symm (by simp)

lemma refused_cons {customer : String} {x : CacheStep ρ} {steps : List (CacheStep ρ)} :
    s.Refused customer (x :: steps) ↔
      (x = .get customer → ∃ error, (s.answer customer).result = .error error) ∧
        (s.step x).Refused customer steps := by
  constructor
  · intro h
    refine ⟨?_, fun before rest hsteps => h (x :: before) rest (by rw [hsteps, List.cons_append])⟩
    rintro rfl
    exact h [] steps rfl
  · rintro ⟨hhead, htail⟩ before rest hsteps
    cases before with
    | nil => exact hhead (List.cons.inj hsteps).1
    | cons y before =>
      obtain ⟨rfl, hrest⟩ := List.cons.inj hsteps
      exact htail before rest hrest

/-- The entry of a customer stays as long as the requests of the customer are refused. -/
lemma peek_of_refused (htyped : ∀ store ∈ stores, store.WellTyped) (h : s.Inv e stores)
    {customer : String} (steps : List (CacheStep ρ))
    (hsteps : ∀ next, .edit next ∈ steps → next ∈ stores) (hrefused : s.Refused customer steps) :
    (s.after steps).cache.peek? customer = s.cache.peek? customer ∧ (s.after steps).Inv e stores := by
  induction steps generalizing s with
  | nil => exact ⟨rfl, h⟩
  | cons x steps ih =>
    have hx : ∀ next, x = .edit next → next ∈ stores := fun next hnext => hsteps next (by simp [hnext])
    obtain ⟨hpeek, hinv⟩ := ih (h.step htyped x hx) (fun next hnext => hsteps next (by simp [hnext]))
      (refused_cons.1 hrefused).2
    refine ⟨hpeek.trans ?_, hinv⟩
    cases x with
    | edit next => rfl
    | compile text => rfl
    | get other =>
      have hspec := RuleSetCache.get_spec (htyped _ h.source) s.cache h.compiler other
      rcases hspec with ⟨_, _, -, -, hget⟩ | ⟨_, _, _, -, -, hget⟩ | ⟨set, _, _, -, -, hget⟩
      · simp only [CacheRun.step, answer, hget]
        rfl
      · simp only [CacheRun.step, answer, hget]
        rfl
      · have hother : customer ≠ other := by
          rintro rfl
          obtain ⟨error, herror⟩ := (refused_cons.1 hrefused).1 rfl
          simp [answer, hget] at herror
        simp only [CacheRun.step, answer, hget]
        exact RuleSetCache.lookup_put_of_ne hother _ _

/-- The entry of a customer stays until the next request of the customer. -/
lemma peek_after (htyped : ∀ store ∈ stores, store.WellTyped) (h : s.Inv e stores) {customer : String}
    (steps : List (CacheStep ρ)) (hsteps : ∀ next, .edit next ∈ steps → next ∈ stores)
    (hnone : .get customer ∉ steps) :
    (s.after steps).cache.peek? customer = s.cache.peek? customer ∧ (s.after steps).Inv e stores :=
  peek_of_refused htyped h steps hsteps fun before rest hget => absurd (by simp [hget]) hnone

end CacheRun

/-- Two answers to a request for the set of some active rules are alike: both fail in one way, or
both are sets that classify every batch alike, the first with the rows of the rules in order. -/
inductive RuleSet.Alike (e : Engine) (active : List Rule) :
    Except RuleError RuleSet → Except RuleError RuleSet → Prop where
  | failed (error : RuleError) : Alike e active (.error error) (.error error)
  | served (set set' : RuleSet)
      (rows : (set.rules.map CompiledRule.row).Perm (active.map Rule.row))
      (order : set.rules.Pairwise CompiledRule.Precedes)
      (classify : ∀ pool batch, ∃ after, (e.apply set pool batch).map (·.1) = .ok after ∧
        (e.apply set' pool batch).map (·.1) = .ok after) :
      Alike e active (.ok set) (.ok set')

namespace CacheRun

/-- Unless two payloads of a run have one digest, every request in it is answered as by a new cache
over the store of that moment, which has the compiler of the run or another one, whatever was asked of
it before. A set that was handed out is handed out again, and nothing is built, as long as the rows of
the customer's active rules stay: edits of inactive rules, of names, of the order and of other
customers' rules do not count. -/
theorem get_alike_new (e : Engine) (start : RuleSource ρ) (texts : List String)
    (steps : List (CacheStep ρ)) (htyped : ∀ store ∈ sources start steps, store.WellTyped)
    (hdigest : Set.InjOn Sha256.ofText (contents (sources start steps))) (customer : String) :
    let s := (new e start texts).after steps
    (∀ compiler, (compiler = s.compiler ∨ ∃ texts', compiler = Compiler.after texts') →
      RuleSet.Alike e (s.source.active customer) (s.answer customer).result
        (answer ⟨s.source, { engine := e }, compiler⟩ customer).result) ∧
    ∀ set later, (s.answer customer).result = .ok set → .get customer ∉ later →
      (∀ next, .edit next ∈ later → next.WellTyped) →
      let s' := (s.step (.get customer)).after later
      ((s.source.active customer).map Rule.row).Perm ((s'.source.active customer).map Rule.row) →
      (s'.answer customer).result = .ok set ∧
        (s'.answer customer).cache.buildCount = s'.cache.buildCount := by
  intro s
  have hinv : s.Inv e (sources start steps) := inv_after e start texts steps htyped
  refine ⟨fun compiler hcompiler => ?_, fun set later hset hnone hlater => ?_⟩
  · have hsound : compiler.Sound := by
      rcases hcompiler with rfl | ⟨texts', rfl⟩
      · exact hinv.compiler
      · exact Compiler.sound_after texts'
    have hnew := inv_new e hsound hinv.source
    rcases hinv.answer_spec htyped hdigest customer with ⟨error, hresult, hcompiled⟩ |
      ⟨set, hresult, hbuilt⟩ <;>
    rcases hnew.answer_spec htyped hdigest customer with ⟨error', hresult', hcompiled'⟩ |
      ⟨set', hresult', hbuilt'⟩
    · have hsame : error = error' := Except.error.inj (hcompiled.symm.trans hcompiled')
      rw [hresult, hresult', hsame]
      exact .failed error'
    · obtain ⟨_, hok, -⟩ := hbuilt'.compiled
      exact nomatch hcompiled.symm.trans hok
    · obtain ⟨_, hok, -⟩ := hbuilt.compiled
      exact nomatch hcompiled'.symm.trans hok
    · rw [hresult, hresult']
      exact .served set set' (hbuilt.perm_rows (htyped _ hinv.source)) hbuilt.ordered
        (hbuilt.apply_eq hbuilt')
  · intro s' hrows
    -- the stores of the whole run are those before the request and those after it
    let stores := sources start steps ++ later.filterMap fun
      | .edit next => some next
      | _ => none
    have htyped' : ∀ store ∈ stores, store.WellTyped := by
      intro store hstore
      rcases List.mem_append.1 hstore with hstore | hstore
      · exact htyped store hstore
      · obtain ⟨x, hx, hnext⟩ := List.mem_filterMap.1 hstore
        cases x with
        | edit next => exact hlater store (Option.some.inj hnext ▸ hx)
        | get _ => cases hnext
        | compile _ => cases hnext
    have hinv' : s.Inv e stores :=
      ⟨hinv.engine, hinv.compiler, List.mem_append_left _ hinv.source, fun c set hset =>
        (hinv.entries c set hset).imp fun store h => ⟨List.mem_append_left _ h.1, h.2⟩⟩
    have hedits : ∀ next, .edit next ∈ later → next ∈ stores := fun next hnext =>
      List.mem_append_right _ (List.mem_filterMap.2 ⟨_, hnext, rfl⟩)
    obtain ⟨hentry, hfingerprint⟩ := peek_of_answer htyped' hinv' hset
    obtain ⟨hpeek, hafter⟩ := peek_after htyped' (hinv'.get htyped' customer) later hedits hnone
    have htypedStart := htyped' _ hinv'.source
    have hcontent := Rule.content_eq_of_perm (htypedStart.active customer)
      (htypedStart.distinct_active customer) hrows
    have hsame : Rule.fingerprint (s'.source.active customer) = .ok set.fingerprint := by
      rw [Rule.fingerprint_eq, ← hcontent, ← Rule.fingerprint_eq]
      exact hfingerprint
    have hanswer := RuleSetCache.get_of_entry (hpeek.trans hentry) hsame s'.compiler
    rw [answer, hanswer]
    exact ⟨rfl, rfl⟩

/-- A store in which every customer has one rule, with the given condition. -/
def single (condition : String) : RuleSource Unit where
  view _ :=
    { name := .text "rule", condition := .text condition, priority := .int 10, customer := .text "c",
      category := some { name := .text "Food", id := .int 3 }, id := .int 1 }
  names _ := [()]

lemma wellTyped_single (condition : String) : (single condition).WellTyped where
  typed := by
    intro _ r hr
    rw [List.mem_singleton.1 hr]
    refine ⟨.inr ⟨1, rfl⟩, ⟨condition, rfl⟩, ⟨10, rfl⟩, fun c hc => ?_, fun c hc => ?_⟩
    · rw [← Option.some.inj hc]
      exact .inr ⟨3, rfl⟩
    · rw [← Option.some.inj hc]
      exact ⟨"Food", rfl⟩
  ids := by
    intro _ r hr
    rw [List.mem_singleton.1 hr]
    exact ⟨1, rfl⟩
  distinct := fun _ => List.nodup_singleton _

lemma content_single (condition customer : String) :
    Rule.content ((single condition).active customer) =
      .ok (Rule.payload [⟨.int 1, .text condition, .int 10, .int 3, .text "Food"⟩]) := rfl

/-- The payload of a store with one rule. -/
def singlePayload (condition : String) : String :=
  Rule.payload [⟨.int 1, .text condition, .int 10, .int 3, .text "Food"⟩]

lemma injOn_single {a b : String}
    (h : Sha256.ofText (singlePayload a) = Sha256.ofText (singlePayload b) →
      singlePayload a = singlePayload b) :
    Set.InjOn Sha256.ofText (contents [single a, single b]) := by
  have htext : ∀ text ∈ contents [single a, single b], text = singlePayload a ∨ text = singlePayload b := by
    rintro text ⟨store, hstore, customer, hcontent⟩
    simp only [List.mem_cons, List.not_mem_nil, or_false] at hstore
    rcases hstore with rfl | rfl <;> rw [content_single, Except.ok.injEq] at hcontent
    · exact .inl hcontent.symm
    · exact .inr hcontent.symm
  intro x hx y hy hxy
  rcases htext x hx with rfl | rfl <;> rcases htext y hy with rfl | rfl
  · rfl
  · exact h hxy
  · exact (h hxy.symm).symm
  · rfl

lemma wellTyped_of_mem_single {a b : String} :
    ∀ store ∈ [single a, single b], store.WellTyped := by
  simp [wellTyped_single]

/-- The requests before and after an edit of a condition. -/
theorem get_alike_new_single :
    let steps : List (CacheStep Unit) := [.get "c", .edit (single "amount < 5"), .compile "true"]
    let s := (new .forwardChaining (single "amount > 5") []).after steps
    RuleSet.Alike .forwardChaining ((single "amount < 5").active "c") (s.answer "c").result
      ((new .forwardChaining (single "amount < 5") []).answer "c").result := by
  intro steps s
  have hsources : sources (single "amount > 5") steps = [single "amount > 5", single "amount < 5"] := rfl
  have htyped : ∀ store ∈ sources (single "amount > 5") steps, store.WellTyped :=
    hsources ▸ wellTyped_of_mem_single
  have hdigest : Set.InjOn Sha256.ofText (contents (sources (single "amount > 5") steps)) :=
    hsources ▸ injOn_single fun hsame => absurd hsame (by decide +kernel)
  exact (get_alike_new .forwardChaining (single "amount > 5") [] steps htyped hdigest "c").1 {}
    (.inr ⟨[], rfl⟩)

end CacheRun

end TransactionRules
