import TransactionRules.RuleSet.Compiler
import TransactionRules.Proofs.Fingerprint

/-!
# Compiling without and with a past

A compiler that has been used before gives every condition the meaning that a new one gives it: what
it keeps under a normal form is the condition of that normal form (`Compiler.Sound`). So the outcome
of compiling rules, up to the numbers of their predicates, is a function of the rules alone, and of
active rules it is a function of their rows.
-/

namespace TransactionRules

namespace CompiledRule

/-- A compiled rule without what classification does not read: its name, and the number of its
predicate. -/
def anonymous (r : CompiledRule) : CompiledRule :=
  { r with name := .null, predicate := ⟨0, r.predicate.condition⟩ }

/-- What the rule was compiled from, apart from its name. -/
def row (r : CompiledRule) : Rule.Row where
  id := r.id
  condition := r.expression
  priority := r.priority
  categoryId := r.categoryId
  categoryName := r.categoryName

@[simp] lemma anonymous_anonymous (r : CompiledRule) : r.anonymous.anonymous = r.anonymous := rfl

@[simp] lemma row_anonymous (r : CompiledRule) : r.anonymous.row = r.row := rfl

@[simp] lemma id_anonymous (r : CompiledRule) : r.anonymous.id = r.id := rfl

@[simp] lemma priority_anonymous (r : CompiledRule) : r.anonymous.priority = r.priority := rfl

@[simp] lemma categoryName_anonymous (r : CompiledRule) :
    r.anonymous.categoryName = r.categoryName := rfl

@[simp] lemma holds_anonymous (r : CompiledRule) (t : Transaction) :
    r.anonymous.holds t = r.holds t := rfl

end CompiledRule

/-! ## Single conditions -/

namespace Compiler

/-- Every predicate is the one of the normal form that it is kept under. -/
def Sound (c : Compiler) : Prop := ∀ entry ∈ c.entries, Condition.ofNormal entry.1 = .ok entry.2

lemma sound_new : ({} : Compiler).Sound := by
  intro entry h
  cases h

/-- The predicate is the one on file for the normal form. -/
def Files (c : Compiler) (normal : String) (p : Predicate) : Prop :=
  c.entries[p.number]? = some (normal, p.condition)

lemma lookup?_eq_some {c : Compiler} {normal : String} {p : Predicate}
    (h : c.lookup? normal = some p) : c.Files normal p := by
  unfold lookup? at h
  split at h
  · cases h
  · next i hi =>
    obtain ⟨hlt, hkey, -⟩ := List.findIdx?_eq_some_iff_getElem.1 hi
    rw [List.getElem?_eq_getElem hlt, Option.map_some, Option.some.injEq] at h
    subst h
    unfold Files
    rw [List.getElem?_eq_getElem hlt, ← beq_iff_eq.1 hkey]

lemma Sound.ofNormal_of_lookup? {c : Compiler} (h : c.Sound) {normal : String} {p : Predicate}
    (hp : c.lookup? normal = some p) : Condition.ofNormal normal = .ok p.condition :=
  h _ (List.mem_of_getElem? (lookup?_eq_some hp))

lemma Sound.add {c : Compiler} (h : c.Sound) {normal : String} {condition : Condition} (count : Nat)
    (hcondition : Condition.ofNormal normal = .ok condition) :
    Sound ⟨c.entries ++ [(normal, condition)], count⟩ := by
  intro entry hentry
  rcases List.mem_append.1 hentry with hentry | hentry
  · exact h entry hentry
  · rw [List.mem_singleton.1 hentry]
    exact hcondition

/-- A text that is no condition is refused, whatever was compiled before. -/
lemma Sound.compile_of_error {c : Compiler} (h : c.Sound) {text : String} {e : ConditionError}
    (he : Condition.ofText text = .error e) : c.compile text = .error e := by
  unfold Condition.ofText at he
  unfold compile
  cases hn : normalForm text with
  | error e' => simpa [hn] using he
  | ok normal =>
    simp only [hn] at he ⊢
    cases hl : c.lookup? normal with
    | some p =>
      rw [h.ofNormal_of_lookup? hl] at he
      cases he
    | none => simp [he]

/-- A text that is a condition gets a predicate of that condition, whatever was compiled before. -/
lemma Sound.compile_of_ok {c : Compiler} (h : c.Sound) {text : String} {condition : Condition}
    (hc : Condition.ofText text = .ok condition) :
    ∃ c' p events, c.compile text = .ok (c', p, events) ∧ p.condition = condition ∧ c'.Sound := by
  unfold Condition.ofText at hc
  unfold compile
  cases hn : normalForm text with
  | error e => simp [hn] at hc
  | ok normal =>
    simp only [hn] at hc ⊢
    cases hl : c.lookup? normal with
    | some p =>
      have hp := h.ofNormal_of_lookup? hl
      rw [hc] at hp
      exact ⟨c, p, [], rfl, (Except.ok.inj hp).symm, h⟩
    | none =>
      simp only [hc, Outcome.ok_bind, Outcome.pure_eq]
      exact ⟨_, _, _, rfl, rfl, h.add _ hc⟩

/-- The compiler after a request for a condition. -/
def request (c : Compiler) (text : String) : Compiler :=
  match c.compile text with
  | .ok (c', _, _) => c'
  | .error _ => c

/-- A compiler that some conditions were asked of. -/
def after (texts : List String) : Compiler := texts.foldl request {}

lemma Sound.request {c : Compiler} (h : c.Sound) (text : String) : (c.request text).Sound := by
  unfold Compiler.request
  cases he : Condition.ofText text with
  | error e => rwa [h.compile_of_error he]
  | ok condition =>
    obtain ⟨c', p, events, hc, -, hs⟩ := h.compile_of_ok he
    rwa [hc]

lemma sound_after (texts : List String) : (after texts).Sound := by
  have hfold : ∀ c : Compiler, c.Sound → (texts.foldl Compiler.request c).Sound := by
    induction texts with
    | nil => exact fun c h => h
    | cons text texts ih => exact fun c h => ih _ (h.request text)
  exact hfold _ sound_new

end Compiler

/-! ## Rules -/

namespace Rule

/-- What compiling a rule gives, without its name and the number of its predicate. -/
def compiled (r : Rule) : Except RuleError CompiledRule :=
  if !r.active.truthy then .error (.inactive r.id)
  else match r.category with
    | none => .error (.noCategory r.id r.condition)
    | some category =>
      match conditionText r.condition with
      | .error f => .error (.fault f)
      | .ok text =>
        match Condition.ofText text with
        | .error e => .error (.badCondition r.id r.condition e)
        | .ok condition =>
          .ok ⟨r.id, .null, r.priority, r.condition, category.id, category.name, ⟨0, condition⟩⟩

/-- The same, of the row of an active rule. -/
def Row.compiled (r : Row) : Except RuleError CompiledRule :=
  if r.categoryName.isNull then .error (.noCategory r.id r.condition)
  else match conditionText r.condition with
    | .error f => .error (.fault f)
    | .ok text =>
      match Condition.ofText text with
      | .error e => .error (.badCondition r.id r.condition e)
      | .ok condition =>
        .ok ⟨r.id, .null, r.priority, r.condition, r.categoryId, r.categoryName, ⟨0, condition⟩⟩

lemma conditionText_text (s : String) : conditionText (.text s) = .ok s := by
  by_cases hs : s = ""
  · rw [hs]
    rfl
  · simp [conditionText, Value.orElse, Value.truthy, hs]

lemma Row.row_of_compiled {r : Row} {c : CompiledRule} (h : r.compiled = .ok c) : c.row = r := by
  unfold Row.compiled at h
  split at h
  · cases h
  · split at h
    · cases h
    · split at h
      · cases h
      · cases h
        rfl

/-- Compilation reads nothing of an active rule but its row. -/
lemma compiled_eq {r : Rule} (h : r.Typed) (hactive : r.active.truthy = true) :
    r.compiled = r.row.compiled := by
  cases hc : r.category with
  | none => simp [compiled, Row.compiled, row, hc, hactive, Value.isNull]
  | some c =>
    obtain ⟨s, hs⟩ := h.categoryName c hc
    simp [compiled, Row.compiled, row, hc, hactive, hs, Value.isNull]

lemma mapM_compiled_eq {rules : List Rule} (h : ∀ r ∈ rules, r.Typed)
    (hactive : ∀ r ∈ rules, r.active.truthy = true) :
    rules.mapM compiled = (rules.map row).mapM Row.compiled := by
  rw [List.mapM_map]
  exact Outcome.mapM_congr fun r hr => compiled_eq (h r hr) (hactive r hr)

end Rule

namespace Compiler

lemma Sound.compileRule_of_error {c : Compiler} (h : c.Sound) {r : Rule} {e : RuleError}
    (he : r.compiled = .error e) : c.compileRule r = .error e := by
  unfold Rule.compiled at he
  unfold compileRule
  split_ifs at he ⊢ with hactive
  · simpa using he
  · cases hcat : r.category with
    | none => simpa [hcat] using he
    | some category =>
      simp only [hcat] at he
      split at he
      · next f hf => simpa [hf] using he
      · next text htext =>
        split at he
        · next e' he' => simpa [htext, h.compile_of_error he'] using he
        · cases he

lemma Sound.compileRule_of_ok {c : Compiler} (h : c.Sound) {r : Rule} {compiled : CompiledRule}
    (hr : r.compiled = .ok compiled) :
    ∃ c' compiled' events, c.compileRule r = .ok (c', compiled', events) ∧
      compiled'.anonymous = compiled ∧ c'.Sound := by
  unfold Rule.compiled at hr
  unfold compileRule
  split_ifs at hr ⊢ with hactive
  cases hcat : r.category with
  | none => simp [hcat] at hr
  | some category =>
    cases htext : conditionText r.condition with
    | error f => simp [hcat, htext] at hr
    | ok text =>
      cases hcondition : Condition.ofText text with
      | error e => simp [hcat, htext, hcondition] at hr
      | ok condition =>
        simp only [hcat, htext, hcondition] at hr
        obtain ⟨c', p, events, hc, hp, hs⟩ := h.compile_of_ok hcondition
        simp only [hc]
        refine ⟨c', _, events, rfl, ?_, hs⟩
        rw [← Except.ok.inj hr, ← hp]
        rfl

/-- Rules compile to what each of them compiles to by itself, up to the first that does not. -/
lemma Sound.compileRules {c : Compiler} (h : c.Sound) (rules : List Rule) :
    (c.compileRules rules).1.Sound ∧
      (c.compileRules rules).2.2.map (·.map CompiledRule.anonymous) =
        rules.mapM Rule.compiled := by
  induction rules generalizing c with
  | nil => exact ⟨h, rfl⟩
  | cons r rest ih =>
    rw [List.mapM_cons]
    cases hr : r.compiled with
    | error e =>
      simp only [Compiler.compileRules, h.compileRule_of_error hr]
      exact ⟨h, rfl⟩
    | ok compiled =>
      obtain ⟨c', compiled', events, hc, rfl, hs⟩ := h.compileRule_of_ok hr
      obtain ⟨hsound, hrest⟩ := ih hs
      simp only [Compiler.compileRules, hc]
      refine ⟨hsound, ?_⟩
      rw [← hrest]
      cases (c'.compileRules rest).2.2 <;> rfl

end Compiler

end TransactionRules
