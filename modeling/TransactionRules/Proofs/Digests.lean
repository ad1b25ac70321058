import TransactionRules.Proofs.Compilation

/-!
# What rules of one fingerprint have in common

Unless their payloads collide, rules of one fingerprint have the same rows, each as often. Compilation
reads nothing else of active rules, so an edit that changes what they compile to changes their
fingerprint (`Rule.fingerprint_sound`).
-/

namespace TransactionRules

/-- Two outcomes of compiling rules are alike: both are failures, or both give the same compiled rules,
each as often. -/
inductive CompiledAlike :
    Except RuleError (List CompiledRule) → Except RuleError (List CompiledRule) → Prop
  | failed (e e' : RuleError) : CompiledAlike (.error e) (.error e')
  | compiled {rules rules' : List CompiledRule} (h : rules.Perm rules') :
      CompiledAlike (.ok rules) (.ok rules')

namespace Rule

/-- The digest tells the payloads of two lists of rules apart, if they are different. -/
def DigestSeparates (rules rules' : List Rule) : Prop :=
  ∀ text text', content rules = .ok text → content rules' = .ok text' →
    Sha256.ofText text = Sha256.ofText text' → text = text'

lemma compiledAlike_of_perm {rules rules' : List Rule} (h : ∀ r ∈ rules, r.Typed)
    (h' : ∀ r ∈ rules', r.Typed) (hactive : ∀ r ∈ rules, r.active.truthy = true)
    (hactive' : ∀ r ∈ rules', r.active.truthy = true) (hperm : (rules.map row).Perm (rules'.map row)) :
    CompiledAlike (rules.mapM compiled) (rules'.mapM compiled) := by
  rw [mapM_compiled_eq h hactive, mapM_compiled_eq h' hactive']
  cases hc : (rules.map row).mapM Row.compiled with
  | ok compiled =>
    obtain ⟨compiled', hc', hp⟩ := Outcome.mapM_perm hperm hc
    rw [hc']
    exact .compiled hp
  | error e =>
    cases hc' : (rules'.map row).mapM Row.compiled with
    | ok compiled' =>
      obtain ⟨_, hok, -⟩ := Outcome.mapM_perm hperm.symm hc'
      exact nomatch hc.symm.trans hok
    | error e' => exact .failed e e'

/-- Rules have a fingerprint. Where it is the same, the rows are the same, each as often, and active
rules compile alike. -/
theorem fingerprint_sound {rules rules' : List Rule} (h : ∀ r ∈ rules, r.Typed)
    (h' : ∀ r ∈ rules', r.Typed) (hdigest : DigestSeparates rules rules') :
    ∃ digest digest', fingerprint rules = .ok digest ∧ fingerprint rules' = .ok digest' ∧
      (digest = digest' → (rules.map row).Perm (rules'.map row) ∧
        ((∀ r ∈ rules, r.active.truthy = true) → (∀ r ∈ rules', r.active.truthy = true) →
          CompiledAlike (rules.mapM compiled) (rules'.mapM compiled))) := by
  obtain ⟨text, htext⟩ := exists_content h
  obtain ⟨text', htext'⟩ := exists_content h'
  refine ⟨Sha256.ofText text, Sha256.ofText text', ?_, ?_, fun hsame => ?_⟩
  · rw [fingerprint_eq, htext, Outcome.ok_map]
  · rw [fingerprint_eq, htext', Outcome.ok_map]
  · have hcontent : content rules = content rules' := by
      rw [htext, htext', hdigest text text' htext htext' hsame]
    have hperm := perm_of_content_eq h h' hcontent
    exact ⟨hperm, fun hactive hactive' => compiledAlike_of_perm h h' hactive hactive' hperm⟩

/-- A rule with an id; its name is no part of its row. -/
def numbered (name : String) : Rule :=
  { name := .text name, condition := .text "amount > 5", priority := .int 10, customer := .text "c",
    category := some { name := .text "Food", id := .int 3 }, id := .int 1 }

/-- A rule without an id and without a category. -/
def unnumbered (name : String) : Rule :=
  { name := .text name, condition := .text "merchant == \"a\"", priority := .int (-2),
    customer := .text "c" }

lemma typed_numbered (name : String) : (numbered name).Typed where
  id := .inr ⟨1, rfl⟩
  condition := ⟨_, rfl⟩
  priority := ⟨10, rfl⟩
  categoryId := fun c hc => .inr ⟨3, by rw [← Option.some.inj hc]⟩
  categoryName := fun c hc => ⟨"Food", by rw [← Option.some.inj hc]⟩

lemma typed_unnumbered (name : String) : (unnumbered name).Typed where
  id := .inl rfl
  condition := ⟨_, rfl⟩
  priority := ⟨-2, rfl⟩
  categoryId := fun _ hc => nomatch hc
  categoryName := fun _ hc => nomatch hc

/-- Two rules in both orders. -/
theorem fingerprint_sound_swapped :
    ((∀ r ∈ [numbered "a", unnumbered "b"], r.Typed) ∧
      fingerprint [numbered "a", unnumbered "b"] = fingerprint [unnumbered "c", numbered "d"]) ∧
    ([numbered "a", unnumbered "b"].map row).Perm ([unnumbered "c", numbered "d"].map row) := by
  have htyped : ∀ r ∈ [numbered "a", unnumbered "b"], r.Typed := by
    simp [typed_numbered, typed_unnumbered]
  have htyped' : ∀ r ∈ [unnumbered "c", numbered "d"], r.Typed := by
    simp [typed_numbered, typed_unnumbered]
  have hcontent : content [numbered "a", unnumbered "b"] = content [unnumbered "c", numbered "d"] := rfl
  have hdigest : DigestSeparates [numbered "a", unnumbered "b"] [unnumbered "c", numbered "d"] := by
    intro text text' htext htext' _
    rw [hcontent, htext', Except.ok.injEq] at htext
    exact htext.symm
  have hsame : fingerprint [numbered "a", unnumbered "b"] = fingerprint [unnumbered "c", numbered "d"] := by
    rw [fingerprint_eq, fingerprint_eq, hcontent]
  obtain ⟨digest, digest', hd, hd', hsound⟩ := fingerprint_sound htyped htyped' hdigest
  refine ⟨⟨htyped, hsame⟩, (hsound ?_).1⟩
  rw [hsame, hd', Except.ok.injEq] at hd
  exact hd.symm

end Rule

end TransactionRules
