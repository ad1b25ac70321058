import TransactionRules.Proofs.Digests

/-!
# Fingerprints and the order of the rules

The rows behind a fingerprint are sorted by id, condition and priority. The category is no part of
that key, so rules that agree in all three and differ in their categories stay in the order in which
the store has them. Where there are no such rules, the fingerprint is the same for every order of
the rules; where there are, some order of the rules has a different text behind its fingerprint
(`fingerprint_order`).
-/

namespace TransactionRules.Rule

/-- A permutation of the images of some items is made of images of a permutation of the items. -/
lemma exists_perm_of_perm_map {α β : Type} {f : α → β} {xs : List α} {ys : List β}
    (h : ys.Perm (xs.map f)) : ∃ xs' : List α, xs'.Perm xs ∧ xs'.map f = ys := by
  have himages : List.Forall₂ (fun y x => f x = y) (xs.map f) xs := by
    rw [List.forall₂_map_left_iff, List.forall₂_same]
    exact fun _ _ => rfl
  obtain ⟨xs', hall, hperm⟩ := List.perm_comp_forall₂ h himages
  refine ⟨xs', hperm, ?_⟩
  have hmap : List.Forall₂ Eq (xs'.map f) ys := List.forall₂_map_left_iff.2 hall.flip
  exact List.forall₂_eq_eq_eq ▸ hmap

/-- Two rules that differ only in what the key leaves out, in both orders, have different texts. -/
lemma exists_perm_content_ne {rules : List Rule} (h : ∀ r ∈ rules, r.Typed)
    (hrules : ¬Unambiguous rules) :
    ∃ rules', rules'.Perm rules ∧ content rules' ≠ content rules := by
  unfold Unambiguous at hrules
  push Not at hrules
  obtain ⟨a, ha, b, hb, hid, hcondition, hpriority, hne⟩ := hrules
  have hkey : a.row.sortKey = b.row.sortKey :=
    (Row.sortKey_eq_iff (h a ha).row (h b hb).row).2 ⟨hid, hcondition, hpriority⟩
  have hbefore : Insertion.ComparesBy Row.before Row.sortKey (rules.map row) (rules.map row) :=
    fun x hx y hy => Row.before_eq (typed_rows h x hx) (typed_rows h y hy)
  obtain ⟨ys, zs, hys, hzs, hyz, hsorty, hsortz⟩ := Insertion.exists_perm_of_tie hbefore
    (List.mem_map_of_mem ha) (List.mem_map_of_mem hb) hkey hne
  obtain ⟨left, hleft, rfl⟩ := exists_perm_of_perm_map hys
  obtain ⟨right, hright, rfl⟩ := exists_perm_of_perm_map hzs
  have hdiffer : content left ≠ content right := by
    intro heq
    simp only [content, hsorty, hsortz, Outcome.ok_map, Except.ok.injEq] at heq
    have hrows := payload_inj (fun r hr => typed_rows h r (hys.mem_iff.1 hr))
      (fun r hr => typed_rows h r (hzs.mem_iff.1 hr)) heq
    exact hyz hrows
  -- the given order can agree with one of the two at most
  by_cases hsame : content left = content rules
  · exact ⟨right, hright, fun heq => hdiffer (hsame.trans heq.symm)⟩
  · exact ⟨left, hleft, hsame⟩

/-- Rules have a fingerprint. It is the fingerprint of every list with the same rows if rules of one
id, condition and priority have one category; if not, an order of the rules has another text behind
its fingerprint, and another fingerprint unless the two texts collide. -/
theorem fingerprint_order {rules : List Rule} (h : ∀ r ∈ rules, r.Typed) :
    ∃ digest, fingerprint rules = .ok digest ∧
      (Unambiguous rules → ∀ rules', (rules'.map row).Perm (rules.map row) →
        fingerprint rules' = .ok digest) ∧
      (¬Unambiguous rules → ∃ rules', rules'.Perm rules ∧ content rules' ≠ content rules ∧
        (DigestSeparates rules rules' → fingerprint rules' ≠ .ok digest)) := by
  obtain ⟨text, htext⟩ := exists_content h
  have hdigest : fingerprint rules = .ok (Sha256.ofText text) := by
    rw [fingerprint_eq, htext, Outcome.ok_map]
  refine ⟨Sha256.ofText text, hdigest, fun hrules rules' hperm => ?_, fun hrules => ?_⟩
  · have hcontent := content_eq_of_unambiguous h hrules hperm.symm
    rw [fingerprint_eq, ← hcontent, ← fingerprint_eq, hdigest]
  · obtain ⟨rules', hperm, hne⟩ := exists_perm_content_ne h hrules
    refine ⟨rules', hperm, hne, fun hseparates hsame => ?_⟩
    obtain ⟨text', htext'⟩ := exists_content fun r hr => h r (hperm.mem_iff.1 hr)
    rw [fingerprint_eq, htext', Outcome.ok_map, Except.ok.injEq] at hsame
    have heq := hseparates text text' htext htext' hsame.symm
    exact hne (by rw [htext, htext', heq])

/-- A rule with an id and one without have one fingerprint in both orders. -/
theorem fingerprint_order_distinct :
    (∀ r ∈ [numbered "a", unnumbered "b"], r.Typed) ∧ Unambiguous [numbered "a", unnumbered "b"] ∧
      fingerprint [unnumbered "b", numbered "a"] = fingerprint [numbered "a", unnumbered "b"] := by
  have htyped : ∀ r ∈ [numbered "a", unnumbered "b"], r.Typed := by
    simp [typed_numbered, typed_unnumbered]
  have hrules : Unambiguous [numbered "a", unnumbered "b"] :=
    unambiguous_of_nodup (by simp [numbered, unnumbered])
  obtain ⟨digest, hdigest, horder, -⟩ := fingerprint_order htyped
  have hswapped := horder hrules [unnumbered "b", numbered "a"] (List.Perm.swap _ _ _)
  exact ⟨htyped, hrules, hswapped.trans hdigest.symm⟩

/-- A rule that no store has given an id. -/
def unsaved (id : Int) (category : String) : Rule :=
  { name := .text "rule", condition := .text "true", priority := .int 0, customer := .text "c",
    category := some { name := .text category, id := .int id } }

lemma typed_unsaved (id : Int) (category : String) : (unsaved id category).Typed where
  id := .inl rfl
  condition := ⟨_, rfl⟩
  priority := ⟨0, rfl⟩
  categoryId := fun c hc => .inr ⟨id, by rw [← Option.some.inj hc]⟩
  categoryName := fun c hc => ⟨category, by rw [← Option.some.inj hc]⟩

/-- Two rules without ids that differ in their categories only have another fingerprint in the other
order. -/
theorem fingerprint_order_tie :
    (∀ r ∈ [unsaved 1 "Food", unsaved 2 "Fuel"], r.Typed) ∧
      [unsaved 2 "Fuel", unsaved 1 "Food"].Perm [unsaved 1 "Food", unsaved 2 "Fuel"] ∧
      fingerprint [unsaved 2 "Fuel", unsaved 1 "Food"] ≠
        fingerprint [unsaved 1 "Food", unsaved 2 "Fuel"] := by
  refine ⟨by simp [typed_unsaved], List.Perm.swap _ _ _, ?_⟩
  decide +kernel

end TransactionRules.Rule
