import Mathlib.Data.List.Dedup
import TransactionRules.Proofs.Fingerprint
import TransactionRules.Summary

/-!
# The figures of a summary

The counts of a summary are a tally of names: one entry for each name that a transaction is counted
under, with the number of transactions that are (`Tallies`). A transaction without a category is
counted under a marker, and so is one whose category has no name or has the marker for its name,
though both have a category. So the counts always come to all transactions, and they agree with the
numbers of classified and unclassified ones exactly where no category has such a name.
-/

namespace TransactionRules.Summary

/-- The name that a transaction is counted under. -/
def nameFor (t : Transaction) : String := (t.category.orElse (.text unclassifiedLabel)).toText

/-- The count that is given for a name, zero if none is. -/
def countOf (counts : List (Value × Nat)) (name : String) : Nat :=
  (counts.find? (·.1.equal (.text name))).elim 0 (·.2)

/-- The counts that are given for all other names together. -/
def countOfOthers (counts : List (Value × Nat)) (name : String) : Nat :=
  ((counts.filter fun entry => !entry.1.equal (.text name)).map (·.2)).sum

/-- One entry for each of the names, with the number of times that it stands there. -/
def Tallies (names : List String) (counts : List (Value × Nat)) : Prop :=
  ∃ distinct : List String, distinct.Perm names.dedup ∧
    counts = distinct.map fun name => (.text name, names.count name)

/-! ## Counting -/

section Count

variable {distinct : List String} {n : String → Nat} {name : String}

lemma count_of_notMem (h : name ∉ distinct) :
    count (.text name) (distinct.map fun other => (.text other, n other)) =
      (distinct.map fun other => (.text other, n other)) ++ [(.text name, 1)] := by
  induction distinct with
  | nil => rfl
  | cons other rest ih =>
    obtain ⟨hne, hrest⟩ := not_or.1 (mt List.mem_cons.2 h)
    simp [count, Ne.symm hne, ih hrest]

lemma count_of_mem (hdistinct : distinct.Nodup) (h : name ∈ distinct) :
    count (.text name) (distinct.map fun other => (.text other, n other)) =
      distinct.map fun other => (.text other, n other + if name = other then 1 else 0) := by
  induction distinct with
  | nil => cases h
  | cons other rest ih =>
    obtain ⟨hother, hrest⟩ := List.nodup_cons.1 hdistinct
    by_cases heq : other = name
    · subst heq
      simp only [List.map_cons, count, Value.equal_text, decide_true, if_true, List.cons.injEq, true_and]
      refine List.map_congr_left fun later hlater => ?_
      have hne : other ≠ later := fun hsame => hother (hsame ▸ hlater)
      rw [if_neg hne, Nat.add_zero]
    · have hmem := (List.mem_cons.1 h).resolve_left fun hsame => heq hsame.symm
      simp [count, heq, Ne.symm heq, ih hrest hmem]

end Count

namespace Tallies

variable {names names' : List String} {counts : List (Value × Nat)} {name : String}

lemma nil : Tallies [] [] := ⟨[], .refl _, rfl⟩

/-- One more name is one more in its entry, or a new entry. -/
lemma cons (h : Tallies names counts) (name : String) :
    Tallies (name :: names) (count (.text name) counts) := by
  obtain ⟨distinct, hperm, rfl⟩ := h
  have hnodup : distinct.Nodup := hperm.nodup_iff.2 names.nodup_dedup
  have hmem : ∀ other, other ∈ distinct ↔ other ∈ names := fun other =>
    hperm.mem_iff.trans List.mem_dedup
  by_cases hname : name ∈ names
  · refine ⟨distinct, by rwa [List.dedup_cons_of_mem hname], ?_⟩
    rw [count_of_mem hnodup ((hmem name).2 hname)]
    exact List.map_congr_left fun other _ => by simp [List.count_cons]
  · refine ⟨distinct ++ [name], ?_, ?_⟩
    · rw [List.dedup_cons_of_notMem hname]
      exact (List.perm_append_singleton name distinct).trans (hperm.cons name)
    · rw [count_of_notMem (mt (hmem name).1 hname), List.map_append]
      congr 1
      · refine List.map_congr_left fun other hother => ?_
        have hne : name ≠ other := fun hsame => hname (hsame ▸ (hmem other).1 hother)
        rw [List.count_cons_of_ne hne]
      · simp [List.count_eq_zero_of_not_mem hname]

lemma perm (h : Tallies names counts) (hperm : names.Perm names') : Tallies names' counts := by
  obtain ⟨distinct, hdistinct, rfl⟩ := h
  exact ⟨distinct, hdistinct.trans hperm.dedup,
    List.map_congr_left fun name _ => by rw [hperm.count_eq]⟩

/-- The order of the entries does not matter. -/
lemma mergeSort (h : Tallies names counts) (le : Value × Nat → Value × Nat → Bool) :
    Tallies names (counts.mergeSort le) := by
  obtain ⟨distinct, hdistinct, rfl⟩ := h
  refine ⟨distinct.mergeSort fun a b => le (.text a, names.count a) (.text b, names.count b),
    (List.mergeSort_perm _ _).trans hdistinct, ?_⟩
  exact (List.map_mergeSort (f := fun name => (Value.text name, names.count name))
    fun _ _ _ _ => rfl).symm

lemma countOf_eq (h : Tallies names counts) (name : String) :
    countOf counts name = names.count name := by
  obtain ⟨distinct, hdistinct, rfl⟩ := h
  have hfound (ns : List String) (hns : name ∈ ns ∨ names.count name = 0) :
      countOf (ns.map fun other => (.text other, names.count other)) name = names.count name := by
    induction ns with
    | nil => exact (hns.resolve_left List.not_mem_nil).symm
    | cons other rest ih =>
      by_cases heq : other = name
      · simp [countOf, heq]
      · have hrest := hns.imp_left fun hmem => (List.mem_cons.1 hmem).resolve_left (Ne.symm heq)
        simpa [countOf, heq] using ih hrest
  refine hfound distinct ?_
  by_cases hname : name ∈ names
  · exact .inl (hdistinct.mem_iff.2 (List.mem_dedup.2 hname))
  · exact .inr (List.count_eq_zero_of_not_mem hname)

lemma countOfOthers_eq (h : Tallies names counts) (name : String) :
    countOfOthers counts name = names.countP (· ≠ name) := by
  obtain ⟨distinct, hdistinct, rfl⟩ := h
  have hperm := (hdistinct.filter fun other => decide (other ≠ name)).map fun other => names.count other
  rw [countOfOthers, List.filter_map, List.map_map, ← List.sum_map_count_dedup_filter_eq_countP,
    ← hperm.sum_eq]
  simp [Function.comp_def]

lemma sum_eq (h : Tallies names counts) : (counts.map (·.2)).sum = names.length := by
  obtain ⟨distinct, hdistinct, rfl⟩ := h
  have hperm := hdistinct.map fun name => names.count name
  rw [List.map_map, ← List.sum_map_count_dedup_eq_length, ← hperm.sum_eq]
  rfl

end Tallies

/-! ## The figures -/

variable {s : Summary}

/-- Transactions with no category, or with one that has a text for its name. -/
def Named (ts : List Transaction) : Prop := ∀ t ∈ ts, t.category = .null ∨ t.category.IsText

/-- A category is masked by the marker if it has no name, or the marker for its name. -/
def isMasked (t : Transaction) : Bool :=
  t.category.equal (.text "") || t.category.equal (.text unclassifiedLabel)

lemma nameFor_eq_marker_iff {t : Transaction} (h : t.category = .null ∨ t.category.IsText) :
    nameFor t = unclassifiedLabel ↔ t.category.isNull = true ∨ isMasked t = true := by
  obtain h | ⟨name, h⟩ := h
  · simp [nameFor, h, Value.orElse, Value.truthy, Value.toText, Value.isNull]
  · by_cases hname : name = ""
    · simp [nameFor, isMasked, h, hname, Value.orElse, Value.truthy, Value.toText]
    · simp [nameFor, isMasked, h, hname, Value.orElse, Value.truthy, Value.toText, Value.isNull]

lemma not_isMasked_of_isNull {t : Transaction} (h : t.category.isNull = true) : isMasked t = false := by
  cases hcategory : t.category with
  | null => simp [isMasked, hcategory, Value.equal, Value.quantity?]
  | bool | int | float | text | list | map => simp [hcategory, Value.isNull] at h

/-- The marker counts the transactions without a category, and those that are masked. -/
lemma count_marker {ts : List Transaction} (h : Named ts) :
    (ts.map nameFor).count unclassifiedLabel =
      ts.countP (·.category.isNull) + ts.countP isMasked := by
  induction ts with
  | nil => rfl
  | cons t rest ih =>
    obtain ⟨ht, hrest⟩ := List.forall_mem_cons.1 h
    have hmarker := nameFor_eq_marker_iff ht
    rw [List.map_cons, List.count_cons, ih hrest, List.countP_cons, List.countP_cons]
    cases hnull : t.category.isNull with
    | true =>
      simp [hmarker.2 (.inl hnull), not_isMasked_of_isNull hnull]
      omega
    | false =>
      cases hmasked : isMasked t with
      | true =>
        simp [hmarker.2 (.inr hmasked)]
        omega
      | false =>
        have hne : nameFor t ≠ unclassifiedLabel := fun heq => by simpa [hnull, hmasked] using hmarker.1 heq
        simp [hne]

/-- Every transaction with a text or nothing for its category is counted. -/
lemma exists_tallies (h : Named s.transactions) :
    ∃ counts, s.byCategory = .ok counts ∧ Tallies (s.transactions.map nameFor) counts := by
  have hfold (ts : List Transaction) (hts : Named ts) (seen : List String) (start : List (Value × Nat))
      (hstart : Tallies seen start) :
      ∃ counts, ts.foldlM (fun counts t =>
        let label := t.category.orElse (.text unclassifiedLabel)
        if label.isHashable then .ok (count label counts) else .error (.notHashable label.kind))
          start = (.ok counts : Except Fault _) ∧ Tallies ((ts.map nameFor).reverse ++ seen) counts := by
    induction ts generalizing seen start with
    | nil => exact ⟨start, rfl, hstart⟩
    | cons t rest ih =>
      obtain ⟨ht, hrest⟩ := List.forall_mem_cons.1 hts
      have hlabel : t.category.orElse (.text unclassifiedLabel) = .text (nameFor t) := by
        obtain ht | ⟨name, ht⟩ := ht
        · simp [nameFor, ht, Value.orElse, Value.truthy, Value.toText]
        · by_cases hname : name = "" <;>
            simp [nameFor, ht, hname, Value.orElse, Value.truthy, Value.toText]
      simpa [hlabel, Value.isHashable] using ih hrest _ _ (hstart.cons (nameFor t))
  obtain ⟨counts, hcounts, htallies⟩ := hfold s.transactions h [] [] .nil
  refine ⟨counts.mergeSort fun a b => b.2 ≤ a.2, ?_, ?_⟩
  · unfold byCategory
    rw [hcounts]
    rfl
  · rw [List.append_nil] at htallies
    exact (htallies.perm (List.reverse_perm _)).mergeSort _

lemma unclassified_eq (s : Summary) : s.unclassified = s.transactions.countP (·.category.isNull) := by
  have hlength := List.length_eq_countP_add_countP (fun t : Transaction => t.category.isNull)
    (l := s.transactions)
  simp only [unclassified, total, classified, Bool.not_eq_true, Bool.decide_eq_false] at hlength ⊢
  omega

/-- The counts agree with the numbers of classified and of unclassified transactions. -/
def Agrees (s : Summary) (counts : List (Value × Nat)) : Prop :=
  countOf counts unclassifiedLabel = s.unclassified ∧
    countOfOthers counts unclassifiedLabel = s.classified

lemma isMasked_eq_false_iff {t : Transaction} (h : t.category = .null ∨ t.category.IsText) :
    isMasked t = false ↔ t.category ≠ .text "" ∧ t.category ≠ .text unclassifiedLabel := by
  obtain h | ⟨name, h⟩ := h
  · simp [not_isMasked_of_isNull, h, Value.isNull]
  · simp [isMasked, h]

/-- The counts come to all transactions. They agree with the other figures exactly if no category of a
transaction has the empty text or the marker for its name. -/
theorem agrees_iff (h : ∀ t ∈ s.transactions, t.category = .null ∨ t.category.IsText) :
    ∃ counts, s.byCategory = .ok counts ∧ (counts.map (·.2)).sum = s.total ∧
      (s.Agrees counts ↔ ∀ t ∈ s.transactions,
        t.category ≠ .text "" ∧ t.category ≠ .text unclassifiedLabel) := by
  obtain ⟨counts, hcounts, htallies⟩ := exists_tallies h
  have hmarker : countOf counts unclassifiedLabel =
      s.unclassified + s.transactions.countP isMasked := by
    rw [htallies.countOf_eq, count_marker h, unclassified_eq]
  have hothers : countOf counts unclassifiedLabel + countOfOthers counts unclassifiedLabel = s.total := by
    rw [htallies.countOf_eq, htallies.countOfOthers_eq, total, ← List.length_map (f := nameFor),
      List.length_eq_countP_add_countP (· == unclassifiedLabel)]
    simp [List.count]
  have hclassified : s.unclassified + s.classified = s.total := by
    have hle : s.classified ≤ s.total := List.countP_le_length
    simp only [unclassified]
    omega
  have hmasked : s.transactions.countP isMasked = 0 ↔ ∀ t ∈ s.transactions,
      t.category ≠ .text "" ∧ t.category ≠ .text unclassifiedLabel := by
    rw [List.countP_eq_zero]
    exact forall₂_congr fun t ht => by rw [← isMasked_eq_false_iff (h t ht), Bool.not_eq_true]
  refine ⟨counts, hcounts, by rw [htallies.sum_eq, List.length_map, total], ?_⟩
  rw [← hmasked, Agrees]
  omega

/-- Two transactions in one category and one without. -/
theorem agrees_iff_food :
    let food : Transaction := { category := .text "Food" }
    let s : Summary := ⟨"demo", "forward_chaining", [food, {}, food]⟩
    (∀ t ∈ s.transactions, t.category = .null ∨ t.category.IsText) ∧
      ∃ counts, s.byCategory = .ok counts ∧ s.Agrees counts := by
  intro food s
  have htyped : ∀ t ∈ s.transactions, t.category = .null ∨ t.category.IsText := by
    simp [s, food, Value.IsText]
  obtain ⟨counts, hcounts, -, hiff⟩ := agrees_iff htyped
  exact ⟨htyped, counts, hcounts, hiff.2 (by simp [s, food, unclassifiedLabel])⟩

/-- A transaction whose category has no name is classified, and counted as unclassified. -/
theorem nameless_masked :
    let s : Summary := ⟨"demo", "forward_chaining", [{ category := .text "" }]⟩
    s.byCategory = .ok [(.text unclassifiedLabel, 1)] ∧
      countOf [(.text unclassifiedLabel, 1)] unclassifiedLabel = 1 ∧ s.classified = 1 ∧
      s.unclassified = 0 := by
  refine ⟨?_, rfl, rfl, rfl⟩
  simp [byCategory, count, Value.orElse, Value.truthy, Value.isHashable]

end TransactionRules.Summary
