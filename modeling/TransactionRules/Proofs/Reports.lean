import TransactionRules.CommandLine.Report
import TransactionRules.Proofs.Labels

/-!
# Reports that can be printed

A report on transactions needs numbers for amounts and labels for texts. Where it has them the table
and the summary are printed, whatever the categories that rules have set and the ids that the store
has given.
-/

namespace TransactionRules

/-- A report has a text to write for a label, or in its place. -/
lemma Value.IsLabel.exists_text {v : Value} (h : v.IsLabel) (other : String) :
    ∃ s, v.orElse (.text other) = .text s := by
  unfold orElse
  split_ifs with holds
  · exact h holds
  · exact ⟨other, rfl⟩

/-- Whether a report can write the fields that a transaction comes with. -/
structure Transaction.Printable (t : Transaction) : Prop where
  merchant : t.merchant.IsLabel
  merchantType : t.merchantType.IsLabel
  location : t.location.IsLabel
  amount : ∃ s, Report.amount t.amount = .ok s

/-- Transactions that can be reported on, with their categories. -/
def Pool.Printable (pool : Pool) : Prop := ∀ t ∈ pool, t.Printable ∧ t.category.IsLabel

namespace Pool

lemma printable_modify {pool : Pool} (h : pool.Printable) {f : Transaction → Transaction}
    (hf : ∀ t, t.Printable ∧ t.category.IsLabel → (f t).Printable ∧ (f t).category.IsLabel)
    (i : Nat) : Printable (List.modify pool i f) := by
  intro t ht
  obtain ⟨j, hj⟩ := List.mem_iff_getElem?.1 ht
  rw [List.getElem?_modify] at hj
  obtain ⟨u, hu, rfl⟩ := Option.map_eq_some_iff.1 hj
  have hu := h u (List.mem_of_getElem? hu)
  split_ifs
  · exact hf u hu
  · exact hu

lemma printable_setCategory {pool : Pool} (h : pool.Printable) (i : Nat) {v : Value}
    (hv : v.IsLabel) : (pool.setCategory i v).Printable := by
  refine printable_modify (f := fun t => { t with category := v }) h (fun t ht => ⟨?_, hv⟩) i
  exact ⟨ht.1.merchant, ht.1.merchantType, ht.1.location, ht.1.amount⟩

lemma printable_setId {pool : Pool} (h : pool.Printable) (i : Nat) (id : Value) :
    (pool.setId i id).Printable := by
  refine printable_modify (f := fun t => { t with id := id }) h (fun t ht => ⟨?_, ht.2⟩) i
  exact ⟨ht.1.merchant, ht.1.merchantType, ht.1.location, ht.1.amount⟩

lemma Relabelled.printable {pool after : Pool} (h : pool.Relabelled after)
    (hpool : pool.Printable) : after.Printable := by
  induction h with
  | refl => exact hpool
  | set _ i hv ih => exact printable_setCategory ih i hv

end Pool

namespace Report

lemma exists_transactionRow {t : Transaction} (h : t.Printable) (hcategory : t.category.IsLabel) :
    ∃ row, transactionRow t = .ok row := by
  obtain ⟨amount, hamount⟩ := h.amount
  obtain ⟨merchant, hmerchant⟩ := h.merchant.exists_text ""
  obtain ⟨merchantType, htype⟩ := h.merchantType.exists_text ""
  obtain ⟨location, hlocation⟩ := h.location.exists_text ""
  obtain ⟨category, hcategory⟩ :=
    hcategory.exists_text s!"[yellow]{Summary.unclassifiedLabel}[/yellow]"
  simp [transactionRow, hamount, hmerchant, htype, hlocation, hcategory, Transaction.leading, cell]

theorem exists_transactions {pool : Pool} (h : pool.Printable) (title : String) :
    ∃ printed, transactions pool title = .ok printed := by
  obtain ⟨rows, hrows⟩ := Outcome.exists_mapM_eq_ok fun t ht =>
    exists_transactionRow (h t ht).1 (h t ht).2
  simp [transactions, hrows]

end Report

namespace Summary

/-- Whether all that was counted are texts. -/
def Texts (counts : List (Value × Nat)) : Prop := ∀ entry ∈ counts, ∃ s, entry.1 = .text s

lemma texts_count {counts : List (Value × Nat)} (h : Texts counts) (s : String) :
    Texts (count (.text s) counts) := by
  induction counts with
  | nil => simp [Texts, count]
  | cons entry rest ih =>
    obtain ⟨hentry, hrest⟩ := List.forall_mem_cons.1 h
    unfold count
    split_ifs
    · exact List.forall_mem_cons.2 ⟨hentry, hrest⟩
    · exact List.forall_mem_cons.2 ⟨hentry, ih hrest⟩

/-- Transactions that can be reported on are counted under texts. -/
lemma exists_byCategory {s : Summary} (h : Pool.Printable s.transactions) :
    ∃ counts, s.byCategory = .ok counts ∧ Texts counts := by
  have hfold (ts : Pool) (hts : ts.Printable) (start : List (Value × Nat)) (hstart : Texts start) :
      ∃ counts, ts.foldlM (fun counts t =>
        let label := t.category.orElse (.text unclassifiedLabel)
        if label.isHashable then .ok (count label counts) else .error (.notHashable label.kind))
          start = (.ok counts : Except Fault _) ∧ Texts counts := by
    induction ts generalizing start with
    | nil => exact ⟨start, rfl, hstart⟩
    | cons t rest ih =>
      obtain ⟨ht, hrest⟩ := List.forall_mem_cons.1 hts
      obtain ⟨label, hlabel⟩ := ht.2.exists_text unclassifiedLabel
      simpa [hlabel, Value.isHashable] using ih hrest _ (texts_count hstart label)
  obtain ⟨counts, hcounts, htexts⟩ := hfold s.transactions h [] fun entry he => nomatch he
  refine ⟨counts.mergeSort fun a b => b.2 ≤ a.2, ?_, fun entry he => ?_⟩
  · unfold byCategory
    rw [hcounts]
    rfl
  · exact htexts entry (List.mem_mergeSort.1 he)

end Summary

theorem Report.exists_summary {s : Summary} (h : Pool.Printable s.transactions) :
    ∃ printed, summary s = .ok printed := by
  obtain ⟨counts, hcounts, htexts⟩ := Summary.exists_byCategory h
  unfold summary
  rw [hcounts, Outcome.ok_mapError, Outcome.ok_bind]
  refine Outcome.exists_bind_eq_ok (Outcome.exists_mapM_eq_ok fun entry he => ?_)
    fun rows => ⟨_, rfl⟩
  obtain ⟨label, hlabel⟩ := htexts entry he
  simp [hlabel, cell]

end TransactionRules
