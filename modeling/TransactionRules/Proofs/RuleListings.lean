import TransactionRules.Proofs.StoredRules

/-!
# The rules of a customer

A stable sort keeps the order of what it does not tell apart, so the rules of a customer, which come
from the table by ascending ids, are listed by descending priority and, where priorities are the
same, by ascending id. With it the store of categories and rules reads in every way like its book
(`Store.refines_book`).
-/

namespace TransactionRules

/-! ## Stable sorting -/

section Stable

variable {α : Type} {le : α → α → Bool} {xs : List α}

/-- Members that are all the same to the order stand as they stood. -/
lemma filter_mergeSort (trans : ∀ a b c, le a b = true → le b c = true → le a c = true)
    (total : ∀ a b, (le a b || le b a) = true) {p : α → Bool}
    (hp : ∀ a b, p a = true → p b = true → le a b = true) :
    (xs.mergeSort le).filter p = xs.filter p := by
  have hsorted : (xs.filter p).Pairwise fun a b => le a b = true :=
    List.pairwise_of_forall_mem_list fun a ha b hb =>
      hp a b (List.of_mem_filter ha) (List.of_mem_filter hb)
  have hsub : (xs.filter p).Sublist ((xs.mergeSort le).filter p) := by
    have hstable := (List.sublist_mergeSort trans total hsorted List.filter_sublist).filter p
    simpa only [List.filter_filter, Bool.and_self] using hstable
  exact (hsub.eq_of_length ((List.mergeSort_perm xs le).filter p).length_eq.symm).symm

lemma pairwise_mergeSort_stable (trans : ∀ a b c, le a b = true → le b c = true → le a c = true)
    (total : ∀ a b, (le a b || le b a) = true) {r : α → α → Prop} (hr : xs.Pairwise r) :
    (xs.mergeSort le).Pairwise fun a b => le a b = true ∧ (le b a = true → r a b) := by
  refine List.pairwise_iff_forall_sublist.2 fun {a b} hab => ?_
  have hle : le a b = true :=
    List.pairwise_iff_forall_sublist.1 (List.pairwise_mergeSort trans total xs) hab
  refine ⟨hle, fun hge => ?_⟩
  -- the members that the order does not tell apart from `a`
  let p (x : α) : Bool := le a x && le x a
  have hp : ∀ x y, p x = true → p y = true → le x y = true := fun x y hx hy =>
    trans x a y (Bool.and_eq_true_iff.1 hx).2 (Bool.and_eq_true_iff.1 hy).1
  have hself : le a a = true := by simpa using total a a
  have hclass : [a, b].filter p = [a, b] := by simp [p, hself, hle, hge]
  have hsub : [a, b].Sublist (xs.filter p) := by
    rw [← filter_mergeSort trans total hp, ← hclass]
    exact hab.filter p
  exact List.pairwise_iff_forall_sublist.1 hr (hsub.trans List.filter_sublist)

end Stable

/-! ## Listings -/

namespace RuleBook

/-- Higher priorities first, and lower ids first where priorities are the same. -/
def Precedes (a b : Int × RuleEntry) : Prop :=
  b.2.priority < a.2.priority ∨ a.2.priority = b.2.priority ∧ a.1 < b.1

end RuleBook

lemma RuleRow.before_row (a b : Int × RuleEntry) :
    RuleRow.before (a.1, a.2.row) (b.1, b.2.row) = decide (b.2.priority ≤ a.2.priority) := by
  have horder : (RuleEntry.row a.2).priority.order (RuleEntry.row b.2).priority =
      compare a.2.priority b.2.priority := by
    simp [Cell.order, RuleEntry.row, Cell.toValue, Value.quantity?, Exact.order_ofInt]
  rw [RuleRow.before, horder, Bool.eq_iff_iff, decide_eq_true_iff, bne_iff_ne, Ne, compare_lt_iff_lt,
    not_lt]

namespace Database.Agrees

variable {db : Database} {b : RuleBook}

/-- The rows are those of the entries in the book, by ascending ids. -/
lemma exists_entries (h : db.Agrees b) :
    ∃ entries : List (Int × RuleEntry), db.rules.rows = entries.map (fun x => (x.1, x.2.row)) ∧
      (∀ id e, (id, e) ∈ entries ↔ b.rules.lookup id = some e) ∧ entries.Pairwise (·.1 < ·.1) := by
  let entryOf (x : Int × RuleRow) : Option (Int × RuleEntry) :=
    (b.rules.lookup x.1).map fun e => (x.1, e)
  have hentry : ∀ x ∈ db.rules.rows, ∃ e, b.rules.lookup x.1 = some e ∧ e.row = x.2 := by
    intro x hx
    have hget := Table.get?_eq_some_iff.2 (show (x.1, x.2) ∈ db.rules.rows from hx)
    rw [h.rules] at hget
    exact Option.map_eq_some_iff.1 hget
  have hrows : db.rules.rows = (db.rules.rows.filterMap entryOf).map fun x => (x.1, x.2.row) := by
    have hsome : ∀ x ∈ db.rules.rows,
        (entryOf x).map (fun x => (x.1, x.2.row)) = some x := by
      intro x hx
      obtain ⟨e, he, hrow⟩ := hentry x hx
      simp [entryOf, he, hrow]
    rw [List.map_filterMap, List.filterMap_congr hsome, List.filterMap_some]
  refine ⟨db.rules.rows.filterMap entryOf, hrows, fun id e => ?_, ?_⟩
  · rw [List.mem_filterMap]
    constructor
    · rintro ⟨x, -, hx⟩
      obtain ⟨e', he', heq⟩ := Option.map_eq_some_iff.1 hx
      cases heq
      exact he'
    · intro he
      have hget : db.rules.get? id = some e.row := (h.rules id).trans (congrArg _ he)
      exact ⟨(id, e.row), Table.get?_eq_some_iff.1 hget, by simp [entryOf, he]⟩
  · have hordered := db.rules.ordered
    rw [hrows, List.pairwise_map] at hordered
    exact hordered

end Database.Agrees

namespace Store

variable {s : Store} {b : RuleBook}

/-- The rules of a customer are listed once each, in the order of priorities and ids. -/
lemma Agrees.rulesOf (h : s.Agrees b) (customer : String) :
    ∃ listed : List (Int × RuleEntry),
      (s.rulesOf (.text customer)).2 = .ok (listed.map fun x => b.shown x.1 x.2) ∧
        (∀ id e, (id, e) ∈ listed ↔ b.rules.lookup id = some e ∧ e.customer = customer) ∧
        listed.Pairwise RuleBook.Precedes := by
  obtain ⟨entries, hrows, hmem, hordered⟩ := h.database.exists_entries
  let own := entries.filter fun x => x.2.customer == customer
  let le (x y : Int × RuleEntry) : Bool := decide (y.2.priority ≤ x.2.priority)
  have hle_trans : ∀ x y z, le x y = true → le y z = true → le x z = true := by
    intro x y z hxy hyz
    simp only [le, decide_eq_true_eq] at *
    omega
  have hle_total : ∀ x y, (le x y || le y x) = true := by
    intro x y
    simp only [le, Bool.or_eq_true, decide_eq_true_eq]
    omega
  refine ⟨own.mergeSort le, ?_, fun id e => ?_, ?_⟩
  · have hown : s.database.rules.rows.filter
          (fun x => some x.2.customer == (Cell.text customer).asText?) =
        own.map fun x => (x.1, x.2.row) := by
      rw [hrows, List.filter_map]
      congr 1
    have hsorted : (own.map fun x => (x.1, x.2.row)).mergeSort RuleRow.before =
        (own.mergeSort le).map fun x => (x.1, x.2.row) :=
      (List.map_mergeSort fun x _ y _ => (RuleRow.before_row x y).symm).symm
    have hshown : ∀ x ∈ own.mergeSort le,
        RuleRow.toRule s.database x.1 x.2.row = b.shown x.1 x.2 := by
      intro x hx
      have hentry := List.mem_of_mem_filter (List.mem_mergeSort.1 hx)
      exact h.database.toRule ((hmem x.1 x.2).1 hentry)
    rw [Store.rulesOf, (h.read _).2, h.database.check]
    simp only [Cell.bind, Outcome.ok_bind, Outcome.pure_eq, hown, hsorted, List.map_map]
    exact congrArg Except.ok (List.map_congr_left hshown)
  · rw [List.mem_mergeSort, List.mem_filter, hmem, beq_iff_eq]
  · refine (pairwise_mergeSort_stable hle_trans hle_total (hordered.filter _)).imp ?_
    rintro x y ⟨hxy, hstable⟩
    simp only [le, decide_eq_true_eq] at hxy hstable
    rcases hxy.lt_or_eq with hlt | heq
    · exact .inl hlt
    · exact .inr ⟨heq.symm, hstable heq.ge⟩

/-- After any calls of a store that had no categories and rules, it reads like a book that had the same
calls, and gave the same answers. Ids of more than 64 bits are refused; under any other id there is what
the book has, with the stored category in a rule. Ids that are given out ascend, and a call changes
nothing under ids that are not its own. -/
theorem refines_book (path : String) (isOpen : Bool) (transactions : Table TransactionRow)
    (calls : List RuleBook.Call) :
    let s := ((blank path isOpen transactions).callAll calls).1
    let answers := ((blank path isOpen transactions).callAll calls).2
    let b := (RuleBook.callAll {} calls).1
    answers = (RuleBook.callAll {} calls).2 ∧
      (∀ id : Int, (s.rule? (.int id)).2 =
        if Cell.isWord id then .ok (b.rule? id) else .error .tooLarge) ∧
      (∀ id : Int, (s.category? (.int id)).2 =
        if Cell.isWord id then .ok (b.category? id) else .error .tooLarge) ∧
      (∀ customer : String, ∃ listed : List (Int × RuleEntry),
        (s.rulesOf (.text customer)).2 = .ok (listed.map fun x => b.shown x.1 x.2) ∧
          (∀ id e, (id, e) ∈ listed ↔ b.rules.lookup id = some e ∧ e.customer = customer) ∧
          listed.Pairwise RuleBook.Precedes) ∧
      (∀ id e, b.rules.lookup id = some e → ∀ k, e.category = some k → k ∈ b.categories) ∧
      (∃ ids : List Int, answers.flatMap RuleBook.categoryIds = ids.map Value.int ∧
        ids.Pairwise (· < ·)) ∧
      (∃ ids : List Int, answers.flatMap RuleBook.ruleIds = ids.map Value.int ∧
        ids.Pairwise (· < ·)) ∧
      (∀ (c : RuleBook.Call) (id : Int), Value.int id ∉ RuleBook.categoryIds (s.call c).2 →
        ((s.call c).1.category? (.int id)).2 = (s.category? (.int id)).2) ∧
      ∀ (c : RuleBook.Call) (id : Int), Value.int id ∉ c.ownRules (s.call c).2 →
        ((s.call c).1.rule? (.int id)).2 = (s.rule? (.int id)).2 := by
  intro s answers b
  obtain ⟨hs, hanswers⟩ := (agrees_blank path isOpen transactions).callAll calls
  obtain ⟨cs, rs, own, hmoves, hcs, hrs⟩ := RuleBook.wellKept_empty.callAll calls
  refine ⟨hanswers, fun id => (hs.rule? id).2, hs.category?, hs.rulesOf, hmoves.kept.closed,
    ⟨cs, ?_, hmoves.categoryIds.sorted⟩, ⟨rs, ?_, hmoves.ruleIds.sorted⟩, ?_, ?_⟩
  · rw [← hcs, ← hanswers]
  · rw [← hrs, ← hanswers]
  · intro c id hid
    obtain ⟨hafter, hanswer⟩ := hs.call c
    obtain ⟨cs, rs, own, hmove, hcs, -, -⟩ := hmoves.kept.call c
    rw [hanswer, hcs] at hid
    rw [hafter.category?, hs.category?, hmove.category? fun hmem => hid (List.mem_map_of_mem hmem)]
  · intro c id hid
    obtain ⟨hafter, hanswer⟩ := hs.call c
    obtain ⟨cs, rs, own, hmove, -, -, hown⟩ := hmoves.kept.call c
    rw [hanswer, hown] at hid
    rw [(hafter.rule? id).2, (hs.rule? id).2,
      hmove.rule? hmoves.kept fun hmem => hid (List.mem_map_of_mem hmem)]

/-- The bound on ids cannot be dropped: the book has nothing under an id that the store refuses. -/
theorem rule?_beyond_words :
    ¬ ∀ (calls : List RuleBook.Call) (id : Int),
      (((blank "store.db" false default).callAll calls).1.rule? (.int id)).2 =
        .ok ((RuleBook.callAll {} calls).1.rule? id) := by
  intro h
  cases h [] 9223372036854775808

end Store

end TransactionRules
