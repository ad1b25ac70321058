import Mathlib
import TransactionRules.Chaining.Session
import TransactionRules.Proofs.RuleOrder

/-!
# Saliences in a linear order

Numbers other than `nan` are ordered as the rational numbers and the two infinities that they stand
for, so an activation has a place in a linear order: the salience descending, then the clause, then
the handle. The agenda is kept in that order.
-/

namespace TransactionRules

namespace Exact

/-- The place of a quantity between the two infinities; `nan` has none. -/
def place : Exact → WithBot (WithTop ℚ)
  | .nan => ⊥
  | .infinite true => ⊥
  | .infinite false => ((⊤ : WithTop ℚ) : WithBot (WithTop ℚ))
  | .finite m e => (((m : ℚ) * 2 ^ e : ℚ) : WithTop ℚ)

lemma shiftLeft_scale (m e least : Int) (h : least ≤ e) :
    ((m <<< (e - least).toNat : Int) : ℚ) * 2 ^ least = (m : ℚ) * 2 ^ e := by
  have hnat : (((e - least).toNat : Nat) : Int) = e - least := Int.toNat_of_nonneg (by omega)
  rw [Int.shiftLeft_eq]
  push_cast
  rw [mul_assoc, ← zpow_natCast, hnat, ← zpow_add₀ (by norm_num), sub_add_cancel]

lemma compareScaled_eq (m e n f : Int) :
    compareScaled m e n f = Ord.compare ((m : ℚ) * 2 ^ e) ((n : ℚ) * 2 ^ f) := by
  have hpos : (0 : ℚ) < 2 ^ min e f := by positivity
  rw [← shiftLeft_scale m e (min e f) (min_le_left e f),
    ← shiftLeft_scale n f (min e f) (min_le_right e f)]
  unfold compareScaled
  simp only
  rcases lt_trichotomy (m <<< (e - min e f).toNat) (n <<< (f - min e f).toNat) with h | h | h
  · rw [compare_lt_iff_lt.2 h, eq_comm, compare_lt_iff_lt]
    exact mul_lt_mul_of_pos_right (by exact_mod_cast h) hpos
  · rw [h, compare_eq_iff_eq.2 rfl, compare_eq_iff_eq.2 rfl]
  · rw [compare_gt_iff_gt.2 h, eq_comm, compare_gt_iff_gt]
    exact mul_lt_mul_of_pos_right (by exact_mod_cast h) hpos

/-- Quantities other than `nan` are compared by their places. -/
lemma order_eq {x y : Exact} (hx : x ≠ .nan) (hy : y ≠ .nan) :
    x.order y = some (Ord.compare x.place y.place) := by
  have hcompare {a b : WithBot (WithTop ℚ)} {o : Ordering} (h : Ord.compare a b = o) :
      some o = some (Ord.compare a b) := by rw [h]
  cases x with
  | nan => exact absurd rfl hx
  | infinite s =>
    cases y with
    | nan => exact absurd rfl hy
    | infinite t =>
      cases s <;> cases t
      · exact hcompare (compare_eq_iff_eq.2 rfl)
      · exact hcompare (compare_gt_iff_gt.2 (WithBot.bot_lt_coe _))
      · exact hcompare (compare_lt_iff_lt.2 (WithBot.bot_lt_coe _))
      · exact hcompare (compare_eq_iff_eq.2 rfl)
    | finite n f =>
      cases s
      · exact hcompare (compare_gt_iff_gt.2 (WithBot.coe_lt_coe.2 (WithTop.coe_lt_top _)))
      · exact hcompare (compare_lt_iff_lt.2 (WithBot.bot_lt_coe _))
  | finite m e =>
    cases y with
    | nan => exact absurd rfl hy
    | infinite t =>
      cases t
      · exact hcompare (compare_lt_iff_lt.2 (WithBot.coe_lt_coe.2 (WithTop.coe_lt_top _)))
      · exact hcompare (compare_gt_iff_gt.2 (WithBot.bot_lt_coe _))
    | finite n f =>
      have horder : (Exact.finite m e).order (.finite n f) = some (compareScaled m e n f) := rfl
      rw [horder, compareScaled_eq]
      refine hcompare ?_
      rcases lt_trichotomy ((m : ℚ) * 2 ^ e) ((n : ℚ) * 2 ^ f) with h | h | h
      · rw [compare_lt_iff_lt.2 h, compare_lt_iff_lt]
        exact WithBot.coe_lt_coe.2 (WithTop.coe_lt_coe.2 h)
      · rw [compare_eq_iff_eq.2 h, compare_eq_iff_eq, place, place, h]
      · rw [compare_gt_iff_gt.2 h, compare_gt_iff_gt]
        exact WithBot.coe_lt_coe.2 (WithTop.coe_lt_coe.2 h)

end Exact

namespace Value

/-- A number that has a place in the order of numbers. -/
def IsNumber (v : Value) : Prop := ∃ x, v.quantity? = some x ∧ x ≠ .nan

lemma IsInt.ne_nan {v : Value} (h : v.IsInt) : v.quantity? ≠ some .nan := by
  obtain ⟨n, rfl⟩ := h
  exact fun heq => nomatch Option.some.inj heq

/-- The place of a number in the order of numbers. -/
def place (v : Value) : WithBot (WithTop ℚ) := (v.quantity?.getD .nan).place

lemma ordered_lt_of_isNumber {v w : Value} (hv : v.IsNumber) (hw : w.IsNumber) :
    ordered .lt v w = .ok (decide (v.place < w.place)) := by
  obtain ⟨x, hx, hxn⟩ := hv
  obtain ⟨y, hy, hyn⟩ := hw
  have hcompare : ordered .lt v w = .ok ((x.order y).any Comparison.lt.holds) := by
    cases v <;> cases hx <;> cases w <;> cases hy <;> rfl
  rw [hcompare, Exact.order_eq hxn hyn, place, place, hx, hy]
  simp only [Option.any_some, Option.getD_some, Comparison.holds, Except.ok.injEq]
  rw [Bool.eq_iff_iff, beq_iff_eq, compare_lt_iff_lt, decide_eq_true_eq]

lemma equal_of_isNumber {v w : Value} (hv : v.IsNumber) (hw : w.IsNumber) :
    equal v w = decide (v.place = w.place) := by
  obtain ⟨x, hx, hxn⟩ := hv
  obtain ⟨y, hy, hyn⟩ := hw
  have hcompare : equal v w = (x.order y == some .eq) := by
    cases v <;> cases hx <;> cases w <;> cases hy <;> simp only [equal, quantity?]
  rw [hcompare, Exact.order_eq hxn hyn, place, place, hx, hy]
  simp only [Option.getD_some]
  rw [Bool.eq_iff_iff, beq_iff_eq, Option.some.injEq, compare_eq_iff_eq, decide_eq_true_eq]

end Value

namespace Activation

/-- The place of an activation on an agenda. -/
def place (a : Activation) : (WithBot (WithTop ℚ))ᵒᵈ ×ₗ Nat ×ₗ Int :=
  toLex (OrderDual.toDual a.salience.place, toLex (a.order, a.handle))

lemma before_iff {a b : Activation} (ha : a.salience.IsNumber) (hb : b.salience.IsNumber) :
    a.before b = true ↔ a.place < b.place := by
  obtain ⟨x, hx, hxn⟩ := ha
  obtain ⟨y, hy, hyn⟩ := hb
  have hax : a.salience.place = x.place := by rw [Value.place, hx]; rfl
  have hby : b.salience.place = y.place := by rw [Value.place, hy]; rfl
  simp only [before, hx, hy, Exact.order_eq hyn hxn, place, Prod.Lex.toLex_lt_toLex, hax, hby,
    OrderDual.toDual_lt_toDual, OrderDual.toDual_inj]
  rcases lt_trichotomy y.place x.place with h | h | h
  · simp [compare_lt_iff_lt.2 h, h]
  · simp [h]
  · simp [compare_gt_iff_gt.2 h, h.not_gt, h.ne]

lemma place_injective {a b : Activation} (h : a.place = b.place) :
    a.order = b.order ∧ a.handle = b.handle := by
  have hrest := (Prod.mk.inj (toLex.injective h)).2
  exact Prod.mk.inj (toLex.injective hrest)

lemma perm_insert (a : Activation) (agenda : List Activation) :
    (insert a agenda).Perm (a :: agenda) := by
  induction agenda with
  | nil => rfl
  | cons b rest ih =>
    rw [insert]
    split_ifs
    · exact (ih.cons b).trans (.swap a b rest)
    · rfl

/-- An agenda stays in order when an activation is put into it. -/
lemma insert_sorted {a : Activation} {agenda : List Activation} (ha : a.salience.IsNumber)
    (hagenda : ∀ b ∈ agenda, b.salience.IsNumber) (hne : ∀ b ∈ agenda, b.place ≠ a.place)
    (h : agenda.Pairwise (place · < place ·)) : (insert a agenda).Pairwise (place · < place ·) := by
  induction agenda with
  | nil => exact List.pairwise_singleton _ _
  | cons b rest ih =>
    obtain ⟨hb, hrest⟩ := List.pairwise_cons.1 h
    rw [insert]
    split_ifs with hba
    · refine List.pairwise_cons.2 ⟨fun c hc => ?_, ih (fun c hc => hagenda c (by simp [hc]))
        (fun c hc => hne c (by simp [hc])) hrest⟩
      rcases List.mem_cons.1 ((perm_insert a rest).mem_iff.1 hc) with rfl | hc
      · exact (before_iff (hagenda b (by simp)) ha).1 hba
      · exact hb c hc
    · have hab : a.place < b.place := by
        rw [before_iff (hagenda b (by simp)) ha, not_lt] at hba
        exact lt_of_le_of_ne hba (hne b (by simp)).symm
      refine List.pairwise_cons.2 ⟨fun c hc => ?_, h⟩
      rcases List.mem_cons.1 hc with rfl | hc
      · exact hab
      · exact hab.trans (hb c hc)

end Activation

/-! ## The clauses of a program -/

/-- Clauses are numbered by their places, and their saliences are in the order of numbers. -/
structure Program.WellFormed (p : Program) : Prop where
  numbered : ∀ (i : Nat) (c : Clause), p.clauses[i]? = some c → c.order = i
  saliences : ∀ c ∈ p.clauses, c.salience.IsNumber

lemma Value.isNumber_of_negate {v w : Value} (h : v.negate = .ok w) (hv : v.quantity? ≠ some .nan) :
    v.IsNumber := by
  cases v with
  | bool b => exact ⟨_, rfl, fun hn => hv (congrArg some hn)⟩
  | int n => exact ⟨_, rfl, fun hn => hv (congrArg some hn)⟩
  | float x => exact ⟨_, rfl, fun hn => hv (congrArg some hn)⟩
  | null => cases h
  | text s => cases h
  | list items => cases h
  | map entries => cases h

/-- The clauses of a program that was made of rules are numbered by their places. -/
lemma Program.numbered_ofRules {customer : String} {rules : List CompiledRule} {p : Program}
    (h : ofRules customer rules = .ok p) :
    ∀ (i : Nat) (c : Clause), p.clauses[i]? = some c → c.order = i := by
  obtain ⟨ordered, -, h⟩ := Outcome.bind_eq_ok.1 h
  have hclauses := congrArg Program.clauses (Except.ok.inj h)
  intro i c hc
  rw [← hclauses, List.getElem?_map, List.getElem?_zipIdx] at hc
  obtain ⟨⟨r, j⟩, hr, rfl⟩ := Option.map_eq_some_iff.1 hc
  obtain ⟨r', -, hj⟩ := Option.map_eq_some_iff.1 hr
  have : i = j := by simpa using (Prod.mk.inj hj).2
  exact this.symm

/-- A program that was made of rules whose priorities are not `nan` is well formed. -/
lemma Program.wellFormed_ofRules {customer : String} {rules : List CompiledRule} {p : Program}
    (h : ofRules customer rules = .ok p) (hnan : ∀ r ∈ rules, r.priority.quantity? ≠ some .nan) :
    p.WellFormed := by
  refine ⟨numbered_ofRules h, fun c hc => ?_⟩
  obtain ⟨ordered, hordered, h⟩ := Outcome.bind_eq_ok.1 h
  obtain ⟨hperm, hnegate⟩ := CompiledRule.of_inOrder hordered
  have hclauses := congrArg Program.clauses (Except.ok.inj h)
  rw [← hclauses] at hc
  obtain ⟨⟨r, j⟩, hr, rfl⟩ := List.mem_map.1 hc
  have hmem : r ∈ rules := hperm.mem_iff.1 (List.fst_mem_of_mem_zipIdx hr)
  obtain ⟨v, hv⟩ := hnegate r hmem
  exact Value.isNumber_of_negate hv (hnan r hmem)

end TransactionRules
