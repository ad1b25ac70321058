import TransactionRules.RuleSet.Order
import TransactionRules.Proofs.Compilation

/-!
# The order of compiled rules

With whole numbers as priorities and ids, rules have an order by descending priority and ascending
id, which is strict when the ids are distinct. Sorting then gives one and the same list for every
arrangement of the rules, and leaves a list in this order as it is.
-/

namespace TransactionRules.CompiledRule

/-- A higher priority, or the same priority and a lower id. -/
def Precedes (a b : CompiledRule) : Prop :=
  b.priority.toInt < a.priority.toInt ∨
    b.priority.toInt = a.priority.toInt ∧ a.id.toInt < b.id.toInt

/-- The place of a rule in a linear order. -/
def rank (r : CompiledRule) : Int ×ₗ Int := toLex (-r.priority.toInt, r.id.toInt)

@[simp] lemma rank_anonymous (r : CompiledRule) : r.anonymous.rank = r.rank := rfl

lemma rank_lt_iff {a b : CompiledRule} : a.rank < b.rank ↔ a.Precedes b := by
  simp only [rank, Precedes, Prod.Lex.toLex_lt_toLex]
  omega

/-- The rule has a whole number as its priority, and as its id if it has one. -/
structure Ranked (r : CompiledRule) : Prop where
  priority : r.priority.IsInt
  id : r.id = .null ∨ r.id.IsInt

lemma ranked_of_typed {r : CompiledRule} (h : r.row.Typed) : r.Ranked := ⟨h.priority, h.id⟩

lemma sortKey_eq {r : CompiledRule} (h : r.Ranked) :
    r.sortKey = .ok [.int (-r.priority.toInt), .int r.id.toInt] := by
  obtain ⟨p, hp⟩ := h.priority
  rcases h.id with hid | ⟨n, hid⟩ <;>
    simp [sortKey, hp, hid, Value.negate, Value.isNull, Value.toInt]

/-- Sorting succeeds and gives the rules by rank. -/
lemma exists_inOrder {rules : List CompiledRule} (h : ∀ r ∈ rules, r.Ranked) :
    ∃ ordered, inOrder rules = .ok ordered ∧ ordered.Perm rules ∧
      ordered.Pairwise (rank · ≤ rank ·) := by
  let keyed (r : CompiledRule) : List Value × CompiledRule :=
    ([.int (-r.priority.toInt), .int r.id.toInt], r)
  have hkeyed : (rules.mapM fun r => do return (← r.sortKey, r)) = .ok (rules.map keyed) :=
    Outcome.mapM_eq_ok fun r hr => by simp [sortKey_eq (h r hr), keyed]
  have hcompares : Insertion.ComparesBy (fun a b => Value.orderedItems .lt a.1 b.1)
      (fun p : List Value × CompiledRule => p.2.rank) (rules.map keyed) (rules.map keyed) := by
    intro a ha b hb
    obtain ⟨r, -, rfl⟩ := List.mem_map.1 ha
    obtain ⟨s, -, rfl⟩ := List.mem_map.1 hb
    simp only [keyed, rank, Prod.Lex.toLex_lt_toLex, Value.orderedItems, Value.equal_int,
      Value.ordered_lt_int, Comparison.holds]
    split_ifs <;> simp_all
  obtain ⟨sorted, hsort, hperm, hsorted⟩ := Insertion.sort_sorted _ hcompares
  refine ⟨sorted.map (·.2), ?_, ?_, List.pairwise_map.2 hsorted⟩
  · rw [inOrder, hkeyed, Outcome.ok_bind, hsort]
    rfl
  · simpa [keyed, Function.comp_def] using hperm.map (·.2)

/-- Rules in strict order are sorted already. -/
lemma inOrder_of_pairwise {rules : List CompiledRule} (h : ∀ r ∈ rules, r.Ranked)
    (hordered : rules.Pairwise Precedes) : inOrder rules = .ok rules := by
  obtain ⟨ordered, hin, hperm, hsorted⟩ := exists_inOrder h
  have hranks : rules.Pairwise (rank · < rank ·) := hordered.imp rank_lt_iff.2
  have hinj : ∀ a ∈ ordered, ∀ b ∈ ordered, a.rank = b.rank → a = b := by
    intro a ha b hb hab
    have hnodup : (rules.map rank).Nodup :=
      List.pairwise_map.2 (hranks.imp fun hlt => ne_of_lt hlt)
    exact List.inj_on_of_nodup_map hnodup (hperm.mem_iff.1 ha) (hperm.mem_iff.1 hb) hab
  rw [hin, Insertion.eq_of_perm_of_sorted hperm hinj hsorted (hranks.imp fun hlt => le_of_lt hlt)]

/-- Rules with distinct whole numbers as ids are in strict order once they are sorted. -/
lemma pairwise_precedes {rules : List CompiledRule} (hint : ∀ r ∈ rules, r.id.IsInt)
    (hids : (rules.map (·.id)).Nodup) (h : rules.Pairwise (rank · ≤ rank ·)) :
    rules.Pairwise Precedes := by
  have hne : rules.Pairwise (·.id ≠ ·.id) := List.pairwise_map.1 hids
  refine (h.and hne).imp_of_mem fun {a b} ha hb hab => rank_lt_iff.1 (lt_of_le_of_ne hab.1 ?_)
  intro heq
  obtain ⟨m, hm⟩ := hint a ha
  obtain ⟨n, hn⟩ := hint b hb
  have hmn : a.id.toInt = b.id.toInt := (Prod.mk.inj (toLex.injective heq)).2
  simp only [hm, hn, Value.toInt] at hmn
  exact hab.2 (by rw [hm, hn, hmn])

/-- Two lists of the same rules in strict order are equal. -/
lemma eq_of_perm_of_precedes {rules rules' : List CompiledRule} (hperm : rules.Perm rules')
    (h : rules.Pairwise Precedes) (h' : rules'.Pairwise Precedes) : rules = rules' := by
  refine hperm.eq_of_pairwise (fun a b _ _ hab hba => ?_) h h'
  exact absurd ((rank_lt_iff.2 hab).trans (rank_lt_iff.2 hba)) (lt_irrefl _)

/-! ## Rules of any kind -/

lemma of_mapM_keyed {rules : List CompiledRule} {keyed : List (List Value × CompiledRule)}
    (h : (rules.mapM fun r => do return (← r.sortKey, r)) = Except.ok keyed) :
    keyed.map (·.2) = rules ∧ ∀ r ∈ rules, ∃ v, r.priority.negate = .ok v := by
  have hall := Outcome.mapM_eq_ok_iff.1 h
  clear h
  induction hall with
  | nil => exact ⟨rfl, fun r hr => nomatch hr⟩
  | cons hr hrest ih =>
    obtain ⟨key, hkey, hr⟩ := Outcome.bind_eq_ok.1 hr
    obtain ⟨v, hv, -⟩ := Outcome.bind_eq_ok.1 hkey
    refine ⟨by rw [List.map_cons, ih.1, ← Except.ok.inj hr], fun r' hr' => ?_⟩
    rcases List.mem_cons.1 hr' with rfl | hr'
    · exact ⟨v, hv⟩
    · exact ih.2 r' hr'

/-- Sorting fails on a priority that is no number, and loses no rule. -/
lemma of_inOrder {rules ordered : List CompiledRule} (h : inOrder rules = .ok ordered) :
    ordered.Perm rules ∧ ∀ r ∈ rules, ∃ v, r.priority.negate = .ok v := by
  obtain ⟨keyed, hkeyed, h⟩ := Outcome.bind_eq_ok.1 h
  obtain ⟨sorted, hsorted, h⟩ := Outcome.bind_eq_ok.1 h
  obtain ⟨hrules, hnegate⟩ := of_mapM_keyed hkeyed
  refine ⟨?_, hnegate⟩
  rw [← Except.ok.inj h, ← hrules]
  exact (Insertion.perm_of_sort hsorted).map _

end TransactionRules.CompiledRule
