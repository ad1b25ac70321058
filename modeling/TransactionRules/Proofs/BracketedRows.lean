import TransactionRules.Condition.Basic
import TransactionRules.Proofs.Operators

/-!
# Rows between brackets

More may stand between round brackets than without them: a value that is yielded, a generator, an
expression that is given a name. Only the kind of these forms is kept, and each of them has an item that
no disjunction has (`Item.isInner`). So a row that is an expression with parts of its own is between
brackets the same expression that it is by itself, and nothing else is such an expression there
(`Grammar.roundOperand_of_top`, `Grammar.top_of_roundOperand`).
-/

namespace TransactionRules.Expression

/-- The items that the forms between brackets are known by. -/
def Item.isInner (i : Item) : Bool :=
  i.isKeyword .yield || i.isKeyword .for || i.isPunctuation .colonEqual

/-- A row without such items. -/
def Plain (is : List Item) : Prop := ∀ i ∈ is, i.isInner = false

namespace Plain

variable {is js : List Item} {i : Item}

lemma nil : Plain [] := by simp [Plain]

lemma cons (hi : i.isInner = false) (h : Plain is) : Plain (i :: is) := by
  simpa [Plain] using ⟨hi, h⟩

lemma append (hi : Plain is) (hj : Plain js) : Plain (is ++ js) := by
  intro i h
  rcases List.mem_append.1 h with h | h
  · exact hi i h
  · exact hj i h

lemma head (h : Plain (i :: is)) : i.isInner = false := h i List.mem_cons_self

lemma tail (h : Plain (i :: is)) : Plain is := fun j hj => h j (List.mem_cons_of_mem i hj)

end Plain

/-- The expression is none of the forms that only their kind is kept of. -/
def Expr.Kept (e : Expr) : Prop := ∀ form depth, e ≠ .other form depth

namespace Grammar

variable {is : List Item} {i : Item} {e f : Expr}

/-! ## Operands -/

lemma isInner_of_operand (h : operand i = some e) : i.isInner = false := by
  unfold operand at h
  split at h <;> first | rfl | cases h

lemma isInner_of_isLiteral (h : i.isLiteral = true) : i.isInner = false := by
  unfold Item.isLiteral at h
  split at h <;> first | rfl | cases h

lemma plain_of_trailers (h : trailers e is = some f) : Plain is := by
  fun_induction trailers e is with
  | case1 => exact .nil
  | case2 e s is ih => exact .cons rfl (.cons rfl (ih h))
  | case3 e forms is hround ih =>
    obtain ⟨a, -, hrest⟩ := Option.bind_eq_some_iff.1 h
    exact .cons rfl (ih a hrest)
  | case4 e forms is hsquare ih =>
    obtain ⟨d, -, hrest⟩ := Option.bind_eq_some_iff.1 h
    exact .cons rfl (ih d hrest)
  | case5 | case6 => cases h

lemma plain_of_attached (h : attached is = some e) : Plain is := by
  cases is with
  | nil => exact .nil
  | cons i is =>
    rw [attached] at h
    split_ifs at h with hliteral
    · obtain ⟨f, -, htrailers⟩ := Option.bind_eq_some_iff.1 h
      have hliterals : Plain (is.takeWhile Item.isLiteral) := fun j hj =>
        isInner_of_isLiteral (List.mem_takeWhile_imp hj)
      have hall := hliterals.append (plain_of_trailers htrailers)
      rw [List.takeWhile_append_dropWhile] at hall
      exact .cons (isInner_of_isLiteral hliteral) hall
    · obtain ⟨f, hoperand, htrailers⟩ := Option.bind_eq_some_iff.1 h
      exact .cons (isInner_of_operand hoperand) (plain_of_trailers htrailers)

lemma plain_of_primary (h : primary is = some e) : Plain is := by
  unfold primary at h
  split at h
  · obtain ⟨f, hattached, -⟩ := Option.map_eq_some_iff.1 h
    exact .cons rfl (plain_of_attached hattached)
  · exact plain_of_attached h

/-! ## Operators -/

lemma isInner_of_prefixOp? (h : (prefixOp? i).isSome = true) : i.isInner = false := by
  unfold prefixOp? at h
  split at h <;> first | rfl | cases h

lemma isInner_of_binaryOp? {p : Punctuation} (h : binaryOp? i = some p) : i.isInner = false := by
  unfold binaryOp? at h
  split at h
  · next q => cases q <;> first | rfl | cases h
  · cases h

lemma isInner_of_relation? {r : Relation} (h : relation? i = some r) : i.isInner = false := by
  unfold relation? at h
  split at h <;> first | rfl | cases h

lemma plain_of_factor {ops : List PrefixOp} (h : factor is = some (ops, e)) : Plain is := by
  obtain ⟨f, hprimary, -⟩ := Option.map_eq_some_iff.1 h
  have hprefixes : Plain (is.takeWhile fun i => (prefixOp? i).isSome) := fun j hj =>
    isInner_of_prefixOp? (List.mem_takeWhile_imp (p := fun i => (prefixOp? i).isSome) hj)
  have hall := hprefixes.append (plain_of_primary hprimary)
  rwa [List.takeWhile_append_dropWhile] at hall

lemma plain_of_operands {started : Bool} (hfirst : Plain (operands started is).1)
    (hrest : ∀ r ∈ (operands started is).2, Plain r.2) : Plain is := by
  induction is generalizing started with
  | nil => exact .nil
  | cons i is ih =>
    rw [operands] at hfirst hrest
    split at hfirst
    · next p hop =>
      simp only [hop] at hrest
      have hi : i.isInner = false := by
        split_ifs at hop
        exact isInner_of_binaryOp? hop
      exact .cons hi (ih (hrest _ List.mem_cons_self) fun r hr => hrest r (List.mem_cons_of_mem _ hr))
    · next hop =>
      simp only [hop] at hrest
      exact .cons hfirst.head (ih hfirst.tail hrest)

lemma plain_of_arithmetic (h : arithmetic is = some e) : Plain is := by
  obtain ⟨⟨ops, f⟩, hfirst, h⟩ := Option.bind_eq_some_iff.1 h
  refine plain_of_operands (plain_of_factor hfirst) fun r hr => ?_
  have hparts {others : List (List PrefixOp × Expr)}
      (hothers : (operands false is).2.mapM (fun r => factor r.2) = some others) :
      Plain r.2 := by
    obtain ⟨⟨ops, g⟩, hfactor⟩ := exists_of_mapM_eq_some hothers r hr
    exact plain_of_factor hfactor
  split_ifs at h with hempty
  · rw [List.isEmpty_iff.1 hempty] at hr
    cases hr
  all_goals
    obtain ⟨others, hothers, -⟩ := Option.bind_eq_some_iff.1 h
    exact hparts hothers

lemma plain_of_related (hfirst : Plain (related is).1) (hrest : ∀ r ∈ (related is).2, Plain r.2) :
    Plain is := by
  fun_induction related is with
  | case1 => exact .nil
  | case2 is first rest heq ih =>
    have hall := ih (by simpa [heq] using hrest _ List.mem_cons_self) fun r hr =>
      hrest r (List.mem_cons_of_mem _ (by simpa [heq] using hr))
    exact .cons rfl (.cons rfl hall)
  | case3 is first rest heq ih =>
    have hall := ih (by simpa [heq] using hrest _ List.mem_cons_self) fun r hr =>
      hrest r (List.mem_cons_of_mem _ (by simpa [heq] using hr))
    exact .cons rfl (.cons rfl hall)
  | case4 i is _ _ first rest heq r hr ih =>
    have hall := ih (by simpa [heq] using hrest _ List.mem_cons_self) fun s hs =>
      hrest s (List.mem_cons_of_mem _ (by simpa [heq] using hs))
    exact .cons (isInner_of_relation? hr) hall
  | case5 i is _ _ first rest heq hnone ih =>
    have hall := ih (by simpa [heq] using hfirst.tail) (by simpa [heq] using hrest)
    exact .cons hfirst.head hall

lemma plain_of_comparison (h : comparison is = some e) : Plain is := by
  obtain ⟨f, hfirst, h⟩ := Option.bind_eq_some_iff.1 h
  refine plain_of_related (plain_of_arithmetic hfirst) fun r hr => ?_
  split_ifs at h with hempty
  · rw [List.isEmpty_iff.1 hempty] at hr
    cases hr
  · obtain ⟨others, hothers, -⟩ := Option.bind_eq_some_iff.1 h
    obtain ⟨_, hpart⟩ := exists_of_mapM_eq_some hothers r hr
    obtain ⟨g, hg, -⟩ := Option.map_eq_some_iff.1 hpart
    exact plain_of_arithmetic hg

lemma plain_of_inversion (h : inversion is = some e) : Plain is := by
  obtain ⟨f, hcomparison, -⟩ := Option.map_eq_some_iff.1 h
  have hnots : Plain (is.takeWhile (Item.isKeyword .not)) := by
    intro i hi
    have hnot : i.isKeyword .not = true := List.mem_takeWhile_imp hi
    unfold Item.isKeyword at hnot
    split at hnot
    · next k =>
      obtain rfl : Keyword.not = k := by simpa using hnot
      rfl
    · cases hnot
  have hall := hnots.append (plain_of_comparison hcomparison)
  rwa [List.takeWhile_append_dropWhile] at hall

/-! ## Connectives -/

lemma plain_of_splitOn {sep : Item → Bool} (hsep : ∀ i, sep i = true → i.isInner = false)
    (h : ∀ part ∈ splitOn sep is, Plain part) : Plain is := by
  induction is with
  | nil => exact .nil
  | cons i is ih =>
    rw [splitOn] at h
    split_ifs at h with hi
    · exact .cons (hsep i hi) (ih fun part hpart => h part (List.mem_cons_of_mem _ hpart))
    · obtain ⟨part, parts, hparts⟩ := List.exists_cons_of_ne_nil (splitOn_ne_nil sep is)
      rw [hparts] at h ih
      have hfirst := h (i :: part) List.mem_cons_self
      refine .cons hfirst.head (ih fun q hq => ?_)
      rcases List.mem_cons.1 hq with rfl | hq
      · exact hfirst.tail
      · exact h q (List.mem_cons_of_mem _ hq)

lemma plain_of_connected {op : Connective} {read : List Item → Option Expr}
    {parts : List (List Item)} (hread : ∀ part f, read part = some f → Plain part)
    (h : connected op read parts = some e) : ∀ part ∈ parts, Plain part := by
  rw [connected_eq_map] at h
  obtain ⟨es, hes, -⟩ := Option.map_eq_some_iff.1 h
  intro part hpart
  obtain ⟨f, hf⟩ := exists_of_mapM_eq_some hes part hpart
  exact hread part f hf

lemma isInner_of_isKeyword {k : Keyword} (hk : k ≠ .yield ∧ k ≠ .for) (h : i.isKeyword k = true) :
    i.isInner = false := by
  unfold Item.isKeyword at h
  split at h
  · next k' =>
    obtain rfl : k = k' := by simpa using h
    simp [Item.isInner, Item.isKeyword, Item.isPunctuation, hk.1.symm, hk.2.symm]
  · cases h

lemma plain_of_disjunction (h : disjunction is = some e) : Plain is := by
  refine plain_of_splitOn (fun i => isInner_of_isKeyword (by decide))
    (plain_of_connected (fun part f hpart => ?_) h)
  exact plain_of_splitOn (fun i => isInner_of_isKeyword (by decide))
    (plain_of_connected (fun _ _ => plain_of_inversion) hpart)

/-! ## Rows with parts of their own -/

section

variable (hkept : e.Kept)

include hkept

lemma ofForm_ne_of_kept {form : Form} {parts : List Expr} : Expr.ofForm form parts ≠ e := by
  rintro rfl
  exact hkept _ _ rfl

/-- An expression with parts of its own is a disjunction. -/
lemma disjunction_of_expression (h : expression is = some e) : disjunction is = some e := by
  have hform {form : Form} {parts : List Expr} : ¬ some (Expr.ofForm form parts) = some e :=
    fun heq => ofForm_ne_of_kept hkept (Option.some.inj heq)
  rw [expression] at h
  split at h
  · obtain ⟨⟨before, body⟩, -, h⟩ := Option.bind_eq_some_iff.1 h
    obtain ⟨ps, -, h⟩ := Option.bind_eq_some_iff.1 h
    obtain ⟨defaults, -, h⟩ := Option.bind_eq_some_iff.1 h
    split_ifs at h
    · obtain ⟨f, -, h⟩ := Option.bind_eq_some_iff.1 h
      exact absurd h hform
    · cases h
  · split at h
    · exact h
    · obtain ⟨⟨b, c⟩, -, h⟩ := Option.bind_eq_some_iff.1 h
      obtain ⟨f, -, h⟩ := Option.bind_eq_some_iff.1 h
      obtain ⟨g, -, h⟩ := Option.bind_eq_some_iff.1 h
      split_ifs at h
      · obtain ⟨k, -, h⟩ := Option.bind_eq_some_iff.1 h
        exact absurd h hform
      · cases h

lemma expression_of_named (h : named is = some e) : expression is = some e := by
  unfold named at h
  split at h
  · obtain ⟨f, -, h⟩ := Option.map_eq_some_iff.1 h
    exact absurd h (ofForm_ne_of_kept hkept)
  · exact h

/-- A row that is such an expression has no commas. -/
lemma expression_of_top (h : top is = some e) : hasComma is = false ∧ expression is = some e := by
  unfold top at h
  split_ifs at h with hcomma
  · obtain ⟨parts, -, h⟩ := Option.bind_eq_some_iff.1 h
    obtain ⟨es, -, h⟩ := Option.bind_eq_some_iff.1 h
    exact absurd (Option.some.inj h) (ofForm_ne_of_kept hkept)
  · exact ⟨by simpa using hcomma, h⟩

/-- Such a row is the same expression between brackets. -/
theorem roundOperand_of_top (h : top is = some e) : roundOperand is = some e := by
  obtain ⟨hcomma, hexpression⟩ := expression_of_top hkept h
  have hdisjunction := disjunction_of_expression hkept hexpression
  have hplain := plain_of_disjunction hdisjunction
  have hfor : comprehension? is = none := by
    have hsingle : splitOn (Item.isKeyword .for) is = [is] := splitOn_eq_singleton fun i hi => by
      have := hplain i hi
      simp only [Item.isInner, Bool.or_eq_false_iff] at this
      exact this.1.2
    simp [comprehension?, hsingle]
  have hnamed : named is = some e := by
    unfold named
    split
    · cases hplain.tail.head
    · exact hexpression
  unfold roundOperand
  split
  · cases hdisjunction
  · cases hplain.head
  · cases hplain.head
  · rw [hfor, hcomma]
    exact hnamed

/-- Between brackets there are no other expressions with parts of their own. -/
theorem top_of_roundOperand (h : roundOperand is = some e) : top is = some e := by
  have hform {form : Form} {parts : List Expr} : Expr.ofForm form parts ≠ e := ofForm_ne_of_kept hkept
  unfold roundOperand at h
  split at h
  · exact absurd (Option.some.inj h) hform
  · obtain ⟨f, -, h⟩ := Option.map_eq_some_iff.1 h
    exact absurd h hform
  · split_ifs at h
    · exact absurd (Option.some.inj h) hform
    · obtain ⟨parts, -, h⟩ := Option.bind_eq_some_iff.1 h
      obtain ⟨es, -, h⟩ := Option.bind_eq_some_iff.1 h
      exact absurd (Option.some.inj h) hform
  · split at h
    · obtain ⟨f, -, h⟩ := Option.bind_eq_some_iff.1 h
      obtain ⟨clauses, -, h⟩ := Option.bind_eq_some_iff.1 h
      exact absurd (Option.some.inj h) hform
    · split_ifs at h with hcomma
      · obtain ⟨parts, -, h⟩ := Option.bind_eq_some_iff.1 h
        obtain ⟨es, -, h⟩ := Option.bind_eq_some_iff.1 h
        exact absurd (Option.some.inj h) hform
      · rw [top, if_neg hcomma, expression_of_named hkept h]

end

end Grammar

end TransactionRules.Expression

namespace TransactionRules

open Expression

/-- A condition comes only of expressions with parts. -/
lemma Condition.kept_of_ofExpr {e : Expr} {c : Condition} (h : ofExpr e = .ok c) : e.Kept := by
  rintro form depth rfl
  rw [ofExpr] at h
  cases h

end TransactionRules
