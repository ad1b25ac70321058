import TransactionRules.Expression.Grammar
import TransactionRules.Proofs.Lists

/-!
# Rows of items and their operators

An item binds as tightly as its tier says. A row is split only at items of the tier in question, so a
row of tighter items is passed from one level of the grammar to the next as it is. Items of tier zero
have a use of their own in other forms of expressions; without them a row is read as a disjunction
wherever it stands.
-/

namespace TransactionRules.Expression

namespace Item

/-- How tightly an item binds what stands beside it: `or`, `and`, `not`, the order relations and
equalities, the minus sign, and then operands with what is attached to them. -/
def tier : Item → Nat
  | .leaf (.keyword .or) => 1
  | .leaf (.keyword .and) => 2
  | .leaf (.keyword .not) => 3
  | .leaf (.punctuation .equal) | .leaf (.punctuation .notEqual) | .leaf (.punctuation .less)
  | .leaf (.punctuation .lessEqual) | .leaf (.punctuation .greater)
  | .leaf (.punctuation .greaterEqual) => 4
  | .leaf (.punctuation .minus) => 5
  | .leaf (.name _) | .leaf (.number _) | .leaf (.text _) | .leaf (.punctuation .dot) | .group _
  | .leaf (.keyword .trueConstant) | .leaf (.keyword .falseConstant)
  | .leaf (.keyword .nullConstant) => 6
  | _ => 0

lemma isKeyword_eq_false {i : Item} {k : Keyword} (h : (Item.leaf (.keyword k)).tier < i.tier) :
    i.isKeyword k = false := by
  unfold isKeyword
  split
  · next k' =>
    rw [beq_eq_false_iff_ne]
    rintro rfl
    exact absurd h (Nat.lt_irrefl _)
  · rfl

lemma isPunctuation_eq_false {i : Item} {p : Punctuation}
    (h : (Item.leaf (.punctuation p)).tier < i.tier) : i.isPunctuation p = false := by
  unfold isPunctuation
  split
  · next p' =>
    rw [beq_eq_false_iff_ne]
    rintro rfl
    exact absurd h (Nat.lt_irrefl _)
  · rfl

lemma relation?_eq_none {i : Item} (h : 4 < i.tier) : Grammar.relation? i = none := by
  unfold Grammar.relation?
  split <;> first | rfl | exact absurd h (Nat.not_lt.2 (by decide))

lemma prefixOp?_eq_none {i : Item} (h : 5 < i.tier) : Grammar.prefixOp? i = none := by
  unfold Grammar.prefixOp?
  split <;> first | rfl | exact absurd h (Nat.not_lt.2 (by decide))

lemma binaryOp?_eq_none {i : Item} (h : 5 < i.tier) : Grammar.binaryOp? i = none := by
  unfold Grammar.binaryOp?
  split
  · next p => cases p <;> first | rfl | exact absurd h (Nat.not_lt.2 (by decide))
  · rfl

end Item

/-- All items of a row bind at least as tightly as `n`. -/
def Tight (n : Nat) (is : List Item) : Prop := ∀ i ∈ is, n ≤ i.tier

namespace Tight

variable {n m : Nat} {is js : List Item} {i : Item}

lemma mono (h : Tight n is) (hm : m ≤ n) : Tight m is := fun i hi => Nat.le_trans hm (h i hi)

lemma append (hi : Tight n is) (hj : Tight n js) : Tight n (is ++ js) := by
  intro i h
  rcases List.mem_append.1 h with h | h
  · exact hi i h
  · exact hj i h

lemma cons (hi : n ≤ i.tier) (h : Tight n is) : Tight n (i :: is) := by
  intro j hj
  rcases List.mem_cons.1 hj with rfl | hj
  · exact hi
  · exact h j hj

lemma intercalate {iss : List (List Item)} (hne : iss ≠ []) (hi : n ≤ i.tier)
    (h : ∀ is ∈ iss, Tight n is) : Tight n ([i].intercalate iss) :=
  intercalate_of_append hne (fun _ _ his hjs => his.append (.cons hi hjs)) h

lemma head (h : Tight n (i :: is)) : n ≤ i.tier := h i List.mem_cons_self

lemma tail (h : Tight n (i :: is)) : Tight n is := fun j hj => h j (List.mem_cons_of_mem i hj)

end Tight

namespace Expr

/-- What a row with a connective between its parts is. -/
def joined (op : Connective) : List Expr → Expr
  | [e] => e
  | es => .connective op es

lemma joined_eq_connective (op : Connective) {es : List Expr} (h : 2 ≤ es.length) :
    joined op es = .connective op es := by
  match es, h with
  | _ :: _ :: _, _ => rfl

lemma depths_lt_iff {n : Nat} (hn : 0 < n) {es : List Expr} : depths es < n ↔ ∀ e ∈ es, e.depth < n := by
  induction es with
  | nil => simpa [depths] using hn
  | cons e es ih => rw [depths, Nat.max_lt, ih, List.forall_mem_cons]

lemma depth_foldr_prefixed (ops : List PrefixOp) (e : Expr) :
    (ops.foldr Expr.prefixed e).depth = ops.length + e.depth := by
  induction ops with
  | nil => simp
  | cons op ops ih =>
    rw [List.foldr_cons, depth, ih, List.length_cons]
    omega

/-- As long as an expression is not too deep, no prefix operator of it is dropped. -/
lemma prefixedBy_cons {op : PrefixOp} {ops : List PrefixOp} {e : Expr}
    (h : (prefixedBy ops e).depth ≤ depthLimit) :
    prefixedBy (op :: ops) e = .prefixed op (prefixedBy ops e) := by
  have hlength : ops.length ≤ depthLimit := by
    rw [prefixedBy, depth_foldr_prefixed, List.length_take] at h
    omega
  rw [prefixedBy, prefixedBy, List.take_of_length_le (by simpa using hlength),
    List.take_of_length_le (Nat.le_succ_of_le hlength), List.foldr_cons]

end Expr

namespace Grammar

/-! ## Splitting -/

lemma splitOn_ne_nil (sep : Item → Bool) (is : List Item) : splitOn sep is ≠ [] := by
  cases is with
  | nil => simp [splitOn]
  | cons i is =>
    rw [splitOn]
    split
    · simp
    · split <;> simp

/-- A row without separators is one part. -/
lemma splitOn_eq_singleton {sep : Item → Bool} {is : List Item} (h : ∀ i ∈ is, sep i = false) :
    splitOn sep is = [is] := by
  induction is with
  | nil => rfl
  | cons i is ih =>
    rw [splitOn, h i (by simp), ih fun j hj => h j (by simp [hj])]
    rfl

/-- The parts before a separator, and those after it. -/
lemma splitOn_append_cons {sep : Item → Bool} {is js : List Item} {i : Item} (hi : sep i = true) :
    splitOn sep (is ++ i :: js) = splitOn sep is ++ splitOn sep js := by
  induction is with
  | nil => simp [splitOn, hi]
  | cons j is ih =>
    rw [List.cons_append, splitOn, splitOn]
    split
    · rw [ih, List.cons_append]
    · rw [ih]
      obtain ⟨part, parts, hparts⟩ := List.exists_cons_of_ne_nil (splitOn_ne_nil sep is)
      rw [hparts]
      rfl

lemma splitOn_intercalate {sep : Item → Bool} {i : Item} (hi : sep i = true)
    {iss : List (List Item)} (hne : iss ≠ []) :
    splitOn sep ([i].intercalate iss) = iss.flatMap (splitOn sep) := by
  induction iss with
  | nil => exact absurd rfl hne
  | cons is iss ih =>
    cases iss with
    | nil => simp
    | cons js iss =>
      rw [List.intercalate_cons_cons, List.append_assoc, List.singleton_append,
        splitOn_append_cons hi, ih (by simp)]
      rfl

lemma breakAt_eq_none {sep : Item → Bool} {is : List Item} (h : ∀ i ∈ is, sep i = false) :
    breakAt sep is = none := by
  induction is with
  | nil => rfl
  | cons i is ih =>
    rw [breakAt, h i (by simp), ih fun j hj => h j (by simp [hj])]
    rfl

/-- A row without separators and lambdas is one part. -/
lemma splitOutside_eq_singleton {sep : Item → Bool} {is : List Item} (hsep : ∀ i ∈ is, sep i = false)
    (h : Tight 1 is) : splitOutside sep 0 is = [is] := by
  induction is with
  | nil => rfl
  | cons i is ih =>
    have hlambda : i.isKeyword .lambda = false := Item.isKeyword_eq_false h.head
    have hcolon : i.isPunctuation .colon = false := Item.isPunctuation_eq_false h.head
    have hafter : lambdasAfter 0 i = 0 := by simp [lambdasAfter, hlambda, hcolon]
    rw [splitOutside, hsep i (by simp), hafter, ih (fun j hj => hsep j (by simp [hj])) h.tail]
    rfl

/-! ## Rows wherever they stand -/

section

variable {is : List Item}

lemma elements_of_tight (h : Tight 1 is) (hne : is ≠ []) : elements is = some [is] := by
  have hparts : splitOutside (Item.isPunctuation .comma) 0 is = [is] :=
    splitOutside_eq_singleton (fun i hi => Item.isPunctuation_eq_false (h i hi)) h
  have hempty : is.isEmpty = false := by simpa using hne
  simp [elements, hparts, hempty]

lemma hasComma_of_tight (h : Tight 1 is) : hasComma is = false := by
  have hparts : splitOutside (Item.isPunctuation .comma) 0 is = [is] :=
    splitOutside_eq_singleton (fun i hi => Item.isPunctuation_eq_false (h i hi)) h
  simp [hasComma, hparts]

lemma expression_of_tight (h : Tight 1 is) : expression is = disjunction is := by
  have hlambda : lambda? is = none := by
    unfold lambda?
    split
    · exact absurd h.head (Nat.not_le.2 (by decide))
    · rfl
  have hif : breakAt (Item.isKeyword .if) is = none :=
    breakAt_eq_none fun i hi => Item.isKeyword_eq_false (h i hi)
  rw [expression, hlambda, hif]

lemma comprehension?_of_tight (h : Tight 1 is) : comprehension? is = none := by
  have hfor : splitOn (Item.isKeyword .for) is = [is] :=
    splitOn_eq_singleton fun i hi => Item.isKeyword_eq_false (h i hi)
  simp [comprehension?, hfor]

lemma named_of_tight (h : Tight 1 is) : named is = disjunction is := by
  unfold named
  split
  · exact absurd h.tail.head (Nat.not_le.2 (by decide))
  · exact expression_of_tight h

lemma roundOperand_of_tight (h : Tight 1 is) (hne : is ≠ []) : roundOperand is = disjunction is := by
  unfold roundOperand
  split
  · exact absurd rfl hne
  · exact absurd h.head (Nat.not_le.2 (by decide))
  · exact absurd h.head (Nat.not_le.2 (by decide))
  · rw [comprehension?_of_tight h, hasComma_of_tight h, named_of_tight h]
    rfl

lemma argument?_of_tight (h : Tight 1 is) :
    argument? is = (disjunction is).map .positional := by
  unfold argument?
  split
  · exact absurd h.head (Nat.not_le.2 (by decide))
  · exact absurd h.head (Nat.not_le.2 (by decide))
  · exact absurd h.tail.head (Nat.not_le.2 (by decide))
  · rw [named_of_tight h]

lemma arguments_of_tight (h : Tight 1 is) (hne : is ≠ []) :
    arguments is = (disjunction is).map fun e => ⟨[e], false⟩ := by
  have hempty : is.isEmpty = false := by simpa using hne
  unfold arguments
  rw [hempty, comprehension?_of_tight h, elements_of_tight h hne]
  cases hd : disjunction is with
  | none => simp [argument?_of_tight h, hd]
  | some e => simp [argument?_of_tight h, hd, ArgumentState.next, Argument.positional?]

lemma top_of_tight (h : Tight 1 is) : top is = disjunction is := by
  rw [top, hasComma_of_tight h, expression_of_tight h]
  rfl

end

/-! ## Operands -/

section

variable {is more : List Item} {e : Expr}

/-- The item of a name between a point and the arguments of a call. -/
lemma trailers_call {name : String} {forms : Forms} {a : Arguments} (hround : forms.bracket = .round)
    (ha : forms.arguments = some a) :
    trailers e (.leaf (.punctuation .dot) :: .leaf (.name name) :: .group forms :: more) =
      trailers (.call (.attribute e name) a.positional a.keywords) more := by
  rw [trailers, trailers, hround, ha]
  rfl

lemma attached_operand {i : Item} (hi : i.isLiteral = false) (he : operand i = some e) :
    attached (i :: more) = trailers e more := by
  simp [attached, hi, he]

lemma attached_text {s : String} (hmore : ∀ i ∈ more.head?, i.isLiteral = false) :
    attached (.leaf (.text s) :: more) = trailers (.constant (.text s)) more := by
  have htake : more.takeWhile Item.isLiteral = [] ∧ more.dropWhile Item.isLiteral = more := by
    cases more with
    | nil => simp
    | cons i more => simp [hmore i (by simp)]
  simp [attached, Item.isLiteral, htake, literalOf, String.join]

lemma primary_of_tight (h : Tight 6 is) : primary is = attached is := by
  unfold primary
  split
  · exact absurd h.head (Nat.not_le.2 (by decide))
  · rfl

/-! ## Prefix operators -/

/-- A row without binary operators. -/
def Unary (is : List Item) : Prop := operands false is = (is, [])

lemma operands_true (h : Tight 6 is) : operands true is = (is, []) := by
  induction is with
  | nil => rfl
  | cons i is ih =>
    simp only [operands, if_true, Item.binaryOp?_eq_none h.head, Bool.true_or, ih h.tail]

lemma unary_of_tight (h : Tight 6 is) : Unary is := by
  cases is with
  | nil => rfl
  | cons i is =>
    simp [Unary, operands, Item.prefixOp?_eq_none h.head, operands_true h.tail]

lemma factor_of_tight (h : Tight 6 is) : factor is = (attached is).map ([], ·) := by
  have hprefix : is.takeWhile (fun i => (prefixOp? i).isSome) = [] ∧
      is.dropWhile (fun i => (prefixOp? i).isSome) = is := by
    cases is with
    | nil => simp
    | cons i is => simp [Item.prefixOp?_eq_none h.head]
  simp [factor, hprefix, primary_of_tight h]

lemma arithmetic_of_unary (h : Unary is) :
    arithmetic is = (factor is).map fun (ops, e) => .prefixedBy ops e := by
  unfold Unary at h
  cases hfactor : factor is <;> simp [arithmetic, h, hfactor]

lemma arithmetic_of_tight (h : Tight 6 is) : arithmetic is = attached is := by
  rw [arithmetic_of_unary (unary_of_tight h), factor_of_tight h]
  cases attached is <;> rfl

lemma unary_minus (h : Unary is) : Unary (.leaf (.punctuation .minus) :: is) := by
  unfold Unary at h ⊢
  simp [operands, prefixOp?, h]

/-- A minus sign before a row that has no binary operator. -/
lemma arithmetic_minus (h : Unary is) (he : arithmetic is = some e)
    (hd : e.depth ≤ Expr.depthLimit) :
    arithmetic (.leaf (.punctuation .minus) :: is) = some (.prefixed .minus e) := by
  rw [arithmetic_of_unary h] at he
  obtain ⟨⟨ops, operand⟩, hfactor, rfl⟩ := Option.map_eq_some_iff.1 he
  obtain ⟨_, hprimary, heq⟩ := Option.map_eq_some_iff.1 hfactor
  cases heq
  have hminus : prefixOp? (.leaf (.punctuation .minus)) = some .minus := rfl
  rw [arithmetic_of_unary (unary_minus h), factor]
  simp [hminus, hprimary, Expr.prefixedBy_cons hd]

/-! ## Comparisons -/

/-- A row without relations is an operand of the chain that goes on behind it. -/
lemma related_append (h : Tight 5 is) (more : List Item) :
    related (is ++ more) = (is ++ (related more).1, (related more).2) := by
  induction is with
  | nil => rfl
  | cons i is ih =>
    have hnot : i ≠ .leaf (.keyword .not) := by
      rintro rfl
      exact absurd h.head (Nat.not_le.2 (by decide))
    have his : i ≠ .leaf (.keyword .is) := by
      rintro rfl
      exact absurd h.head (Nat.not_le.2 (by decide))
    rw [List.cons_append, related.eq_4 _ _ (fun _ hi _ => hnot hi) (fun _ hi _ => his hi),
      ih h.tail, Item.relation?_eq_none h.head]
    rfl

lemma related_of_tight (h : Tight 5 is) : related is = (is, []) := by
  simpa [related] using related_append h []

lemma comparison_of_tight (h : Tight 5 is) : comparison is = arithmetic is := by
  rw [comparison, related_of_tight h]
  cases he : arithmetic is <;> simp [he]

/-- The operands of a chain. -/
lemma related_chain {rest : List (Relation × Item × List Item)} (h : Tight 5 is)
    (hrest : ∀ r ∈ rest, Tight 5 r.2.2 ∧ relation? r.2.1 = some r.1 ∧ 4 = r.2.1.tier) :
    related (is ++ rest.flatMap fun r => r.2.1 :: r.2.2) =
      (is, rest.map fun r => (r.1, r.2.2)) := by
  induction rest generalizing is with
  | nil => simpa using related_of_tight h
  | cons r rest ih =>
    obtain ⟨hr, hrelation, htier⟩ := hrest r (by simp)
    have hnot : r.2.1 ≠ .leaf (.keyword .not) := by
      intro heq
      simp [heq, Item.tier] at htier
    have his : r.2.1 ≠ .leaf (.keyword .is) := by
      intro heq
      simp [heq, Item.tier] at htier
    have htail := ih hr fun x hx => hrest x (by simp [hx])
    rw [List.flatMap_cons, List.cons_append, related_append h,
      related.eq_4 _ _ (fun _ hi _ => hnot hi) (fun _ hi _ => his hi), htail, hrelation]
    simp

/-- A chain of operands that can all be read. -/
lemma comparison_chain {rest : List (Relation × Item × List Item)} {es : List (Relation × Expr)}
    (h : Tight 5 is) (he : arithmetic is = some e) (hne : rest ≠ [])
    (hrest : ∀ r ∈ rest, Tight 5 r.2.2 ∧ relation? r.2.1 = some r.1 ∧ 4 = r.2.1.tier)
    (hes : rest.mapM (fun r => (arithmetic r.2.2).map (r.1, ·)) = some es) :
    comparison (is ++ rest.flatMap fun r => r.2.1 :: r.2.2) = some (.chain e es) := by
  have hparts : (rest.map fun r => (r.1, r.2.2)).mapM
      (fun r => (arithmetic r.2).map (r.1, ·)) = some es := by
    rw [List.mapM_map, ← hes]
    rfl
  have hempty : (rest.map fun r => (r.1, r.2.2)).isEmpty = false := by simpa using hne
  rw [comparison, related_chain h hrest]
  simp only [he, hempty, hparts, Option.bind_eq_bind, Option.bind_some, Bool.false_eq_true, if_false]
  rfl

/-! ## Negations -/

lemma inversion_of_tight (h : Tight 4 is) : inversion is = comparison is := by
  have hnot : is.takeWhile (Item.isKeyword .not) = [] ∧
      is.dropWhile (Item.isKeyword .not) = is := by
    cases is with
    | nil => simp
    | cons i is =>
      have hi : i.isKeyword .not = false := Item.isKeyword_eq_false h.head
      simp [hi]
  rw [inversion, hnot.1, hnot.2]
  cases comparison is <;> rfl

lemma inversion_not (he : inversion is = some e) (hd : e.depth ≤ Expr.depthLimit) :
    inversion (.leaf (.keyword .not) :: is) = some (.prefixed .not e) := by
  obtain ⟨operand, hcomparison, rfl⟩ := Option.map_eq_some_iff.1 he
  have hnot : (Item.leaf (.keyword .not)).isKeyword .not = true := rfl
  rw [inversion, List.takeWhile_cons_of_pos hnot, List.dropWhile_cons_of_pos hnot, hcomparison,
    List.map_cons, Option.map_some, Expr.prefixedBy_cons hd]

/-! ## Connectives -/

/-- The operands of a connective are read part by part. -/
lemma connected_eq_map (op : Connective) (read : List Item → Option Expr) (parts : List (List Item)) :
    connected op read parts = (parts.mapM read).map (Expr.joined op) := by
  rcases parts with _ | ⟨part, _ | ⟨next, parts⟩⟩
  · rfl
  · rw [connected]
    cases hpart : read part <;> simp [hpart, Expr.joined]
  · rw [connected]
    · cases hes : (part :: next :: parts).mapM read with
      | none => rfl
      | some es =>
        obtain ⟨e, rest, -, hrest, rfl⟩ := mapM_cons_eq_some.1 hes
        obtain ⟨f, fs, -, -, rfl⟩ := mapM_cons_eq_some.1 hrest
        rfl
    · simp

end

end Grammar

end TransactionRules.Expression
