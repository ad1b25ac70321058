import TransactionRules.Proofs.BracketedRows
import TransactionRules.Proofs.Equivalences
import TransactionRules.Proofs.TokenRows

/-!
# Conjunctions of constraints

Tokens that a condition comes of (`Reading`) are put between brackets and beside others of the kind,
with the sign of a conjunction between neighbours. The line of all these tokens is read as the
conjunction of the expressions that the parts are by themselves, and it holds where all of them hold.
-/

namespace TransactionRules

open Expression
open scoped Members

/-! ## Conditions of normal forms -/

namespace Condition

/-- What a condition comes of: an expression that is not too deep and has a truth value. -/
lemma ofNormal_eq_ok {text : String} {c : Condition} :
    ofNormal text = .ok c ↔ '\x00' ∉ text.toList ∧ ∃ e, Expr.ofChars? text.toList = some e ∧
      e.depth ≤ Expr.depthLimit ∧ isBoolean e = true ∧ ofExpr e = .ok c := by
  unfold ofNormal
  split_ifs with hnull
  · simp [List.contains_iff_mem.1 hnull]
  · have hnull : '\x00' ∉ text.toList := fun hmem => hnull (List.contains_iff_mem.2 hmem)
    cases Expr.ofChars? text.toList with
    | none => simp
    | some e =>
      simp only [hnull, not_false_iff, true_and, Option.some.injEq, exists_eq_left']
      split_ifs with hdepth hboolean
      · simp [Nat.not_le.2 hdepth]
      · simp [Nat.not_lt.1 hdepth, hboolean]
      · simp [hboolean]

/-- The condition has a value that counts as true. -/
def Holds (c : Condition) (t : Transaction) : Prop := (c.eval t).map Value.truthy = .ok true

/-- A conjunction holds where all its operands hold, whichever of them fail elsewhere. -/
lemma evalJoined_and_eq_ok_true {cs : List Condition} {t : Transaction} :
    evalJoined .and cs t = .ok true ↔ ∀ c ∈ cs, c.Holds t := by
  induction cs with
  | nil => simp [evalJoined_nil, Connective.neutral]
  | cons c cs ih =>
    rw [evalJoined_cons_truthy, List.forall_mem_cons, ← ih, Holds]
    cases (c.eval t).map Value.truthy with
    | error f => simp
    | ok b => cases b <;> simp [Connective.neutral]

end Condition

/-! ## What tokens are read as -/

/-- The lexemes, bracket trees, items and expression of tokens, and the condition that comes of it. -/
structure Reading where
  lexemes : List Lexeme
  trees : List Tree
  items : List Item
  expr : Expr
  condition : Condition

/-- The tokens are read in this way, and without going into formatted literals. -/
structure Reading.Of (r : Reading) (ts : List Token) : Prop where
  ne_nil : ts ≠ []
  legible : ∀ t ∈ ts, t.Legible ∧ t.isOther '#' = false
  lexemes : ts.mapM Token.lexeme? = some r.lexemes
  trees : Tree.ofLexemes r.lexemes = some r.trees
  items : ∀ accepts, Item.ofTrees accepts r.trees = some r.items
  expr : Grammar.top r.items = some r.expr
  depth : r.expr.depth ≤ Expr.depthLimit
  isBoolean : Condition.isBoolean r.expr = true
  condition : Condition.ofExpr r.expr = .ok r.condition
  noNull : '\x00' ∉ Token.joined ts

namespace Reading

variable {ts : List Token}

/-- The tokens of a condition have a reading. -/
lemma exists_of_ofNormal {c : Condition} (hne : ts ≠ [])
    (hlegible : ∀ t ∈ ts, t.Legible ∧ t.isOther '#' = false)
    (h : Condition.ofNormal (String.ofList (Token.joined ts)) = .ok c) :
    ∃ r : Reading, r.Of ts ∧ r.condition = c ∧
      Expr.ofChars? (Token.joined ts) = some r.expr := by
  rw [Condition.ofNormal_eq_ok, String.toList_ofList] at h
  obtain ⟨hnull, e, hexpr, hdepth, hboolean, hc⟩ := h
  obtain ⟨is, his, htop⟩ := Option.bind_eq_some_iff.1 ((Token.ofChars?_joined hne hlegible).1 hexpr).2
  obtain ⟨us, hus, hitems⟩ := Option.bind_eq_some_iff.1 his
  obtain ⟨ls, hlexemes, htrees⟩ := Option.bind_eq_some_iff.1 hus
  have hagrees := Token.agrees_of_mapM (fun t ht => (hlegible t ht).1) hlexemes
  have hfixed := Tree.fixed_of_ofLexemes (Token.not_formatted_of_agrees hagrees) htrees
  refine ⟨⟨ls, us, is, e, c⟩, ?_, rfl, hexpr⟩
  exact ⟨hne, hlegible, hlexemes, htrees,
    fun accepts => (Tree.ofTrees_of_fixed hfixed _ _).trans hitems, htop, hdepth, hboolean, hc, hnull⟩

/-- The brackets of tokens that have a reading match. -/
lemma Of.depth_tokens {r : Reading} (h : r.Of ts) :
    (∀ p, p <+: ts → 0 ≤ Token.depth p) ∧ Token.depth ts = 0 := by
  have hagrees := Token.agrees_of_mapM (fun t ht => (h.legible t ht).1) h.lexemes
  obtain ⟨hlevel, hzero, -⟩ := Tree.level_of_ofLexemes h.trees
  refine ⟨fun p hp => ?_, by rw [← Token.depth_of_agrees hagrees, hzero]⟩
  obtain ⟨ls, hls, hp⟩ := Token.exists_first_lexemes hagrees hp
  rw [← Token.depth_of_agrees hp]
  exact hlevel ls hls

/-- Tokens that have a reading have its items. -/
lemma Of.items? {r : Reading} (h : r.Of ts) : Token.items? ts = some r.items := by
  rw [Token.items?, h.lexemes, Option.bind_some, h.trees, Option.bind_some, h.items]

/-! ## Readings of conjunctions -/

variable {qs : List (List Token × Reading)}

/-- The line of the conjunction is the conjunction of the expressions. -/
lemma expr_conjoined (hne : qs ≠ []) (h : ∀ q ∈ qs, q.2.Of q.1)
    (hnesting : ∀ q ∈ qs, ∀ p, p <+: q.1 → Token.nesting p < Line.bracketLimit) :
    Expr.ofChars? (Token.joined (Token.conjoined (qs.map Prod.fst))) =
      some (Expr.joined .and (qs.map fun q => q.2.expr)) := by
  have hlegible : ∀ ts ∈ qs.map Prod.fst, ∀ t ∈ ts, t.Legible ∧ t.isOther '#' = false :=
    List.forall_mem_map.2 fun q hq => (h q hq).legible
  have hdepth : ∀ ts ∈ qs.map Prod.fst, (∀ p, p <+: ts → 0 ≤ Token.depth p) ∧ Token.depth ts = 0 :=
    List.forall_mem_map.2 fun q hq => (h q hq).depth_tokens
  refine (Token.ofChars?_conjoined (by simpa using hne) hlegible (fun ts hts => (hdepth ts hts).1)
    fun ts hts => (hdepth ts (List.dropLast_subset _ hts)).2).2
    ⟨List.forall_mem_map.2 hnesting, qs.map fun q => q.2.expr, ?_, rfl⟩
  rw [List.mapM_map]
  refine mapM_eq_some fun q hq => ?_
  rw [Function.comp_apply, (h q hq).items?, Option.bind_some]
  exact Grammar.roundOperand_of_top (Condition.kept_of_ofExpr (h q hq).condition) (h q hq).expr

/-! ## Conditions of conjunctions -/

lemma ofExprs_map (h : ∀ q ∈ qs, q.2.Of q.1) :
    Condition.ofExprs (qs.map fun q => q.2.expr) = .ok (qs.map fun q => q.2.condition) := by
  rw [Condition.ofExprs_eq_mapM, List.mapM_map]
  exact Outcome.mapM_eq_ok fun q hq => (h q hq).condition

/-- The line of the conjunction is a condition that holds where the conditions of all its parts hold,
or one of several parts is nested so deeply that nothing may stand around it. -/
theorem ofNormal_conjoined (hne : qs ≠ []) (h : ∀ q ∈ qs, q.2.Of q.1)
    (hnesting : ∀ q ∈ qs, ∀ p, p <+: q.1 → Token.nesting p < Line.bracketLimit) :
    let line := String.ofList (Token.joined (Token.conjoined (qs.map Prod.fst)))
    (∃ c, Condition.ofNormal line = .ok c ∧ ∀ t, c.Holds t ↔ ∀ q ∈ qs, q.2.condition.Holds t) ∨
      Condition.ofNormal line = .error .tooDeep ∧ 2 ≤ qs.length ∧
        ∃ q ∈ qs, q.2.expr.depth = Expr.depthLimit := by
  intro line
  have hnull : '\x00' ∉ Token.joined (Token.conjoined (qs.map Prod.fst)) :=
    Token.noNull_conjoined.2 (List.forall_mem_map.2 fun q hq => (h q hq).noNull)
  have hnormal : Condition.ofNormal line =
      if Expr.depthLimit < (Expr.joined .and (qs.map fun q => q.2.expr)).depth then .error .tooDeep
      else if Condition.isBoolean (.joined .and (qs.map fun q => q.2.expr)) then
        Condition.ofExpr (.joined .and (qs.map fun q => q.2.expr))
      else .error .notBoolean := by
    rw [Condition.ofNormal, String.toList_ofList, expr_conjoined hne h hnesting,
      if_neg (by simpa using hnull)]
  obtain ⟨c, hc, hvalue⟩ := Condition.exists_joined .and (ofExprs_map h)
  have hholds (t : Transaction) : c.Holds t ↔ ∀ q ∈ qs, q.2.condition.Holds t := by
    rw [Condition.Holds, hvalue, Condition.evalJoined_and_eq_ok_true, List.forall_mem_map]
  obtain ⟨q, qs, rfl⟩ := List.exists_cons_of_ne_nil hne
  cases qs with
  | nil =>
    have hq := h q (by simp)
    have hdepth : ¬ Expr.depthLimit < (Expr.joined .and [q.2.expr]).depth := Nat.not_lt.2 hq.depth
    have hboolean : Condition.isBoolean (.joined .and [q.2.expr]) = true := hq.isBoolean
    rw [hnormal, List.map_singleton, if_neg hdepth, if_pos hboolean]
    exact .inl ⟨c, hc, hholds⟩
  | cons q' qs =>
    have hjoined : Expr.joined .and ((q :: q' :: qs).map fun q => q.2.expr) =
        .connective .and ((q :: q' :: qs).map fun q => q.2.expr) := rfl
    have hboolean (es : List Expr) : Condition.isBoolean (.connective .and es) = true := rfl
    rw [hjoined] at hnormal hc
    rw [Expr.depth, if_pos (hboolean _)] at hnormal
    by_cases hlt : Expr.depths ((q :: q' :: qs).map fun q => q.2.expr) < Expr.depthLimit
    · refine .inl ⟨c, ?_, hholds⟩
      rw [hnormal, if_neg (by omega), hc]
    · refine .inr ⟨by rw [hnormal, if_pos (by omega)], by simp, ?_⟩
      rw [Expr.depths_lt_iff (by decide), List.forall_mem_map] at hlt
      push Not at hlt
      obtain ⟨r, hr, hlimit⟩ := hlt
      exact ⟨r, hr, Nat.le_antisymm (h r hr).depth hlimit⟩

end Reading

end TransactionRules
