import TransactionRules.Proofs.Conjunctions

/-!
# Lists of constraints

A text with commas outside its brackets is a list of constraints. If no bracket of it closes before it
opens, no constraint reaches beyond the brackets that are put around it: the text is a condition exactly
if every constraint is one by itself, whatever its outermost form, and it is the conjunction of their
conditions (`Condition.ofText_segments`). A bracket that closes too early closes the one around its
constraint instead, and the text may then be a condition although a constraint is no expression.
-/

namespace TransactionRules

open Expression
open Token (LiteralsClosed segments conjoined)

namespace Condition

/-- The condition that comes of tokens by themselves. Its outermost form may be any, and one more bracket
and one more connective can stand around it. -/
structure Operand (ts : List Token) (c : Condition) : Prop where
  expr : ∃ e, Expr.ofChars? (Token.joined ts) = some e ∧ e.depth < Expr.depthLimit ∧ ofExpr e = .ok c
  nesting : ∀ p, p <+: ts → Token.nesting p < Line.bracketLimit
  noNull : '\x00' ∉ Token.joined ts

lemma not_operand_nil (c : Condition) : ¬ Operand [] c := by
  rintro ⟨⟨e, he, -⟩, -, -⟩
  have hnone : Expr.ofChars? (Token.joined []) = none := by decide +kernel
  rw [hnone] at he
  cases he

section

variable {ts : List Token} {segs : List (List Token)} {c : Condition}

/-- Between brackets the same condition comes of the tokens. -/
lemma operand_iff (hne : ts ≠ []) (h : ∀ t ∈ ts, t.Legible ∧ t.isOther '#' = false) :
    Operand ts c ↔
      ((∀ p, p <+: ts → Token.nesting p < Line.bracketLimit) ∧ '\x00' ∉ Token.joined ts) ∧
        ∃ e, (Token.items? ts).bind Grammar.roundOperand = some e ∧
          e.depth < Expr.depthLimit ∧ ofExpr e = .ok c := by
  constructor
  · rintro ⟨⟨e, he, hdepth, hc⟩, hnesting, hnull⟩
    obtain ⟨is, his, htop⟩ := Option.bind_eq_some_iff.1 ((Token.ofChars?_joined hne h).1 he).2
    refine ⟨⟨hnesting, hnull⟩, e, ?_, hdepth, hc⟩
    rw [his, Option.bind_some, Grammar.roundOperand_of_top (kept_of_ofExpr hc) htop]
  · rintro ⟨⟨hnesting, hnull⟩, e, he, hdepth, hc⟩
    obtain ⟨is, his, hround⟩ := Option.bind_eq_some_iff.1 he
    have hexpr : (Token.items? ts).bind Grammar.top = some e := by
      rw [his, Option.bind_some, Grammar.top_of_roundOperand (kept_of_ofExpr hc) hround]
    exact ⟨⟨e, (Token.ofChars?_joined hne h).2 ⟨fun p hp => (hnesting p hp).le, hexpr⟩, hdepth, hc⟩,
      hnesting, hnull⟩

/-- Parts are operands one by one if their expressions are, and none of these is too deep. -/
lemma forall₂_operand_iff {cs : List Condition} (hne : ∀ ts ∈ segs, ts ≠ [])
    (h : ∀ ts ∈ segs, ∀ t ∈ ts, t.Legible ∧ t.isOther '#' = false) :
    List.Forall₂ Operand segs cs ↔
      ((∀ ts ∈ segs, ∀ p, p <+: ts → Token.nesting p < Line.bracketLimit) ∧
        ∀ ts ∈ segs, '\x00' ∉ Token.joined ts) ∧
      ∃ es, (segs.mapM fun ts => (Token.items? ts).bind Grammar.roundOperand) = some es ∧
        (∀ e ∈ es, e.depth < Expr.depthLimit) ∧ ofExprs es = .ok cs := by
  rw [forall₂_congr_of_mem fun ts hts c => operand_iff (hne ts hts) (h ts hts),
    List.forall₂_and_left, ← exists_between_forall₂, forall₂_and]
  simp only [List.forall₂_and_left, mapM_eq_some_iff, ofExprs_eq_mapM, Outcome.mapM_eq_ok_iff]

/-- The line of a conjunction is the conjunction of the conditions that come of its parts. -/
theorem ofNormal_conjoined_eq_ok (hlen : 2 ≤ segs.length) (hne : ∀ ts ∈ segs, ts ≠ [])
    (h : ∀ ts ∈ segs, ∀ t ∈ ts, t.Legible ∧ t.isOther '#' = false)
    (hlevel : ∀ ts ∈ segs, ∀ p, p <+: ts → 0 ≤ Token.depth p)
    (hzero : ∀ ts ∈ segs.dropLast, Token.depth ts = 0) :
    ofNormal (String.ofList (Token.joined (conjoined segs))) = .ok c ↔
      ∃ cs, List.Forall₂ Operand segs cs ∧ c = .all cs := by
  have hsegs : segs ≠ [] := by
    rintro rfl
    cases hlen
  have hexpr (e : Expr) := Token.ofChars?_conjoined (e := e) hsegs h hlevel hzero
  have hjoined {es : List Expr}
      (hes : (segs.mapM fun ts => (Token.items? ts).bind Grammar.roundOperand) = some es) :
      Expr.joined .and es = .connective .and es := by
    refine Expr.joined_eq_connective .and ?_
    rwa [← (mapM_eq_some_iff.1 hes).length_eq]
  rw [ofNormal_eq_ok, String.toList_ofList, Token.noNull_conjoined]
  constructor
  · rintro ⟨hnull, e, he, hdepth, -, hc⟩
    obtain ⟨hnesting, es, hes, rfl⟩ := (hexpr e).1 he
    rw [hjoined hes] at hdepth hc
    rw [Expr.depth, Nat.succ_le_iff, Expr.depths_lt_iff (by decide)] at hdepth
    rw [ofExpr] at hc
    obtain ⟨cs, hcs, rfl⟩ := Outcome.map_eq_ok.1 hc
    exact ⟨cs, (forall₂_operand_iff hne h).2 ⟨⟨hnesting, hnull⟩, es, hes, hdepth, hcs⟩, rfl⟩
  · rintro ⟨cs, hcs, rfl⟩
    obtain ⟨⟨hnesting, hnull⟩, es, hes, hdepth, hcs⟩ := (forall₂_operand_iff hne h).1 hcs
    refine ⟨hnull, .connective .and es, (hexpr _).2 ⟨hnesting, es, hes, hjoined hes⟩, ?_, rfl, ?_⟩
    · rwa [Expr.depth, Nat.succ_le_iff, Expr.depths_lt_iff (by decide)]
    · rw [ofExpr, hcs]
      rfl

end

/-- A text with closed literals, no comment and commas outside its brackets, of which none closes before
it opens, is a condition exactly if every constraint between the commas is one by itself, and it is then
their conjunction in order. -/
theorem ofText_segments {text : String} (hclosed : LiteralsClosed text.toList)
    (hcomment : ∀ t ∈ Token.scan text.toList, t.isOther '#' = false)
    (hdepth : ∀ p, p <+: Normal.tokens text.toList → 0 ≤ Token.depth p)
    (hlist : 2 ≤ (segments 0 (Normal.tokens text.toList)).length) (c : Condition) :
    ofText text = .ok c ↔
      ∃ cs, List.Forall₂ Operand (segments 0 (Normal.tokens text.toList)) cs ∧ c = .all cs := by
  have hsegs := Token.segments_ne_nil 0 (Normal.tokens text.toList)
  by_cases hne : ∀ ts ∈ segments 0 (Normal.tokens text.toList), ts ≠ []
  · have hlegible : ∀ ts ∈ segments 0 (Normal.tokens text.toList),
        ∀ t ∈ ts, t.Legible ∧ t.isOther '#' = false := by
      intro ts hts t ht
      have ht := Token.mem_of_mem_segments hts ht
      exact ⟨Token.legible_of_mem_tokens hclosed t ht, hcomment t (List.mem_filter.1 ht).1⟩
    obtain ⟨hlevel, hzero⟩ := Token.level_segments hdepth
    have hofNormal : ofText text =
        ofNormal (String.ofList (Token.joined (conjoined (segments 0 (Normal.tokens text.toList))))) := by
      rw [ofText, normalForm, Normal.ofChars, (Normal.ofSegments_eq_ok hsegs).2 ⟨hne, rfl⟩,
        Normal.arranged_eq_conjoined hlist]
      rfl
    rw [hofNormal]
    exact ofNormal_conjoined_eq_ok hlist hne hlegible hlevel hzero
  -- An empty constraint has no normal form, and no tokens at all are no condition.
  · constructor
    · intro hc
      cases hnormal : normalForm text with
      | error e => simp [ofText, hnormal] at hc
      | ok normal =>
        obtain ⟨cs, hcs, -⟩ := Outcome.map_eq_ok.1 hnormal
        exact absurd ((Normal.ofSegments_eq_ok hsegs).1 hcs).1 hne
    · rintro ⟨cs, hcs, -⟩
      push Not at hne
      obtain ⟨ts, hts, rfl⟩ := hne
      obtain ⟨c, -, hc⟩ := exists_right_of_forall₂ hcs [] hts
      exact absurd hc (not_operand_nil c)

/-- Two constraints of which the first is a disjunction, with a comma in a call. -/
theorem ofText_segments_two :
    let text := "amount > 1 || merchant.contains('a'), !(category == 'food')"
    let segs := segments 0 (Normal.tokens text.toList)
    (LiteralsClosed text.toList ∧ (∀ t ∈ Token.scan text.toList, t.isOther '#' = false) ∧
      (∀ p, p <+: Normal.tokens text.toList → 0 ≤ Token.depth p) ∧ segs.length = 2) ∧
      ∃ cs, ofText text = .ok (.all cs) ∧ List.Forall₂ Operand segs cs := by
  intro text segs
  have hclosed : LiteralsClosed text.toList := by decide +kernel
  have hcomment : ∀ t ∈ Token.scan text.toList, t.isOther '#' = false := by decide +kernel
  have hinits : ∀ p ∈ (Normal.tokens text.toList).inits, 0 ≤ Token.depth p := by decide +kernel
  have hdepth : ∀ p, p <+: Normal.tokens text.toList → 0 ≤ Token.depth p := fun p hp =>
    hinits p ((List.mem_inits p _).2 hp)
  have hlength : segs.length = 2 := by decide +kernel
  have hok : (ofText text).isOk = true := by decide +kernel
  refine ⟨⟨hclosed, hcomment, hdepth, hlength⟩, ?_⟩
  cases hc : ofText text with
  | error e => simp [hc, Except.isOk, Except.toBool] at hok
  | ok c =>
    obtain ⟨cs, hcs, rfl⟩ := (ofText_segments hclosed hcomment hdepth hlength.ge c).1 hc
    exact ⟨cs, rfl, hcs⟩

/-- The first constraint closes the bracket around it and opens another one: it is no expression, but the
list is a condition, and one that holds of a transaction without any field. -/
theorem ofText_segments_escaping :
    let text := "true) || (true, false"
    let segs := segments 0 (Normal.tokens text.toList)
    (LiteralsClosed text.toList ∧ (∀ t ∈ Token.scan text.toList, t.isOther '#' = false) ∧
      (∀ p, p <+: Normal.tokens text.toList → Token.nesting p < Line.bracketLimit) ∧
      segs.length = 2) ∧
      (∃ c v, ofText text = .ok c ∧ c.eval {} = .ok v ∧ v.truthy = true) ∧
      ∃ ts ∈ segs, ∀ c, ¬ Operand ts c := by
  intro text segs
  have hinits : ∀ p ∈ (Normal.tokens text.toList).inits, Token.nesting p < Line.bracketLimit := by
    decide +kernel
  have htruthy : (match ofText text with
      | .ok c => (match c.eval {} with
        | .ok v => v.truthy
        | .error _ => false)
      | .error _ => false) = true := by decide +kernel
  have hsegs : segs.any (fun ts => (Expr.ofChars? (Token.joined ts)).isNone) = true := by
    decide +kernel
  refine ⟨⟨by decide +kernel, by decide +kernel, fun p hp => hinits p ((List.mem_inits p _).2 hp),
    by decide +kernel⟩, ?_, ?_⟩
  · split at htruthy
    · next c hc =>
      split at htruthy
      · next v hv => exact ⟨c, v, hc, hv, htruthy⟩
      · cases htruthy
    · cases htruthy
  · obtain ⟨ts, hts, hnone⟩ := List.any_eq_true.1 hsegs
    refine ⟨ts, hts, fun c hc => ?_⟩
    obtain ⟨e, he, -⟩ := hc.expr
    simp [he] at hnone

end Condition

end TransactionRules
