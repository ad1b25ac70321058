import TransactionRules.Proofs.Conjunctions
import TransactionRules.Proofs.RowTexts

/-!
# Texts of conditions

The texts of a condition are those of the expression that it comes of, so they are the runs of the marks
of its tokens: what its string tokens spell, in order, where tokens next to each other are one text. A text
with a quote that starts no literal is no condition, unless a backslash of its own stands before another
quote: the space that the normal form writes behind the backslash keeps it from standing before the quote,
and the two quotes become a literal that no token of the text is.
-/

namespace TransactionRules

open Expression

/-! ## Marks of trees -/

namespace Expression

namespace Tree

mutual

/-- The marks of the lexemes in a tree. -/
def marks : Tree → List (Option String)
  | .leaf l => [l.text?]
  | .group _ ts => none :: (marksOf ts ++ [none])

def marksOf : List Tree → List (Option String)
  | [] => []
  | t :: ts => t.marks ++ marksOf ts

end

lemma marksOf_append (ts us : List Tree) : marksOf (ts ++ us) = marksOf ts ++ marksOf us := by
  induction ts with
  | nil => simp [marksOf]
  | cons t ts ih => rw [List.cons_append, marksOf, marksOf, ih, List.append_assoc]

lemma marksOf_singleton (t : Tree) : marksOf [t] = t.marks := by simp [marksOf]

/-- The marks of the lexemes that were read, those before open brackets among them. -/
def stateMarks (st : State) : List (Option String) :=
  (st.1.reverse.flatMap fun entry => marksOf entry.2.reverse ++ [none]) ++ marksOf st.2.reverse

lemma stateMarks_push {st st' : State} {l : Lexeme} (h : push st l = some st') :
    stateMarks st' = stateMarks st ++ [l.text?] := by
  obtain ⟨stack, current⟩ := st
  cases l with
  | opening b =>
    cases h
    simp [stateMarks, marksOf, Lexeme.text?]
  | closing c =>
    cases stack with
    | nil => cases h
    | cons top stack =>
      obtain ⟨b, outer⟩ := top
      simp only [push] at h
      split_ifs at h
      cases h
      simp [stateMarks, marksOf_append, marksOf_singleton, marks, Lexeme.text?]
  | _ =>
    cases h
    simp [stateMarks, marksOf_append, marksOf_singleton, marks]

lemma stateMarks_foldlM {st st' : State} {ls : List Lexeme} (h : ls.foldlM push st = some st') :
    stateMarks st' = stateMarks st ++ ls.map Lexeme.text? := by
  -- Each step adds the mark of its lexeme at the end, whether or not it closes a group.
  induction ls generalizing st with
  | nil =>
    cases h
    simp
  | cons l ls ih =>
    obtain ⟨next, hl, hls⟩ := Option.bind_eq_some_iff.1 h
    rw [ih hls, stateMarks_push hl, List.append_assoc]
    rfl

/-- The trees have the lexemes of their line, in order. -/
lemma marksOf_ofLexemes {ls : List Lexeme} {ts : List Tree} (h : ofLexemes ls = some ts) :
    marksOf ts = ls.map Lexeme.text? := by
  rw [ofLexemes_eq] at h
  obtain ⟨⟨stack, current⟩, hls, hfinish⟩ := Option.bind_eq_some_iff.1 h
  have hmarks := stateMarks_foldlM hls
  cases stack with
  | nil =>
    cases hfinish
    simpa [stateMarks, marksOf] using hmarks
  | cons => cases hfinish

end Tree

namespace Item

mutual

/-- An item has the marks of its tree. -/
lemma marked_ofTree (accepts : List Char → Bool) :
    ∀ (t : Tree) {i : Item}, ofTree accepts t = some i → i.Marked t.marks
  | .leaf l, i, h => by
    have hi : i = .leaf l := by
      cases l with
      | formatted sources =>
        rw [ofTree] at h
        split_ifs at h
        exact (Option.some.inj h).symm
      | _ =>
        rw [ofTree] at h
        · exact (Option.some.inj h).symm
        · simp
    subst hi
    rw [Tree.marks]
    rfl
  | .group b ts, i, h => by
    rw [ofTree] at h
    obtain ⟨is, his, rfl⟩ := Option.map_eq_some_iff.1 h
    rw [Tree.marks]
    exact Grammar.marked_group (marked_ofTrees accepts ts his) b

lemma marked_ofTrees (accepts : List Char → Bool) :
    ∀ (ts : List Tree) {is : List Item}, ofTrees accepts ts = some is →
      Expression.Marked is (Tree.marksOf ts)
  | [], is, h => by
    rw [ofTrees] at h
    cases h
    rw [Tree.marksOf]
    exact .nil
  | t :: ts, is, h => by
    rw [ofTrees] at h
    obtain ⟨i, hi, h⟩ := Option.bind_eq_some_iff.1 h
    obtain ⟨js, hjs, h⟩ := Option.bind_eq_some_iff.1 h
    cases h
    rw [Tree.marksOf]
    exact .cons (marked_ofTree accepts t hi) (marked_ofTrees accepts ts hjs)

end

end Item

end Expression

/-! ## Marks of tokens -/

namespace Token

/-- The text that a string token spells. -/
def text? (t : Token) : Option String := t.lexeme?.bind Lexeme.text?

variable {ts : List Token} {segs : List (List Token)}

lemma map_text?_of_mapM {ls : List Lexeme} (h : ts.mapM lexeme? = some ls) :
    ls.map Lexeme.text? = ts.map text? := by
  have hall := mapM_eq_some_iff.1 h
  clear h
  induction hall with
  | nil => rfl
  | cons hl _ ih => simp [ih, text?, hl]

/-- The items of tokens have their marks. -/
lemma marked_items? {is : List Item} (h : items? ts = some is) : Marked is (ts.map text?) := by
  obtain ⟨us, hus, hitems⟩ := Option.bind_eq_some_iff.1 h
  obtain ⟨ls, hls, htrees⟩ := Option.bind_eq_some_iff.1 hus
  rw [← map_text?_of_mapM hls, ← Tree.marksOf_ofLexemes htrees]
  exact Item.marked_ofTrees _ us hitems

lemma runs_intercalate {t : Token} (ht : t.text? = none) (segs : List (List Token)) :
    runs (([t].intercalate segs).map text?) = segs.flatMap fun ts => runs (ts.map text?) := by
  induction segs with
  | nil => rfl
  | cons ts segs ih =>
    cases segs with
    | nil => simp
    | cons us segs =>
      rw [List.intercalate_cons_cons, List.append_assoc, List.map_append, List.singleton_append,
        List.map_cons, ht, runs_append (by simp), runs_none_cons, ih]
      simp only [List.flatMap_cons]

/-- The normal form of tokens has their texts. -/
lemma runs_arranged (ts : List Token) :
    runs ((Normal.arranged (segments 0 ts)).map text?) = runs (ts.map text?) := by
  have hsegs := segments_ne_nil 0 ts
  have hts : runs (ts.map text?) = (segments 0 ts).flatMap fun seg => runs (seg.map text?) := by
    have hparts := runs_intercalate (t := comma) rfl (segments 0 ts)
    rwa [intercalate_segments] at hparts
  have hbracketed (seg : List Token) : runs ((bracketed seg).map text?) = runs (seg.map text?) := by
    have hleft : leftBracket.text? = none := rfl
    have hright : rightBracket.text? = none := rfl
    rw [bracketed, List.map_cons, List.map_append, List.map_singleton, hleft, hright, runs_bracketed]
  rw [hts]
  obtain ⟨first, rest, hsegments⟩ := List.exists_cons_of_ne_nil hsegs
  cases rest with
  | nil => simp [hsegments, Normal.arranged]
  | cons seg rest =>
    rw [hsegments, Normal.arranged_eq_conjoined (by simp), conjoined, runs_intercalate rfl,
      List.flatMap_map]
    simp only [hbracketed]

end Token

/-! ## Texts of conditions -/

namespace Condition

mutual

/-- The text constants of a condition, in order. -/
def texts : Condition → List String
  | .field _ => []
  | .constant (.text s) => [s]
  | .constant _ => []
  | .all cs => textsOf cs
  | .any cs => textsOf cs
  | .not c => c.texts
  | .negate c => c.texts
  | .chain c rest => c.texts ++ chainTexts rest
  | .call _ target argument => target.texts ++ argument.texts

def textsOf : List Condition → List String
  | [] => []
  | c :: cs => c.texts ++ textsOf cs

def chainTexts : List (Comparison × Condition) → List String
  | [] => []
  | (_, c) :: rest => c.texts ++ chainTexts rest

end

mutual

/-- A condition has the texts of the expression that it comes of. -/
lemma texts?_of_ofExpr : ∀ (e : Expr) {c : Condition}, ofExpr e = .ok c → e.texts? = some c.texts
  | .name s, c, h => by
    rw [ofExpr] at h
    split at h
    · cases h
      rw [Expr.texts?, texts]
    · cases h
  | .constant v, c, h => by
    rw [ofExpr] at h
    obtain ⟨w, hw, rfl⟩ := Outcome.map_eq_ok.1 h
    cases v <;> cases hw <;> simp [Expr.texts?, texts]
  | .connective op es, c, h => by
    cases op
    all_goals
      rw [ofExpr] at h
      obtain ⟨cs, hcs, rfl⟩ := Outcome.map_eq_ok.1 h
      rw [Expr.texts?, textsOf?_of_ofExprs es hcs, texts]
  | .prefixed op e, c, h => by
    rw [ofExpr] at h
    obtain ⟨d, hd, h⟩ := Outcome.bind_eq_ok.1 h
    rw [Expr.texts?, texts?_of_ofExpr e hd]
    cases op with
    | not | minus =>
      cases h
      rw [texts]
    | plus =>
      cases h
      rfl
    | invert => cases h
  | .chain e rest, c, h => by
    rw [ofExpr] at h
    obtain ⟨d, hd, h⟩ := Outcome.bind_eq_ok.1 h
    obtain ⟨ds, hds, h⟩ := Outcome.bind_eq_ok.1 h
    cases h
    rw [Expr.texts?, texts?_of_ofExpr e hd, chainTexts?_of_ofChain rest hds, texts]
    rfl
  | .call f es keywords, c, h => by
    rw [ofExpr.eq_def] at h
    simp only at h
    split at h
    · next target name =>
      split at h
      · cases h
      · split at h
        · next m _ e =>
          split_ifs at h with hkeywords
          obtain ⟨d, hd, h⟩ := Outcome.bind_eq_ok.1 h
          obtain ⟨d', hd', h⟩ := Outcome.bind_eq_ok.1 h
          cases h
          rw [Expr.texts?, if_neg hkeywords, Expr.texts?, Expr.textsOf?_singleton,
            texts?_of_ofExpr target hd, texts?_of_ofExpr e hd', texts]
          rfl
        · cases h
    · cases h
  | .attribute e name, c, h => by
    rw [ofExpr] at h
    cases h
  | .other form depth, c, h => by
    rw [ofExpr] at h
    cases h

lemma textsOf?_of_ofExprs : ∀ (es : List Expr) {cs : List Condition}, ofExprs es = .ok cs →
    Expr.textsOf? es = some (textsOf cs)
  | [], cs, h => by
    rw [ofExprs] at h
    cases h
    rw [Expr.textsOf?, textsOf]
  | e :: es, cs, h => by
    rw [ofExprs] at h
    obtain ⟨c, hc, h⟩ := Outcome.bind_eq_ok.1 h
    obtain ⟨ds, hds, h⟩ := Outcome.bind_eq_ok.1 h
    cases h
    rw [Expr.textsOf?, texts?_of_ofExpr e hc, textsOf?_of_ofExprs es hds, textsOf]
    rfl

lemma chainTexts?_of_ofChain : ∀ (rest : List (Relation × Expr)) {cs : List (Comparison × Condition)},
    ofChain rest = .ok cs → Expr.chainTexts? rest = some (chainTexts cs)
  | [], cs, h => by
    rw [ofChain] at h
    cases h
    rw [Expr.chainTexts?, chainTexts]
  | (r, e) :: rest, cs, h => by
    rw [ofChain] at h
    obtain ⟨op, -, h⟩ := Outcome.bind_eq_ok.1 h
    obtain ⟨c, hc, h⟩ := Outcome.bind_eq_ok.1 h
    obtain ⟨ds, hds, h⟩ := Outcome.bind_eq_ok.1 h
    cases h
    rw [Expr.chainTexts?, texts?_of_ofExpr e hc, chainTexts?_of_ofChain rest hds, chainTexts]
    rfl

end

open Token (LiteralsClosed backslash quote)

/-- The texts of a condition are those that its string tokens spell, in order. -/
lemma texts_of_ofText {text : String} {c : Condition} (hclosed : LiteralsClosed text.toList)
    (hcomment : ∀ t ∈ Token.scan text.toList, t.isOther '#' = false) (h : ofText text = .ok c) :
    c.texts = runs ((Normal.tokens text.toList).map Token.text?) := by
  have hsegs := Token.segments_ne_nil 0 (Normal.tokens text.toList)
  cases hnormal : normalForm text with
  | error e => simp [ofText, hnormal] at h
  | ok normal =>
    obtain ⟨cs, hcs, rfl⟩ := Outcome.map_eq_ok.1 hnormal
    obtain ⟨hne, rfl⟩ := (Normal.ofSegments_eq_ok hsegs).1 hcs
    rw [ofText, hnormal] at h
    obtain ⟨-, e, he, -, -, hc⟩ := ofNormal_eq_ok.1 h
    rw [String.toList_ofList] at he
    have hlegible : ∀ t ∈ Normal.arranged (Token.segments 0 (Normal.tokens text.toList)),
        t.Legible ∧ t.isOther '#' = false := by
      intro t ht
      rcases Normal.mem_arranged ht with ht | ht
      · obtain ⟨seg, hseg, ht⟩ := List.mem_flatten.1 ht
        have ht := Token.mem_of_mem_segments hseg ht
        exact ⟨Token.legible_of_mem_tokens hclosed t ht, hcomment t (List.mem_filter.1 ht).1⟩
      · exact Token.frame_legible t ht
    have hitems := (Token.ofChars?_joined (Normal.arranged_ne_nil hsegs hne) hlegible).1 he
    obtain ⟨is, his, htop⟩ := Option.bind_eq_some_iff.1 hitems.2
    rw [← Token.runs_arranged]
    exact Grammar.reads_top _ _ _ _ (Token.marked_items? his) htop (texts?_of_ofExpr e hc)

/-- A text without a comment in which a quote starts no complete literal is no condition, unless a
backslash that belongs to no literal stands right before another quote. Where all literals are complete, a
condition has exactly the texts that these spell, in order and with neighbours put together. -/
theorem ofText_literals {text : String}
    (hcomment : ∀ t ∈ Token.scan text.toList, t.isOther '#' = false) :
    (∀ q ∈ ['"', '\''], ∀ before after, Token.scan text.toList = before ++ quote q :: after →
      (∀ t ∈ before, t.isQuote = false) → ¬ [backslash, quote q] <:+: after →
        ∃ e ∈ [.normal .emptyConstraint, .nullCharacter, .notExpression], ofText text = .error e) ∧
    (LiteralsClosed text.toList → ∀ c, ofText text = .ok c →
      c.texts = runs ((Normal.tokens text.toList).map Token.text?)) := by
  refine ⟨fun q hq before after hscan hbefore hpair => ?_, fun hclosed c hc =>
    texts_of_ofText hclosed hcomment hc⟩
  refine ofText_of_open (by simpa using hq) hscan (fun t ht => ⟨hbefore t ht, ?_⟩) hpair
  exact hcomment t (by simp [hscan, ht])

/-- Two literals next to each other, and one that stays open. -/
theorem ofText_literals_neighbours :
    (∃ c, ofText "merchant == 'a' \"b\" || category != 'food'" = .ok c ∧ c.texts = ["ab", "food"]) ∧
      ∃ e ∈ [.normal .emptyConstraint, .nullCharacter, .notExpression],
        ofText "merchant == \"abc" = .error e := by
  constructor
  · let text := "merchant == 'a' \"b\" || category != 'food'"
    have hclosed : LiteralsClosed text.toList := by decide +kernel
    have hcomment : ∀ t ∈ Token.scan text.toList, t.isOther '#' = false := by decide +kernel
    have hruns : runs ((Normal.tokens text.toList).map Token.text?) = ["ab", "food"] := by
      decide +kernel
    have hok : (ofText text).isOk = true := by decide +kernel
    cases hc : ofText text with
    | error e => simp [hc, Except.isOk, Except.toBool] at hok
    | ok c => exact ⟨c, rfl, ((ofText_literals hcomment).2 hclosed c hc).trans hruns⟩
  · let before : List Token := [⟨.name, "merchant".toList⟩, ⟨.space, [' ']⟩, ⟨.op, "==".toList⟩,
      ⟨.space, [' ']⟩]
    have hscan : Token.scan "merchant == \"abc".toList =
        before ++ quote '"' :: [⟨.name, "abc".toList⟩] := by decide +kernel
    have hcomment : ∀ t ∈ Token.scan "merchant == \"abc".toList, t.isOther '#' = false := by
      decide +kernel
    exact (ofText_literals hcomment).1 '"' (by simp) before _ hscan (by decide +kernel)
      (by decide +kernel)

/-- A backslash between two quotes that start no literal: the text is a condition with a text that no
token spells. -/
theorem ofText_literals_backslash :
    let text := "merchant == \"\\\""
    (∃ before after, Token.scan text.toList = before ++ quote '"' :: after ∧
      ∀ t ∈ before, t.isQuote = false) ∧
    (∃ c, ofText text = .ok c ∧ c.texts = [" \\ "]) ∧
      runs ((Normal.tokens text.toList).map Token.text?) = [] := by
  intro text
  let before : List Token := [⟨.name, "merchant".toList⟩, ⟨.space, [' ']⟩, ⟨.op, "==".toList⟩,
    ⟨.space, [' ']⟩]
  have htexts : (match ofText text with
      | .ok c => c.texts
      | .error _ => []) = [" \\ "] := by decide +kernel
  refine ⟨⟨before, [backslash, quote '"'], by decide +kernel, by decide +kernel⟩, ?_, by decide +kernel⟩
  split at htexts
  · next c hc => exact ⟨c, hc, htexts⟩
  · cases htexts

end Condition

end TransactionRules
