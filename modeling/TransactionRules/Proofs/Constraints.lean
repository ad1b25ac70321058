import TransactionRules.Proofs.CompilerRuns
import TransactionRules.Proofs.Conjunctions

/-!
# Constraints of a rule

Texts that are conditions by themselves are the constraints of one rule when they stand in a list with
commas, or between brackets with `&&`. Both have the same normal form from two constraints on, and a
rule with either matches the transactions that every rule with a single one of the constraints matches
(`Compiler.holds_constraints`), in whatever order they stand and whichever of them fail.
-/

namespace TransactionRules

open Expression

/-- A text that is a condition by itself, with its literals closed, no comment, no comma outside
brackets and no more brackets inside each other than a line may have. -/
structure Constraint (text : String) : Prop where
  compiles : ∃ c, Condition.ofText text = .ok c
  closed : Token.LiteralsClosed text.toList
  noComment : ∀ t ∈ Token.scan text.toList, t.isOther '#' = false
  nesting : ∀ p, p <+: Normal.tokens text.toList → Token.nesting p < Line.bracketLimit
  single : ∀ p, p ++ [Token.comma] <+: Normal.tokens text.toList → Token.depth p ≠ 0

/-- The expression of the text is nested as deeply as it may be. -/
def Condition.Deepest (text : String) : Prop :=
  ∃ normal e, normalForm text = .ok normal ∧ Expr.ofChars? normal.toList = some e ∧
    e.depth = Expr.depthLimit

/-- Constraints with commas between them. -/
def commaList (texts : List String) : String := ", ".intercalate texts

/-- Constraints between brackets, as operands of one conjunction. -/
def inBrackets (texts : List String) : String :=
  " && ".intercalate (texts.map fun text => "(" ++ text ++ ")")

/-! ## Single constraints -/

namespace Constraint

variable {text : String}

lemma iff_inits : Constraint text ↔ (Condition.ofText text).isOk = true ∧
    Token.LiteralsClosed text.toList ∧ (∀ t ∈ Token.scan text.toList, t.isOther '#' = false) ∧
    ∀ p ∈ (Normal.tokens text.toList).inits, Token.nesting p < Line.bracketLimit ∧
      (p.getLast? = some Token.comma → Token.depth p.dropLast ≠ 0) := by
  have hcompiles : (∃ c, Condition.ofText text = .ok c) ↔ (Condition.ofText text).isOk = true := by
    cases Condition.ofText text <;> simp [Except.isOk, Except.toBool]
  constructor
  · rintro ⟨hc, hclosed, hcomment, hnesting, hsingle⟩
    refine ⟨hcompiles.1 hc, hclosed, hcomment, fun p hp => ?_⟩
    rw [List.mem_inits] at hp
    refine ⟨hnesting p hp, fun hlast => ?_⟩
    obtain ⟨q, rfl⟩ := List.getLast?_eq_some_iff.1 hlast
    rw [List.dropLast_concat]
    exact hsingle q hp
  · rintro ⟨hc, hclosed, hcomment, hinits⟩
    refine ⟨hcompiles.2 hc, hclosed, hcomment, fun p hp => ?_, fun p hp => ?_⟩
    · exact (hinits p ((List.mem_inits p _).2 hp)).1
    · simpa using (hinits (p ++ [Token.comma]) ((List.mem_inits _ _).2 hp)).2

instance (text : String) : Decidable (Constraint text) := decidable_of_iff' _ iff_inits

lemma segments_eq (h : Constraint text) :
    Token.segments 0 (Normal.tokens text.toList) = [Normal.tokens text.toList] :=
  Token.segments_eq_singleton fun p hp => by simpa using h.single p hp

/-- A constraint is read as its tokens are. -/
lemma exists_reading (h : Constraint text) :
    ∃ r : Reading, r.Of (Normal.tokens text.toList) ∧ Condition.ofText text = .ok r.condition ∧
      (r.expr.depth = Expr.depthLimit → Condition.Deepest text) := by
  obtain ⟨c, hc⟩ := h.compiles
  cases hnormal : normalForm text with
  | error e => simp [Condition.ofText, hnormal] at hc
  | ok normal =>
    obtain ⟨cs, hcs, rfl⟩ := Outcome.map_eq_ok.1 hnormal
    rw [Normal.ofChars, h.segments_eq] at hcs
    obtain ⟨hne, rfl⟩ := (Normal.ofSegments_eq_ok (by simp)).1 hcs
    have hlegible : ∀ t ∈ Normal.tokens text.toList, t.Legible ∧ t.isOther '#' = false := by
      intro t ht
      exact ⟨Token.legible_of_mem_tokens h.closed t ht, h.noComment t (List.mem_filter.1 ht).1⟩
    have hofNormal : Condition.ofText text =
        Condition.ofNormal (String.ofList (Token.joined (Normal.tokens text.toList))) := by
      rw [Condition.ofText, hnormal]
      rfl
    rw [hofNormal] at hc
    obtain ⟨r, hr, hcondition, hexpr⟩ := Reading.exists_of_ofNormal (hne _ (by simp)) hlegible hc
    refine ⟨r, hr, by rw [hofNormal, hc, hcondition], fun hdepth => ?_⟩
    exact ⟨_, r.expr, hnormal, by rw [String.toList_ofList]; exact hexpr, hdepth⟩

end Constraint

/-! ## Texts of several constraints -/

section

open Token (LiteralsClosed isStop comma conjunction bracketed leftBracket rightBracket)

/-- Parts that keep their tokens up to a stop keep them between separators that start with one. -/
lemma Normal.tokens_intercalate {α : Type} {x : Token} {c : Char} {sep : List Char}
    (hstop : isStop c = true) (hsep : ∀ cs, tokens (c :: (sep ++ cs)) = x :: tokens cs)
    {f : α → List Char} {g : α → List Token} {as : List α}
    (h : ∀ a ∈ as, ∀ rest, (∀ c ∈ rest.head?, isStop c = true) →
      tokens (f a ++ rest) = g a ++ tokens rest) :
    tokens ((c :: sep).intercalate (as.map f)) = [x].intercalate (as.map g) := by
  induction as with
  | nil => simp [tokens]
  | cons a as ih =>
    have ha := h a (by simp)
    have htail := ih fun b hb => h b (by simp [hb])
    cases as with
    | nil => simpa [tokens] using ha [] (by simp)
    | cons b as =>
      rw [List.map_cons, List.map_cons] at htail
      rw [List.map_cons, List.map_cons, List.intercalate_cons_cons, List.append_assoc,
        List.cons_append, ha _ (by simp [hstop]), hsep, htail]
      simp [List.intercalate_cons_cons]

variable {texts : List String}

lemma tokens_commaList (h : ∀ s ∈ texts, LiteralsClosed s.toList) :
    Normal.tokens (commaList texts).toList =
      [comma].intercalate (texts.map fun s => Normal.tokens s.toList) := by
  have hcomma (cs : List Char) : Normal.tokens (',' :: ' ' :: cs) = comma :: Normal.tokens cs := by
    have hstarts : Token.Starts comma (' ' :: cs) := ⟨',', [], rfl, rfl⟩
    exact (hstarts.tokens_eq (by decide)).trans (by rw [Normal.tokens_blank rfl])
  rw [commaList, String.toList_intercalate]
  exact Normal.tokens_intercalate (by decide) hcomma fun s hs rest hrest =>
    Normal.tokens_append (h s hs) hrest

lemma tokens_inBrackets (h : ∀ s ∈ texts, LiteralsClosed s.toList) :
    Normal.tokens (inBrackets texts).toList =
      Token.conjoined (texts.map fun s => Normal.tokens s.toList) := by
  have hleft (cs : List Char) : Normal.tokens ('(' :: cs) = leftBracket :: Normal.tokens cs :=
    (show Token.Starts leftBracket cs from ⟨'(', [], rfl, rfl⟩).tokens_eq (by decide)
  have hright (cs : List Char) : Normal.tokens (')' :: cs) = rightBracket :: Normal.tokens cs :=
    (show Token.Starts rightBracket cs from ⟨')', [], rfl, rfl⟩).tokens_eq (by decide)
  have hand (cs : List Char) :
      Normal.tokens (' ' :: '&' :: '&' :: ' ' :: cs) = conjunction :: Normal.tokens cs := by
    have hstarts : Token.Starts conjunction (' ' :: cs) := ⟨'&', ['&'], rfl, rfl⟩
    rw [Normal.tokens_blank rfl]
    exact (hstarts.tokens_eq (by decide)).trans (by rw [Normal.tokens_blank rfl])
  have hparts : (texts.map fun s => "(" ++ s ++ ")").map String.toList =
      texts.map fun s => '(' :: (s.toList ++ [')']) := by simp
  rw [inBrackets, String.toList_intercalate, hparts, Token.conjoined, List.map_map]
  refine Normal.tokens_intercalate (by decide) hand fun s hs rest hrest => ?_
  rw [List.cons_append, List.append_assoc, hleft, Normal.tokens_append (h s hs) (by simp; decide),
    List.singleton_append, hright]
  simp [bracketed]

/-- The normal form of several constraints. -/
def conjunctionForm (texts : List String) : String :=
  String.ofList (Token.joined (Token.conjoined (texts.map fun s => Normal.tokens s.toList)))

end

section

variable {texts : List String}

/-- What the tokens of constraints have in common. -/
lemma Constraint.tokens (h : ∀ s ∈ texts, Constraint s) :
    ∀ ts ∈ texts.map fun s => Normal.tokens s.toList,
      ts ≠ [] ∧ Token.segments 0 ts = [ts] ∧ Token.depth ts = 0 ∧ ∀ p, p <+: ts → 0 ≤ Token.depth p := by
  intro ts hts
  obtain ⟨s, hs, rfl⟩ := List.mem_map.1 hts
  obtain ⟨r, hr, -⟩ := (h s hs).exists_reading
  exact ⟨hr.ne_nil, (h s hs).segments_eq, hr.depth_tokens.2, hr.depth_tokens.1⟩

lemma normalForm_commaList (hlen : 2 ≤ texts.length) (h : ∀ s ∈ texts, Constraint s) :
    normalForm (commaList texts) = .ok (conjunctionForm texts) := by
  have htokens := Constraint.tokens h
  have hne : texts.map (fun s => Normal.tokens s.toList) ≠ [] := by
    simpa using List.length_pos_iff.1 (Nat.lt_of_lt_of_le Nat.two_pos hlen)
  have hsegments : Normal.ofSegments (texts.map fun s => Normal.tokens s.toList) =
      .ok (Token.joined (Normal.arranged (texts.map fun s => Normal.tokens s.toList))) :=
    (Normal.ofSegments_eq_ok hne).2 ⟨fun ts hts => (htokens ts hts).1, rfl⟩
  rw [normalForm, Normal.ofChars, tokens_commaList fun s hs => (h s hs).closed,
    Token.segments_intercalate hne fun ts hts => ⟨(htokens ts hts).2.1, (htokens ts hts).2.2.1⟩,
    hsegments, Normal.arranged_eq_conjoined (by simpa using hlen)]
  rfl

lemma normalForm_inBrackets (hne : texts ≠ []) (h : ∀ s ∈ texts, Constraint s) :
    normalForm (inBrackets texts) = .ok (conjunctionForm texts) := by
  have htokens := Constraint.tokens h
  have hparts : texts.map (fun s => Normal.tokens s.toList) ≠ [] := by simpa using hne
  have hsegments := Token.segments_conjoined hparts (fun ts hts => (htokens ts hts).2.2.2)
    (fun ts hts => (htokens ts (List.dropLast_subset _ hts)).2.2.1)
  rw [normalForm, Normal.ofChars, tokens_inBrackets fun s hs => (h s hs).closed, hsegments,
    (Normal.ofSegments_eq_ok (by simp)).2 ⟨by simpa using Token.conjoined_ne_nil hparts, rfl⟩]
  rfl

/-- The conjunction of constraints holds where all of them hold, in every order of them. -/
lemma Condition.ofNormal_conjunctionForm (hne : texts ≠ []) (h : ∀ s ∈ texts, Constraint s) :
    (∃ c, Condition.ofNormal (conjunctionForm texts) = .ok c ∧ ∀ t, c.Holds t ↔
      ∀ s ∈ texts, ∀ d, Condition.ofText s = .ok d → d.Holds t) ∨
      Condition.ofNormal (conjunctionForm texts) = .error .tooDeep ∧ 2 ≤ texts.length ∧
        ∃ s ∈ texts, Condition.Deepest s := by
  obtain ⟨qs, rfl, hqs⟩ := exists_beside fun s hs => (h s hs).exists_reading
  let parts := qs.map fun q => (Normal.tokens q.1.toList, q.2)
  have hparts : parts ≠ [] := by simpa [parts] using hne
  have hreadings : ∀ p ∈ parts, p.2.Of p.1 := by
    intro p hp
    obtain ⟨q, hq, rfl⟩ := List.mem_map.1 hp
    exact (hqs q hq).1
  have hnesting : ∀ p ∈ parts, ∀ ts, ts <+: p.1 → Token.nesting ts < Line.bracketLimit := by
    intro p hp
    obtain ⟨q, hq, rfl⟩ := List.mem_map.1 hp
    exact (h q.1 (List.mem_map_of_mem hq)).nesting
  have hform : conjunctionForm (qs.map Prod.fst) =
      String.ofList (Token.joined (Token.conjoined (parts.map Prod.fst))) := by
    rw [conjunctionForm, List.map_map, List.map_map]
    rfl
  rcases Reading.ofNormal_conjoined hparts hreadings hnesting with ⟨c, hc, hholds⟩ | hdeep
  · refine .inl ⟨c, by rw [hform, hc], fun t => ?_⟩
    rw [hholds, List.forall_mem_map, List.forall_mem_map]
    refine forall₂_congr fun q hq => ?_
    rw [(hqs q hq).2.1]
    simp
  · obtain ⟨herror, hlen, p, hp, hdepth⟩ := hdeep
    obtain ⟨q, hq, rfl⟩ := List.mem_map.1 hp
    exact .inr ⟨by rw [hform, herror], by simpa [parts] using hlen, q.1, List.mem_map_of_mem hq,
      (hqs q hq).2.2 hdepth⟩

/-- The same of a text that states the constraints in either way. -/
lemma Condition.ofText_constraints {whole : String} (hne : texts ≠ [])
    (h : ∀ s ∈ texts, Constraint s) (hwhole : whole = commaList texts ∨ whole = inBrackets texts) :
    (∃ c, Condition.ofText whole = .ok c ∧ ∀ t, c.Holds t ↔
      ∀ s ∈ texts, ∀ d, Condition.ofText s = .ok d → d.Holds t) ∨
      Condition.ofText whole = .error .tooDeep ∧ 2 ≤ texts.length ∧
        ∃ s ∈ texts, Condition.Deepest s := by
  have hform (hnormal : normalForm whole = .ok (conjunctionForm texts)) :
      Condition.ofText whole = Condition.ofNormal (conjunctionForm texts) := by
    rw [Condition.ofText, hnormal]
  rcases hwhole with rfl | rfl
  · rcases texts with _ | ⟨s, _ | ⟨u, texts⟩⟩
    · exact absurd rfl hne
    · -- a list of one constraint is the constraint itself
      obtain ⟨c, hc⟩ := (h s (by simp)).compiles
      have hsingle : commaList [s] = s := String.intercalate_singleton
      exact .inl ⟨c, by rw [hsingle, hc], fun t => by simp [hc]⟩
    · rw [hform (normalForm_commaList (by simp) h)]
      exact Condition.ofNormal_conjunctionForm hne h
  · rw [hform (normalForm_inBrackets hne h)]
    exact Condition.ofNormal_conjunctionForm hne h

end

/-! ## Rules with several constraints -/

namespace Compiler

/-- The rule was compiled from the condition, by a compiler with any past. -/
def CompiledFrom (text : String) (r : CompiledRule) : Prop :=
  ∃ (past : List Request) (source : Rule) (c' : Compiler) (events : List Event),
    conditionText source.condition = .ok text ∧
      (serveAll {} past).1.compileRule source = .ok (c', r, events)

section

variable {text : String} {r : CompiledRule}

/-- An active rule with a category is compiled exactly if its condition is one. -/
lemma Sound.compileRule_of_text {c : Compiler} (h : c.Sound) {source : Rule}
    (hactive : source.active.truthy = true) (hcategory : source.category.isSome = true)
    (htext : conditionText source.condition = .ok text) :
    (∀ condition, Condition.ofText text = .ok condition →
      ∃ c' w events, c.compileRule source = .ok (c', w, events)) ∧
    ∀ e, Condition.ofText text = .error e →
      c.compileRule source = .error (.badCondition source.id source.condition e) := by
  obtain ⟨category, hcategory⟩ := Option.isSome_iff_exists.1 hcategory
  constructor
  · intro condition hcondition
    obtain ⟨c', p, events, hc, -, -⟩ := h.compile_of_ok hcondition
    exact ⟨c', _, events, by simp [compileRule, hactive, hcategory, htext, hc]; rfl⟩
  · intro e he
    simp [compileRule, hactive, hcategory, htext, h.compile_of_error he]

lemma CompiledFrom.ofText_eq_ok (h : CompiledFrom text r) :
    Condition.ofText text = .ok r.predicate.condition := by
  obtain ⟨past, source, c', events, htext, hrule⟩ := h
  have hsound := (wellFiled_new.serveAll past).wellFiled.sound
  obtain ⟨-, text', htext', hcompile⟩ := compileRule_cases hrule
  rw [htext] at htext'
  cases htext'
  cases hcondition : Condition.ofText text with
  | error e =>
    rw [hsound.compile_of_error hcondition] at hcompile
    cases hcompile
  | ok condition =>
    obtain ⟨_, p, _, hp, rfl, -⟩ := hsound.compile_of_ok hcondition
    rw [hcompile] at hp
    cases hp
    rfl

lemma CompiledFrom.holds_iff (h : CompiledFrom text r) (t : Transaction) :
    r.holds t = true ↔ ∀ d, Condition.ofText text = .ok d → d.Holds t := by
  have hholds : r.holds t = true ↔ r.predicate.condition.Holds t := by
    rw [CompiledRule.holds, CompiledRule.outcome, Condition.Holds]
    cases (r.predicate.condition.eval t).map Value.truthy <;> simp
  simp [hholds, h.ofText_eq_ok]

end

end Compiler

end TransactionRules
