import TransactionRules.Proofs.Compilation
import TransactionRules.Proofs.NormalForms
import TransactionRules.Proofs.TokenLexemes

/-!
# Quotes that start no literal

A quote becomes a token by itself when no quote closes it in the text behind it. The normal form writes
a space behind every token, so a backslash that is a token too no longer stands before the character
it stood before. A quote behind such a backslash may then close a literal that the text leaves open;
without it the literal stays open in the normal form, and the text is refused.
-/

namespace TransactionRules

open Expression
open scoped Members

namespace Token

variable {q : Char}

/-! ## Literals that stay open -/

/-- After characters that do not close a literal the last one counts as a backslash or it does not,
whatever the quote is. -/
lemma pass_eq {escaped state : Bool} {c : Char} (h : pass q escaped c = some state) :
    state = (!escaped && c == '\\') := by
  unfold pass at h
  split_ifs at h with he hslash hq
  · simp [he, ← Option.some.inj h]
  · simp [he, hslash, ← Option.some.inj h]
  · simp [he, hslash, ← Option.some.inj h]

/-- Whether the next character has a backslash before it. -/
def escapes (escaped : Bool) (cs : List Char) : Bool :=
  cs.foldl (fun escaped c => !escaped && c == '\\') escaped

lemma escapes_of_foldlM {escaped state : Bool} {cs : List Char}
    (h : cs.foldlM (pass q) escaped = some state) : state = escapes escaped cs := by
  induction cs generalizing escaped with
  | nil => exact (Option.some.inj h).symm
  | cons c cs ih =>
    obtain ⟨next, hc, hcs⟩ := Option.bind_eq_some_iff.1 h
    rw [ih hcs, pass_eq hc]
    rfl

lemma escapes_of_notMem {cs : List Char} (h : '\\' ∉ cs) : escapes false cs = false := by
  induction cs with
  | nil => rfl
  | cons c cs ih =>
    simp only [List.mem_cons, not_or] at h
    have hc : (c == '\\') = false := by simpa using Ne.symm h.1
    simpa [escapes, hc] using ih h.2

lemma closing_eq_none {cs : List Char} :
    closing q cs = none ↔ ∃ state, cs.foldlM (pass q) false = some state := by
  induction cs using closing.induct q with
  | case1 => exact ⟨fun _ => ⟨false, rfl⟩, fun _ => rfl⟩
  | case2 => exact ⟨fun _ => ⟨true, rfl⟩, fun _ => rfl⟩
  | case3 c cs ih =>
    rw [closing, Option.map_eq_none_iff, ih]
    simp [pass]
  | case4 c cs hend hpair hq =>
    have hne := ne_backslash hend hpair
    rw [closing.eq_4 _ _ _ hend hpair, if_pos hq]
    simp [pass, hq, hne]
  | case5 c cs hend hpair hq ih =>
    have hne := ne_backslash hend hpair
    rw [closing.eq_4 _ _ _ hend hpair, if_neg hq, Option.map_eq_none_iff, ih]
    simp [pass, hq, hne]

/-- A literal that no quote closes is no literal of an expression. -/
lemma shortBody_eq_none {state : Bool} {cs : List Char} (hq : q ≠ '\\')
    (h : cs.foldlM (pass q) false = some state) : Lexeme.shortBody q cs = none := by
  induction cs using closing.induct q with
  | case1 => rfl
  | case2 =>
    rw [Lexeme.shortBody.eq_3 _ _ _ (by simp), if_neg (by simpa using hq.symm)]
    rfl
  | case3 c cs ih =>
    rw [Lexeme.shortBody.eq_2, ih (by simpa [pass] using h)]
    rfl
  | case4 c cs hend hpair hq =>
    simp [pass, hq, ne_backslash hend hpair] at h
  | case5 c cs hend hpair hq ih =>
    have hne := ne_backslash hend hpair
    rw [Lexeme.shortBody.eq_3 _ _ _ (fun _ _ h => absurd h hne), if_neg hq,
      ih (by simpa [pass, hq, hne] using h)]
    simp

/-! ## Tokens behind an open quote -/

/-- Only a backslash that is a token by itself leaves one before the next token. -/
lemma escapes_chars {t : Token} (h : Scanned t) (hslash : t.isOther '\\' = false) :
    escapes false t.chars = false := by
  cases h with
  | @string q b hq hb =>
    have hne : (q == '\\') = false := by rcases hq with rfl | rfl <;> rfl
    have hbody := escapes_of_foldlM (body_iff.1 hb)
    have happend : escapes false (q :: (b ++ [q])) = (!escapes false b && q == '\\') := by
      simp [escapes, hne, List.foldl_append]
    rw [happend, hne, Bool.and_false]
  | number hcs =>
    refine escapes_of_notMem fun hmem => ?_
    have := mem_of_isNumber hcs hmem
    revert this
    decide
  | op hcs =>
    have hall : ∀ cs ∈ operators, '\\' ∉ cs := by decide
    exact escapes_of_notMem (hall _ hcs)
  | @name c cs hc hcs =>
    refine escapes_of_notMem fun hmem => ?_
    rcases List.mem_cons.1 hmem with rfl | hmem
    · cases hc
    · cases hcs _ hmem
  | space hcs =>
    refine escapes_of_notMem fun hmem => ?_
    have := hcs _ hmem
    revert this
    decide
  | @other c =>
    have hne : c ≠ '\\' := by simpa [isOther] using hslash
    exact escapes_of_notMem (by simpa using hne.symm)

/-- A backslash by itself, and a quote by itself. -/
def backslash : Token := ⟨.other, ['\\']⟩

def quote (q : Char) : Token := ⟨.other, [q]⟩

lemma next_quote (hq : q = '"' ∨ q = '\'') {cs : List Char} (h : closing q cs = none) :
    next q cs = (quote q, cs) := by
  have hopen : (if q == '"' || q == '\'' then closing q cs else none) = none := by
    rw [h]
    exact ite_self _
  unfold next
  rw [hopen]
  rcases hq with rfl | rfl <;> rfl

/-- The tokens behind some tokens of a text are those of the text behind them. -/
lemma scan_flatMap_chars {cs : List Char} {before after : List Token}
    (h : scan cs = before ++ after) : scan (after.flatMap chars) = after := by
  induction before generalizing cs with
  | nil =>
    rw [List.nil_append] at h
    rw [← h, flatMap_chars_scan]
  | cons t before ih =>
    cases cs with
    | nil => simp at h
    | cons c cs =>
      rw [scan_cons, List.cons_append] at h
      exact ih (List.cons.inj h).2

/-- A quote that is a token by itself is not closed in the text behind it. -/
lemma closing_of_scan (hq : q = '"' ∨ q = '\'') {cs : List Char} {before after : List Token}
    (h : scan cs = before ++ quote q :: after) :
    closing q (after.flatMap chars) = none ∧ scan (after.flatMap chars) = after := by
  have hscan := scan_flatMap_chars h
  have hchars : (quote q :: after).flatMap chars = q :: after.flatMap chars := rfl
  rw [hchars, scan_cons] at hscan
  have hopen : closing q (after.flatMap chars) = none := by
    cases hclosing : closing q (after.flatMap chars) with
    | none => rfl
    | some r =>
      have hnext : (next q (after.flatMap chars)).1 = ⟨.string, q :: r.1⟩ := by
        have hquote : (q == '"' || q == '\'') = true := by simpa using hq
        unfold next
        rw [if_pos hquote, hclosing]
      rw [hnext] at hscan
      cases (List.cons.inj hscan).1
  rw [next_quote hq hopen] at hscan
  exact ⟨hopen, (List.cons.inj hscan).2⟩

/-- No token of an open literal closes it by itself, if no quote is a token right behind a backslash
that is one. -/
lemma exists_state_of_scan (hq : q = '"' ∨ q = '\'') {cs : List Char} {escaped state : Bool}
    (h : cs.foldlM (pass q) escaped = some state) (hpair : ¬ [backslash, quote q] <:+: scan cs)
    (hhead : escaped = true → (scan cs).head? ≠ some (quote q)) :
    ∀ t ∈ scan cs, ∃ state, t.chars.foldlM (pass q) false = some state := by
  induction hn : cs.length using Nat.strongRecOn generalizing cs escaped state with
  | ind n ih =>
    cases cs with
    | nil => simp
    | cons c cs =>
      have hscan := scan_cons c cs
      have happend := append_next c cs
      have hlength := length_next_lt c cs
      have hscanned := scanned_next c cs
      rw [hscan] at hpair hhead ⊢
      have hrest : ¬ [backslash, quote q] <:+: scan (next c cs).2 := fun hpart =>
        hpair (hpart.trans (List.suffix_cons _ _).isInfix)
      have hplain {state : Bool} (h : (c :: cs).foldlM (pass q) false = some state) :
          ∀ t ∈ (next c cs).1 :: scan (next c cs).2,
            ∃ state, t.chars.foldlM (pass q) false = some state := by
        rw [← happend, List.foldlM_append] at h
        obtain ⟨middle, hfirst, htail⟩ := Option.bind_eq_some_iff.1 h
        intro t ht
        rcases List.mem_cons.1 ht with rfl | ht
        · exact ⟨middle, hfirst⟩
        · refine ih _ (hn ▸ hlength) htail hrest (fun hmiddle hquote => ?_) rfl t ht
          have hslash : (next c cs).1 = backslash := by
            by_contra hne
            have hother : (next c cs).1.isOther '\\' = false := by
              by_contra hother
              simp only [isOther, Bool.not_eq_false, Bool.and_eq_true, beq_iff_eq] at hother
              exact hne (by rw [backslash, ← hother.1, ← hother.2])
            rw [escapes_of_foldlM hfirst, escapes_chars hscanned hother] at hmiddle
            cases hmiddle
          obtain ⟨more, hmore⟩ : ∃ more, scan (next c cs).2 = quote q :: more := by
            cases hs : scan (next c cs).2 with
            | nil => simp [hs] at hquote
            | cons u more => exact ⟨more, by simpa [hs] using hquote⟩
          rw [hslash, hmore] at hpair
          exact hpair (List.prefix_append [backslash, quote q] more).isInfix
      cases escaped with
      | false => exact hplain h
      | true =>
        have htail : cs.foldlM (pass q) false = some state := h
        by_cases hcq : c = q
        · subst hcq
          rw [next_quote hq (closing_eq_none.2 ⟨state, htail⟩)] at hhead
          exact absurd rfl (hhead rfl)
        · by_cases hslash : c = '\\'
          · subst hslash
            have hnext : next '\\' cs = (backslash, cs) := rfl
            rw [hnext] at hrest hlength ⊢
            intro t ht
            rcases List.mem_cons.1 ht with rfl | ht
            · exact ⟨true, rfl⟩
            · exact ih _ (hn ▸ hlength) htail hrest (by simp) rfl t ht
          · have hwhole : (c :: cs).foldlM (pass q) false = some state := by
              simpa [pass, hcq, hslash] using htail
            exact hplain hwhole

/-! ## The line of an open literal -/

/-- A word that does not close a literal. -/
def StaysOpen (q : Char) (t : Token) : Prop :=
  ∃ state, (Line.unify t.word).foldlM (pass q) false = some state

lemma staysOpen_of_chars (hq : q = '"' ∨ q = '\'') {t : Token} {state : Bool}
    (h : t.chars.foldlM (pass q) false = some state) : StaysOpen q t := by
  have hbreak : q ∉ ['\r', '\n'] := by rcases hq with rfl | rfl <;> decide
  rw [StaysOpen, foldlM_pass_unify hbreak]
  rcases word_cases t with hword | ⟨-, hword⟩
  · exact ⟨state, hword ▸ h⟩
  · have hall : ∀ q ∈ ['"', '\''], ∀ cs ∈ rewritten, cs.foldlM (pass q) false = some false := by
      decide
    exact ⟨false, hall q (by simpa using hq) _ hword⟩

/-- A space behind a word takes the backslash away. -/
lemma state_joined (hspace : q ≠ ' ') {ts : List Token} (h : ∀ t ∈ ts, StaysOpen q t) :
    ∃ state, (Line.unify (joined ts)).foldlM (pass q) false = some state := by
  rw [unify_joined]
  induction ts with
  | nil => exact ⟨false, rfl⟩
  | cons t ts ih =>
    obtain ⟨state, ht⟩ := h t (by simp)
    have htail := ih fun u hu => h u (by simp [hu])
    cases ts with
    | nil => exact ⟨state, by simpa using ht⟩
    | cons u ts =>
      have hpass : pass q state ' ' = some false := by
        cases state <;> simp [pass, hspace.symm]
      simpa [List.intercalate_cons_cons, List.foldlM_append, ht, hpass] using htail

/-- A line in which a quote is a word has no lexemes, if no word behind it closes a literal. -/
lemma lexemes_quote (hq : q = '"' ∨ q = '\'') {before after : List Token}
    (hbefore : ∀ t ∈ before, t.Legible ∧ t.isOther '#' = false) (hafter : ∀ t ∈ after, StaysOpen q t)
    (d : Nat) : Line.lexemes d (Line.unify (joined (before ++ quote q :: after))) = none := by
  rw [unify_joined]
  induction before generalizing d with
  | nil =>
    have hspace : q ≠ ' ' := by rcases hq with rfl | rfl <;> decide
    have hslash : q ≠ '\\' := by rcases hq with rfl | rfl <;> decide
    obtain ⟨rest, hline, hrest, state, hstate⟩ : ∃ rest,
        [' '].intercalate ((quote q :: after).map fun t => Line.unify t.word) = q :: rest ∧
          Parted rest ∧ ∃ state, rest.foldlM (pass q) false = some state := by
      have hword : Line.unify (quote q).word = [q] := by rcases hq with rfl | rfl <;> rfl
      rw [List.map_cons, hword]
      cases after with
      | nil => exact ⟨[], by simp, by simp [Parted], false, rfl⟩
      | cons u us =>
        obtain ⟨state, hstate⟩ := state_joined hspace hafter
        rw [unify_joined] at hstate
        refine ⟨' ' :: [' '].intercalate ((u :: us).map fun t => Line.unify t.word), ?_,
          by simp [Parted], state, ?_⟩
        · rw [List.map_cons, List.intercalate_cons_cons]
          simp
        · simpa [pass, hspace.symm] using hstate
    have hread : Lexeme.read (q :: rest) = none := by
      have hsingle : ∀ c d r, rest = c :: d :: r → (c == q && d == q) = false := by
        rintro c d r rfl
        rw [hrest c (by simp)]
        simp [hspace.symm]
      have hliteral : Lexeme.literal? ⟨false, false, false⟩ q rest = none := by
        rw [literal?_of_single hsingle, shortBody_eq_none hslash hstate]
        rfl
      have hnumber : Lexeme.startsNumber (q :: rest) = false := by rcases hq with rfl | rfl <;> rfl
      have hquote : (q == '"' || q == '\'') = true := by simpa using hq
      rw [Lexeme.read, hnumber, if_neg (by simp)]
      simp only [hquote, if_true, hliteral]
    have hhead : q ∉ [' ', '\t', '\x0c', '#', '\n', '\\'] := by
      rcases hq with rfl | rfl <;> decide
    simp only [List.mem_cons, List.not_mem_nil, or_false, not_or] at hhead
    rw [List.nil_append, hline, Line.lexemes.eq_def]
    simp [hhead, hread]
  | cons t before ih =>
    obtain ⟨ht, hhash⟩ := hbefore t (by simp)
    have htail (e : Nat) := ih (fun u hu => hbefore u (by simp [hu])) e
    obtain ⟨u, us, hus⟩ := List.exists_cons_of_ne_nil
      (show before ++ quote q :: after ≠ [] by simp)
    rw [hus] at htail
    rw [List.cons_append, hus, List.map_cons, List.map_cons, List.intercalate_cons_cons,
      List.append_assoc, List.singleton_append, lexemes_token ht hhash (by simp [Parted])]
    rw [List.map_cons] at htail
    simp [Sign.lexemes_space, htail]

lemma ofChars_quote (hq : q = '"' ∨ q = '\'') {before after : List Token}
    (hbefore : ∀ t ∈ before, t.Legible ∧ t.isOther '#' = false)
    (hafter : ∀ t ∈ after, StaysOpen q t) :
    Line.ofChars (joined (before ++ quote q :: after)) = none := by
  have hnone := lexemes_quote hq hbefore hafter 0
  cases before with
  | nil =>
    obtain ⟨rest, hjoined, hrest⟩ := exists_joined_cons (quote q) after
    have hword : Line.unify (quote q).word = q :: [] := by rcases hq with rfl | rfl <;> rfl
    have hhead : q ∉ [' ', '\t', '\x0c', '#', '\n'] := by rcases hq with rfl | rfl <;> decide
    rw [hword, List.cons_append] at hjoined
    rw [List.nil_append] at hnone ⊢
    rw [ofChars_eq_lexemes hjoined hhead (fun _ => rfl) hrest, hnone]
  | cons t before =>
    obtain ⟨ht, hhash⟩ := hbefore t (by simp)
    obtain ⟨c, cs, hword, hhead, hslash⟩ := exists_word ht hhash
    obtain ⟨rest, hjoined, hrest⟩ := exists_joined_cons t (before ++ quote q :: after)
    rw [hword, List.cons_append] at hjoined
    rw [List.cons_append] at hnone ⊢
    rw [ofChars_eq_lexemes hjoined hhead (fun hc => (hslash hc).1) hrest, hnone]

end Token

/-! ## Texts with an open literal -/

section

open Token

variable {q : Char} {before after : List Token}

lemma Token.frame_legible : ∀ t ∈ frame, t.Legible ∧ t.isOther '#' = false := by
  have hbracket {c : Char} (hc : c = '(' ∨ c = ')') : Legible ⟨.other, [c]⟩ := by
    refine ⟨.other ?_ ?_ ?_, by simp, ?_⟩ <;> rcases hc with rfl | rfl <;> decide
  intro t ht
  simp only [frame, List.mem_cons, List.not_mem_nil, or_false] at ht
  rcases ht with rfl | rfl | rfl
  · exact ⟨hbracket (.inl rfl), rfl⟩
  · exact ⟨hbracket (.inr rfl), rfl⟩
  · exact ⟨⟨.op (by decide), by decide, rfl⟩, rfl⟩

lemma Token.frame_staysOpen (hq : q = '"' ∨ q = '\'') : ∀ t ∈ frame, StaysOpen q t := by
  intro t ht
  have hall : ∀ q ∈ ['"', '\''], ∀ t ∈ frame, t.chars.foldlM (pass q) false = some false := by decide
  exact staysOpen_of_chars hq (hall q (by simpa using hq) t ht)

/-- A text that leaves a literal open is no condition, unless a backslash that belongs to no literal
stands right before another quote. -/
theorem Condition.ofText_of_open {text : String} (hq : q = '"' ∨ q = '\'')
    (hscan : scan text.toList = before ++ quote q :: after)
    (hbefore : ∀ t ∈ before, t.isQuote = false ∧ t.isOther '#' = false)
    (hpair : ¬ [backslash, quote q] <:+: after) :
    ∃ e ∈ [.normal .emptyConstraint, .nullCharacter, .notExpression],
      Condition.ofText text = .error e := by
  have htokens : Normal.tokens text.toList =
      before.filter (·.kind != .space) ++ quote q :: after.filter (·.kind != .space) := by
    rw [Normal.tokens, hscan, List.filter_append, List.filter_cons_of_pos rfl]
  have hcomma : (quote q).isOther ',' = false := by rcases hq with rfl | rfl <;> rfl
  obtain ⟨segs, last, first, rest, hsegments, hfirst, hrest⟩ :=
    segments_append_cons hcomma 0 (before.filter (·.kind != .space))
      (after.filter (·.kind != .space))
  rw [← htokens] at hsegments
  have hafter : ∀ t ∈ after, StaysOpen q t := by
    obtain ⟨hopen, htail⟩ := closing_of_scan hq hscan
    obtain ⟨state, hstate⟩ := closing_eq_none.1 hopen
    intro t ht
    obtain ⟨state, hchars⟩ := exists_state_of_scan hq hstate (by rwa [htail]) (by simp) t (by rwa [htail])
    exact staysOpen_of_chars hq hchars
  unfold Condition.ofText normalForm Normal.ofChars
  rw [hsegments]
  cases hnormal : Normal.ofSegments (segs ++ (last ++ quote q :: first) :: rest) with
  | error e =>
    have hmem : last ++ quote q :: first ∈ segs ++ (last ++ quote q :: first) :: rest := by simp
    obtain rfl := Normal.ofSegments_eq_error hmem (by simp) hnormal
    exact ⟨_, by simp, rfl⟩
  | ok cs =>
    obtain ⟨-, rfl⟩ := (Normal.ofSegments_eq_ok (by simp)).1 hnormal
    obtain ⟨bs, as, harranged, hbs, has⟩ :=
      Normal.arranged_append_cons segs rest last first (quote q)
    have hnone : Line.ofChars (Token.joined (bs ++ quote q :: as)) = none := by
      refine ofChars_quote hq (fun t ht => ?_) fun t ht => ?_
      · rcases hbs t ht with ht | ht
        · obtain ⟨ht, hspace⟩ := List.mem_filter.1 (hfirst t ht)
          have hscanned := scanned_scan text.toList t (by simp [hscan, ht])
          exact ⟨⟨hscanned, by simpa using hspace, (hbefore t ht).1⟩, (hbefore t ht).2⟩
        · exact frame_legible t ht
      · rcases has t ht with ht | ht
        · exact hafter t (List.mem_filter.1 (hrest t ht)).1
        · exact frame_staysOpen hq t ht
    rw [harranged]
    have hnormal : Condition.ofNormal (String.ofList (Token.joined (bs ++ quote q :: as))) =
        if (Token.joined (bs ++ quote q :: as)).contains '\x00' then .error .nullCharacter
        else .error .notExpression := by
      simp [Condition.ofNormal, Expr.ofChars?, hnone]
    simp only [Except.map]
    rw [hnormal]
    split_ifs
    · exact ⟨_, by simp, rfl⟩
    · exact ⟨_, by simp, rfl⟩

end

end TransactionRules
