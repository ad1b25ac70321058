import TransactionRules.Proofs.StrayQuotes

/-!
# Where tokens end

Blanks, brackets and commas go on no token but a blank or a literal (`Token.isStop`). So a token that
is neither of these, nor a quote by itself, is found again wherever the text behind it stays the same
up to a stop (`Token.Starts.loosened`), and texts beside each other have the tokens of each of them if
the second one starts with a stop (`Normal.tokens_append`).
-/

namespace TransactionRules

open scoped Members

namespace Token

/-- The character goes on no token but a blank or a literal. -/
def isStop (c : Char) : Bool :=
  !(isDecimalDigit c || isNameChar c || ['.', '+', '-', '=', '&', '|'].contains c)

lemma isStop_of_isBlank {c : Char} (h : isBlank c = true) : isStop c = true := by
  have hall : ∀ c ∈ Sign.blanks, isStop c = true := by decide
  exact hall c (Sign.mem_blanks h)

/-- The second text starts like the first one, up to a stop or its end. -/
inductive Loosened : List Char → List Char → Prop
  | apart {rest rest' : List Char} (h : ∀ c ∈ rest'.head?, isStop c = true) : Loosened rest rest'
  | cons (c : Char) {rest rest' : List Char} (h : Loosened rest rest') :
      Loosened (c :: rest) (c :: rest')

namespace Loosened

variable {rest rest' : List Char}

lemma append (h : Loosened rest rest') (cs : List Char) : Loosened (cs ++ rest) (cs ++ rest') := by
  induction cs with
  | nil => exact h
  | cons c cs ih => exact .cons c ih

/-- Characters that are no stops stand at the start of the second text only if they stand at the start
of the first. -/
lemma prefix_of (h : Loosened rest rest') {p : List Char} (hp : ∀ c ∈ p, isStop c = false)
    (hstart : p <+: rest') : p <+: rest := by
  induction h generalizing p with
  | apart h =>
    cases p with
    | nil => exact List.nil_prefix
    | cons c p =>
      obtain ⟨more, rfl⟩ := hstart
      have hstop := h c (by simp)
      rw [hp c (by simp)] at hstop
      cases hstop
  | cons c h ih =>
    cases p with
    | nil => exact List.nil_prefix
    | cons d p =>
      obtain ⟨rfl, htail⟩ := List.cons_prefix_cons.1 hstart
      exact List.cons_prefix_cons.2 ⟨rfl, ih (fun x hx => hp x (by simp [hx])) htail⟩

/-- A test that no stop passes is passed by the next character only if it was passed before. -/
lemma head? {p : Char → Bool} (h : Loosened rest rest') (hp : ∀ c, p c = true → isStop c = false)
    (hrest : ∀ c ∈ rest.head?, p c = false) : ∀ c ∈ rest'.head?, p c = false := by
  intro c hc
  by_contra hpc
  rw [Bool.not_eq_false] at hpc
  have hstart : [c] <+: rest' := by
    cases rest' with
    | nil => cases hc
    | cons d r =>
      obtain rfl : d = c := by simpa using hc
      simp
  obtain ⟨more, rfl⟩ := h.prefix_of (by simpa using hp c hpc) hstart
  rw [hrest c (by simp)] at hpc
  cases hpc

end Loosened

/-! ## Readers -/

/-- A reader splits a text, and takes the same part as long as the text behind it is only loosened. -/
structure Steady (read : List Char → List Char × List Char) : Prop where
  append : ∀ cs, (read cs).1 ++ (read cs).2 = cs
  loosened : ∀ cs rest', Loosened (read cs).2 rest' →
    read ((read cs).1 ++ rest') = ((read cs).1, rest')

/-- What one reader leaves is read by the next. -/
def readBoth (read read' : List Char → List Char × List Char) (cs : List Char) :
    List Char × List Char :=
  ((read cs).1 ++ (read' (read cs).2).1, (read' (read cs).2).2)

lemma Steady.both {read read' : List Char → List Char × List Char} (h : Steady read)
    (h' : Steady read') : Steady (readBoth read read') where
  append cs := by rw [readBoth, List.append_assoc, h'.append, h.append]
  loosened cs rest' hrest := by
    have hmiddle : Loosened (read cs).2 ((read' (read cs).2).1 ++ rest') := by
      have := hrest.append (read' (read cs).2).1
      rwa [readBoth, h'.append] at this
    simp only [readBoth, List.append_assoc, h.loosened cs _ hmiddle, h'.loosened _ _ hrest]

lemma steady_span {p : Char → Bool} (hp : ∀ c, p c = true → isStop c = false) :
    Steady fun cs => (cs.takeWhile p, cs.dropWhile p) where
  append cs := List.takeWhile_append_dropWhile
  loosened cs rest' hrest := by
    have hall : ∀ c ∈ cs.takeWhile p, p c = true := fun c hc => List.mem_takeWhile_imp hc
    have hend : ∀ c ∈ (cs.dropWhile p).head?, p c = false := by
      intro c hc
      have := List.head?_dropWhile_not p cs
      rw [Option.mem_def] at hc
      simpa [hc] using this
    have hend' := hrest.head? hp hend
    simp only [takeWhile_append_stop hall hend', dropWhile_append_stop hall hend']

lemma isStop_of_isDecimalDigit {c : Char} (h : isDecimalDigit c = true) : isStop c = false := by
  simp [isStop, h]

lemma isStop_of_isNameChar {c : Char} (h : isNameChar c = true) : isStop c = false := by
  simp [isStop, h]

lemma fraction_cases (cs : List Char) : fraction cs = ([], cs) ∨
    ∃ d r, cs = '.' :: d :: r ∧ isDecimalDigit d = true := by
  unfold fraction
  split
  · next d r =>
    split_ifs with hd
    · exact .inr ⟨d, r, rfl, hd⟩
    · exact .inl rfl
  · exact .inl rfl

lemma fraction_point {d : Char} (hd : isDecimalDigit d = true) (r : List Char) :
    fraction ('.' :: d :: r) =
      ('.' :: d :: r.takeWhile isDecimalDigit, r.dropWhile isDecimalDigit) := by
  simp [fraction, hd]

lemma steady_fraction : Steady fraction where
  append := append_fraction
  loosened cs rest' hrest := by
    rcases fraction_cases cs with hnone | ⟨d, r, rfl, hd⟩
    · rw [hnone] at hrest ⊢
      rcases fraction_cases rest' with hnone' | ⟨d, r, rfl, hd⟩
      · exact hnone'
      · -- such a fraction would have been there before
        have hplain : ∀ c ∈ ['.', d], isStop c = false := by
          simp [isStop_of_isDecimalDigit hd, show isStop '.' = false by decide]
        obtain ⟨more, rfl⟩ := hrest.prefix_of hplain ⟨r, rfl⟩
        have hsome := fraction_point hd more
        simp only [List.cons_append, List.nil_append] at hnone
        rw [hsome] at hnone
        cases hnone
    · simp only [fraction_point hd, List.cons_append] at hrest ⊢
      have hspan := (steady_span fun c => isStop_of_isDecimalDigit).loosened r rest' hrest
      simp only [Prod.mk.injEq] at hspan
      rw [hspan.1, hspan.2]

/-- The start of an exponent up to its first digit. -/
def IsPower (p : List Char) : Prop :=
  ∃ e sgn d, p = e :: (sgn ++ [d]) ∧ (e = 'e' ∨ e = 'E') ∧
    (sgn = [] ∨ sgn = ['+'] ∨ sgn = ['-']) ∧ isDecimalDigit d = true

lemma IsPower.isStop_eq_false {p : List Char} (h : IsPower p) : ∀ c ∈ p, isStop c = false := by
  obtain ⟨e, sgn, d, rfl, he, hsgn, hd⟩ := h
  have hmark : isStop e = false := by rcases he with rfl | rfl <;> decide
  have hsign : ∀ c ∈ sgn, isStop c = false := by rcases hsgn with rfl | rfl | rfl <;> decide
  intro c hc
  rcases List.mem_cons.1 hc with rfl | hc
  · exact hmark
  · rcases List.mem_append.1 hc with hc | hc
    · exact hsign c hc
    · rw [List.mem_singleton.1 hc, isStop_of_isDecimalDigit hd]

lemma exponent_cases (cs : List Char) :
    exponent cs = ([], cs) ∨ ∃ p r, cs = p ++ r ∧ IsPower p := by
  unfold exponent
  split
  · next e cs =>
    split
    · next d r hsign =>
      split_ifs with h
      · right
        simp only [Bool.and_eq_true, Bool.or_eq_true, beq_iff_eq] at h
        have happend := append_sign cs
        rw [hsign] at happend
        refine ⟨e :: ((sign cs).1 ++ [d]), r, ?_, e, _, d, rfl, h.1, sign_cases cs, h.2⟩
        rw [List.cons_append, List.append_assoc, List.singleton_append, happend]
      · exact .inl rfl
    · exact .inl rfl
  · exact .inl rfl

/-- The digits of an exponent go on as far as there are digits. -/
lemma IsPower.exponent_append {p : List Char} (h : IsPower p) (r : List Char) :
    exponent (p ++ r) = (p ++ r.takeWhile isDecimalDigit, r.dropWhile isDecimalDigit) := by
  obtain ⟨e, sgn, d, rfl, he, hsgn, hd⟩ := h
  have hne {c : Char} (hc : isDecimalDigit c = false) : d ≠ c := by
    rintro rfl
    rw [hc] at hd
    cases hd
  have hsign : sign (sgn ++ d :: r) = (sgn, d :: r) := by
    rcases hsgn with rfl | rfl | rfl
    · exact sign.eq_3 _ (fun _ h => hne (by decide) (List.cons.inj h).1)
        fun _ h => hne (by decide) (List.cons.inj h).1
    · rfl
    · rfl
  have hmark : (e == 'e' || e == 'E') = true := by rcases he with rfl | rfl <;> rfl
  simp [exponent, hsign, hmark, hd]

lemma steady_exponent : Steady exponent where
  append := append_exponent
  loosened cs rest' hrest := by
    rcases exponent_cases cs with hnone | ⟨p, r, rfl, hp⟩
    · rw [hnone] at hrest ⊢
      rcases exponent_cases rest' with hnone' | ⟨p, r, rfl, hp⟩
      · exact hnone'
      · obtain ⟨more, rfl⟩ := hrest.prefix_of hp.isStop_eq_false ⟨r, rfl⟩
        obtain ⟨e, sgn, d, rfl, -⟩ := id hp
        rw [hp.exponent_append] at hnone
        cases hnone
    · rw [hp.exponent_append] at hrest ⊢
      have hspan := (steady_span fun c => isStop_of_isDecimalDigit).loosened r rest' hrest
      simp only [Prod.mk.injEq] at hspan
      rw [List.append_assoc, hp.exponent_append, hspan.1, hspan.2]

/-- What a number token has behind its first digit. -/
def number : List Char → List Char × List Char :=
  readBoth (fun cs => (cs.takeWhile isDecimalDigit, cs.dropWhile isDecimalDigit))
    (readBoth fraction exponent)

lemma steady_number : Steady number :=
  (steady_span fun _ => isStop_of_isDecimalDigit).both (steady_fraction.both steady_exponent)

/-! ## Operators and literals -/

section

variable {c : Char} {cs cs' op rest rest' : List Char}

lemma operator_loosened (h : operator cs = some (op, rest)) (hrest : Loosened rest rest') :
    operator (op ++ rest') = some (op, rest') := by
  unfold operator at h
  split at h
  case h_7 cs hne =>
    cases h
    have hequal : ∀ r, rest' ≠ '=' :: r := by
      rintro r rfl
      obtain ⟨more, hmore⟩ := hrest.prefix_of (by decide) (⟨r, rfl⟩ : ['='] <+: '=' :: r)
      exact hne more (by rw [← hmore]; rfl)
    cases rest' with
    | nil => rfl
    | cons d r =>
      unfold operator
      split <;> simp_all
  all_goals first | cases h; rfl | cases h

lemma operator_ne_none (hop : op ∈ operators) (rest : List Char) : operator (op ++ rest) ≠ none := by
  simp only [operators, List.mem_cons, List.not_mem_nil, or_false] at hop
  rcases hop with rfl | rfl | rfl | rfl | rfl | rfl | rfl
  case inr.inr.inr.inr.inr.inr =>
    rw [List.singleton_append]
    unfold operator
    split <;> simp_all
  all_goals exact Option.some_ne_none _

lemma operator_eq_none_of_loosened (h : operator (c :: cs) = none) (hcs : Loosened cs cs') :
    operator (c :: cs') = none := by
  cases ho : operator (c :: cs') with
  | none => rfl
  | some r =>
    -- the operator would have been there before
    obtain ⟨op, rest⟩ := r
    have happend := append_of_operator ho
    have hmem := mem_operators ho
    obtain ⟨d, tail, rfl⟩ := List.exists_cons_of_ne_nil (ne_nil_of_operator ho)
    obtain ⟨rfl, htail⟩ := List.cons.inj happend
    have hplain : ∀ op ∈ operators, ∀ x ∈ op.tail, isStop x = false := by decide
    obtain ⟨more, rfl⟩ := hcs.prefix_of (hplain _ hmem) ⟨rest, htail⟩
    exact absurd h (operator_ne_none hmem more)

lemma closing_body {q : Char} {b : List Char} (hq : q ≠ '\\') (h : Body q b) (rest : List Char) :
    closing q (b ++ q :: rest) = some (b ++ [q], rest) := by
  induction h with
  | nil =>
    rw [List.nil_append, closing.eq_4 _ _ _ (fun h => absurd h hq) (fun _ _ h => absurd h hq),
      if_pos (by simp)]
    rfl
  | plain hcq hslash h ih =>
    rw [List.cons_append, Expression.closing_cons hcq hslash, ih]
    rfl
  | escaped h ih =>
    rw [List.cons_append, List.cons_append, closing.eq_3, ih]
    rfl

end

/-! ## Tokens at the start of a text -/

/-- The token is the first one of the text that has `rest` behind it. -/
def Starts (t : Token) (rest : List Char) : Prop :=
  ∃ c cs, t.chars = c :: cs ∧ next c (cs ++ rest) = (t, rest)

lemma starts_next (c : Char) (cs : List Char) : Starts (next c cs).1 (next c cs).2 := by
  obtain ⟨d, ds, hchars⟩ := List.exists_cons_of_ne_nil (chars_next_ne_nil c cs)
  have happend := append_next c cs
  rw [hchars, List.cons_append] at happend
  obtain ⟨rfl, hcs⟩ := List.cons.inj happend
  exact ⟨d, ds, hchars, by rw [hcs]⟩

/-- The first token of a text, and the text behind it. -/
lemma starts_of_scan {cs : List Char} {t : Token} {ts : List Token} (h : scan cs = t :: ts) :
    Starts t (ts.flatMap chars) ∧ scan (ts.flatMap chars) = ts := by
  cases cs with
  | nil => simp at h
  | cons c cs =>
    rw [scan_cons] at h
    obtain ⟨rfl, rfl⟩ := List.cons.inj h
    rw [flatMap_chars_scan]
    exact ⟨starts_next c cs, rfl⟩

section

variable {c : Char} {cs op rest : List Char}

lemma next_digit (hopen : (c == '"' || c == '\'') = false) (hdigit : isDecimalDigit c = true) :
    next c cs = (⟨.number, c :: (number cs).1⟩, (number cs).2) := by
  simp [next, hopen, hdigit, number, readBoth]

lemma next_operator (hopen : (c == '"' || c == '\'') = false) (hdigit : isDecimalDigit c = false)
    (ho : operator (c :: cs) = some (op, rest)) : next c cs = (⟨.op, op⟩, rest) := by
  simp [next, hopen, hdigit, ho]

lemma next_plain (hopen : (c == '"' || c == '\'') = false) (hdigit : isDecimalDigit c = false)
    (ho : operator (c :: cs) = none) : next c cs =
      if isNameStart c then (⟨.name, c :: cs.takeWhile isNameChar⟩, cs.dropWhile isNameChar)
      else if isBlank c then (⟨.space, c :: cs.takeWhile isBlank⟩, cs.dropWhile isBlank)
      else (⟨.other, [c]⟩, cs) := by
  simp [next, hopen, hdigit, ho]

end

namespace Starts

variable {t : Token} {rest rest' : List Char}

lemma scan_eq (h : Starts t rest) : scan (t.chars ++ rest) = t :: scan rest := by
  obtain ⟨c, cs, hchars, hnext⟩ := h
  rw [hchars, List.cons_append, scan_cons, hnext]

lemma tokens_eq (h : Starts t rest) (hspace : t.kind ≠ .space) :
    Normal.tokens (t.chars ++ rest) = t :: Normal.tokens rest := by
  rw [Normal.tokens, h.scan_eq, List.filter_cons_of_pos (by simpa using hspace), Normal.tokens]

/-- A token that is no blank and no quote by itself is not changed by what stands behind a stop. -/
theorem loosened (h : Starts t rest) (hspace : t.kind ≠ .space) (hquote : t.isQuote = false)
    (hrest : Loosened rest rest') : Starts t rest' := by
  obtain ⟨c, cs, hchars, hnext⟩ := h
  refine ⟨c, cs, hchars, ?_⟩
  by_cases hliteral : c = '"' ∨ c = '\''
  · cases hclosing : closing c (cs ++ rest) with
    | none =>
      rw [next_quote hliteral hclosing] at hnext
      rw [← (Prod.mk.inj hnext).1] at hquote
      rcases hliteral with rfl | rfl <;> cases hquote
    | some r =>
      have hopen : (c == '"' || c == '\'') = true := by simpa using hliteral
      have hslash : c ≠ '\\' := by rcases hliteral with rfl | rfl <;> decide
      unfold next at hnext
      rw [if_pos hopen, hclosing] at hnext
      obtain ⟨rfl, rfl⟩ := Prod.mk.inj hnext
      obtain ⟨rfl⟩ := (List.cons.inj hchars).2
      obtain ⟨b, hb, hbody⟩ := body_of_closing hclosing
      have hclosed := closing_body hslash hbody rest'
      rw [← List.singleton_append, ← List.append_assoc, ← hb] at hclosed
      unfold next
      rw [if_pos hopen, hclosed]
  · have hopen : (c == '"' || c == '\'') = false := by simpa using hliteral
    have hcs : Loosened (cs ++ rest) (cs ++ rest') := hrest.append cs
    cases hdigit : isDecimalDigit c with
    | true =>
      rw [next_digit hopen hdigit] at hnext ⊢
      obtain ⟨ht, hr⟩ := Prod.mk.inj hnext
      have htail : (number (cs ++ rest)).1 = cs := by
        rw [← ht] at hchars
        exact (List.cons.inj hchars).2
      have hnumber := steady_number.loosened (cs ++ rest) rest' (by rwa [hr])
      rw [htail] at hnumber ht
      rw [hnumber, ht]
    | false =>
      cases ho : operator (c :: (cs ++ rest)) with
      | some r =>
        obtain ⟨op, r⟩ := r
        rw [next_operator hopen hdigit ho] at hnext
        obtain ⟨rfl, rfl⟩ := Prod.mk.inj hnext
        have hchars : op = c :: cs := hchars
        subst hchars
        exact next_operator hopen hdigit (operator_loosened ho hrest)
      | none =>
        rw [next_plain hopen hdigit ho] at hnext
        rw [next_plain hopen hdigit (operator_eq_none_of_loosened ho hcs)]
        by_cases hname : isNameStart c = true
        · rw [if_pos hname] at hnext ⊢
          obtain ⟨ht, hr⟩ := Prod.mk.inj hnext
          have htail : (cs ++ rest).takeWhile isNameChar = cs := by
            rw [← ht] at hchars
            exact (List.cons.inj hchars).2
          have hspan := (steady_span fun _ => isStop_of_isNameChar).loosened (cs ++ rest) rest'
          simp only [htail, hr, Prod.mk.injEq] at hspan
          rw [(hspan hrest).1, (hspan hrest).2, ← ht, htail]
        · rw [if_neg hname] at hnext ⊢
          by_cases hblank : isBlank c = true
          · rw [if_pos hblank] at hnext
            rw [← (Prod.mk.inj hnext).1] at hspace
            exact absurd rfl hspace
          · rw [if_neg hblank] at hnext ⊢
            obtain ⟨rfl, -⟩ := Prod.mk.inj hnext
            obtain ⟨rfl⟩ := (List.cons.inj hchars).2
            rfl

end Starts

/-! ## Closed literals -/

/-- Every quote of the text stands in a complete literal. -/
def LiteralsClosed (cs : List Char) : Prop :=
  ∀ t ∈ scan cs, ∀ c ∈ t.chars, c = '"' ∨ c = '\'' → t.kind = .string

instance (cs : List Char) : Decidable (LiteralsClosed cs) :=
  inferInstanceAs (Decidable (∀ t ∈ scan cs, ∀ c ∈ t.chars, c = '"' ∨ c = '\'' → t.kind = .string))

lemma LiteralsClosed.isQuote_eq_false {cs : List Char} (h : LiteralsClosed cs) :
    ∀ t ∈ scan cs, t.isQuote = false := by
  intro t ht
  by_contra hquote
  simp only [isQuote, isOther, Bool.not_eq_false, Bool.or_eq_true, Bool.and_eq_true,
    beq_iff_eq] at hquote
  rcases hquote with ⟨hkind, hchars⟩ | ⟨hkind, hchars⟩ <;>
    exact absurd (h t ht _ (by simp [hchars]; rfl) (by simp)) (by simp [hkind])

end Token

end TransactionRules
