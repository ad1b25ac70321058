import Mathlib
import TransactionRules.Condition.Token
import TransactionRules.Expression.Lexeme

/-!
# Texts between quotes

`Spelled q s cs` says that the characters `cs` between two quotes `q` spell the text `s`: backslashes,
the quote itself and line breaks behind a backslash, any other character as it is or behind a
backslash too. The tokens of a condition and the lexemes of an expression end such a literal at the
same quote, and what it means is `s`.
-/

namespace TransactionRules.Expression

/-! ## Spellings -/

/-- What may stand behind a backslash for a character: its letter, its code in two, four or eight
hexadecimal digits, or its code in three octal digits. -/
inductive EscapedAs : Char → List Char → Prop
  | letter {c d : Char} (h : Escape.simple? d = some c) : EscapedAs c [d]
  | hexadecimal {c mark : Char} {ds : List Char}
      (hmark : (mark, ds.length) ∈ [('x', 2), ('u', 4), ('U', 8)])
      (hds : ∀ d ∈ ds, Number.isHex d = true) (hc : Number.ofBase 16 ds = c.toNat) :
      EscapedAs c (mark :: ds)
  | octal {c : Char} {ds : List Char} (hlen : ds.length = 3)
      (hds : ∀ d ∈ ds, Number.isOctal d = true) (hc : Number.ofBase 8 ds = c.toNat) :
      EscapedAs c ds

/-- The characters that stand for themselves in no literal with the quote `q`. -/
def needsEscape (q : Char) : List Char := [q, '\\', '\n', '\r', '\x00']

/-- `Spelled q s cs`: between two quotes `q`, the characters `cs` spell the text `s`. -/
inductive Spelled (q : Char) : List Char → List Char → Prop
  | nil : Spelled q [] []
  | plain {c : Char} {s cs : List Char} (hc : c ∉ needsEscape q) (h : Spelled q s cs) :
      Spelled q (c :: s) (c :: cs)
  | escaped {c : Char} {e s cs : List Char} (he : EscapedAs c e) (h : Spelled q s cs) :
      Spelled q (c :: s) ('\\' :: (e ++ cs))

/-- A text between two quotes. -/
structure TextLiteral where
  quote : Char
  text : List Char
  body : List Char
  isQuote : quote = '"' ∨ quote = '\''
  spelled : Spelled quote text body

namespace TextLiteral

def chars (l : TextLiteral) : List Char := l.quote :: (l.body ++ [l.quote])

end TextLiteral

/-! ## Escapes -/

lemma charOf?_toNat (c : Char) : Escape.charOf? c.toNat = some c := by
  have hvalid : c.toNat.isValidChar := c.valid
  simp only [Escape.charOf?, hvalid, ↓reduceDIte, Option.some.injEq]
  rfl

/-- Digits of any base up to sixteen. -/
lemma isAlphanum_of_isHex {d : Char} (h : Number.isHex d = true) : d.isAlphanum = true := by
  simp only [Number.isHex, Bool.or_eq_true, Bool.and_eq_true, decide_eq_true_eq] at h
  simp only [Char.isAlphanum, Char.isAlpha, Char.isUpper, Char.isLower, Bool.or_eq_true,
    Bool.and_eq_true, decide_eq_true_eq]
  obtain (h | ⟨h₁, h₂⟩) | ⟨h₁, h₂⟩ := h
  · exact .inr h
  · exact .inl (.inr ⟨h₁, Char.le_trans h₂ (by decide)⟩)
  · exact .inl (.inl ⟨h₁, Char.le_trans h₂ (by decide)⟩)

/-- Letters and digits are no part of a literal's frame. -/
lemma ne_of_isAlphanum {q c : Char} (hq : q = '"' ∨ q = '\'') (h : c.isAlphanum = true) :
    c ≠ q ∧ c ≠ '\\' := by
  constructor
  · rintro rfl
    rcases hq with rfl | rfl <;> cases h
  · rintro rfl
    cases h

lemma isHex_of_isOctal {d : Char} (h : Number.isOctal d = true) : Number.isHex d = true := by
  simp only [Number.isOctal, Bool.and_eq_true, decide_eq_true_eq] at h
  simp only [Number.isHex, Char.isDigit, Bool.or_eq_true, Bool.and_eq_true, decide_eq_true_eq]
  exact .inl (.inl ⟨h.1, Char.le_trans h.2 (by decide)⟩)

lemma hex?_append {width : Nat} {ds : List Char} (hlen : ds.length = width)
    (hds : ∀ d ∈ ds, Number.isHex d = true) (rest : List Char) :
    Escape.hex? width (ds ++ rest) = some (Number.ofBase 16 ds, rest) := by
  have hall : ds.all Number.isHex = true := List.all_eq_true.2 hds
  simp [Escape.hex?, ← hlen, hall]

lemma octal_append {ds : List Char} (hlen : ds.length = 3)
    (hds : ∀ d ∈ ds, Number.isOctal d = true) (rest : List Char) :
    Escape.octal (ds ++ rest) = (Number.ofBase 8 ds, rest) := by
  have htake : ((ds ++ rest).take 3).takeWhile Number.isOctal = ds := by
    rw [← hlen, List.take_left]
    exact List.takeWhile_eq_self_iff.2 hds
  simp [Escape.octal, htake]

/-- What an escape looks like: one character, letters and digits. It means its character. -/
lemma EscapedAs.shape {c : Char} {e : List Char} (h : EscapedAs c e) :
    ∃ d ds, e = d :: ds ∧ d ∉ ['\n', '\r', '\x00'] ∧ (∀ x ∈ ds, x.isAlphanum = true) ∧
      ∀ rest, Escape.inText d (ds ++ rest) = some ([c], rest) := by
  cases h with
  | letter h =>
    unfold Escape.simple? at h
    split at h <;> cases h <;> exact ⟨_, [], rfl, by decide, by simp, fun rest => rfl⟩
  | @hexadecimal mark ds hmark hds hc =>
    refine ⟨mark, ds, rfl, ?_, fun x hx => isAlphanum_of_isHex (hds x hx), fun rest => ?_⟩
    · simp only [List.mem_cons, Prod.mk.injEq, List.not_mem_nil, or_false] at hmark
      rcases hmark with ⟨rfl, -⟩ | ⟨rfl, -⟩ | ⟨rfl, -⟩ <;> decide
    · simp only [List.mem_cons, Prod.mk.injEq, List.not_mem_nil, or_false] at hmark
      rcases hmark with ⟨rfl, hlen⟩ | ⟨rfl, hlen⟩ | ⟨rfl, hlen⟩ <;>
        simp [Escape.inText, hex?_append hlen hds, hc, charOf?_toNat]
  | octal hlen hds hc =>
    obtain ⟨d, ds, rfl⟩ := List.exists_cons_of_length_eq_add_one hlen
    have hd := hds d (by simp)
    have hne {x : Char} (hx : Number.isOctal x = false) : d ≠ x := by
      rintro rfl
      rw [hd] at hx
      cases hx
    refine ⟨d, ds, rfl, ?_, fun x hx => ?_, fun rest => ?_⟩
    · simp only [List.mem_cons, List.not_mem_nil, or_false, not_or]
      exact ⟨hne (by decide), hne (by decide), hne (by decide)⟩
    · exact isAlphanum_of_isHex (isHex_of_isOctal (hds x (by simp [hx])))
    · have hoctal := octal_append hlen hds rest
      rw [List.cons_append] at hoctal
      unfold Escape.inText
      split
      · exact absurd rfl (hne (by decide))
      · exact absurd rfl (hne (by decide))
      · exact absurd rfl (hne (by decide))
      · exact absurd rfl (hne (by decide))
      · exact absurd rfl (hne (by decide))
      · simp [hd, hoctal, hc, charOf?_toNat]

/-! ## The end of a literal -/

variable {q : Char}

lemma closing_cons {c : Char} (hq : c ≠ q) (hslash : c ≠ '\\') (rest : List Char) :
    Token.closing q (c :: rest) =
      (Token.closing q rest).map fun (body, rest) => (c :: body, rest) := by
  rw [Token.closing.eq_4 _ _ _ (fun h => absurd h hslash) (fun _ _ h => absurd h hslash),
    if_neg (by simpa using hq)]

lemma closing_append {ds : List Char} (h : ∀ c ∈ ds, c ≠ q ∧ c ≠ '\\') (rest : List Char) :
    Token.closing q (ds ++ rest) =
      (Token.closing q rest).map fun (body, rest) => (ds ++ body, rest) := by
  induction ds with
  | nil => simp
  | cons c ds ih =>
    obtain ⟨hq, hslash⟩ := h c (by simp)
    rw [List.cons_append, closing_cons hq hslash, ih fun c hc => h c (by simp [hc]),
      Option.map_map]
    rfl

lemma shortBody_cons {c : Char} (hq : c ≠ q) (hslash : c ≠ '\\') (hline : c ≠ '\n')
    (rest : List Char) :
    Lexeme.shortBody q (c :: rest) =
      (Lexeme.shortBody q rest).map fun (body, rest) => (c :: body, rest) := by
  rw [Lexeme.shortBody.eq_3 _ _ _ (fun _ _ h => absurd h hslash), if_neg (by simpa using hq),
    if_neg (by simpa using hline)]

lemma shortBody_append {ds : List Char} (h : ∀ c ∈ ds, c ≠ q ∧ c ≠ '\\' ∧ c ≠ '\n')
    (rest : List Char) :
    Lexeme.shortBody q (ds ++ rest) =
      (Lexeme.shortBody q rest).map fun (body, rest) => (ds ++ body, rest) := by
  induction ds with
  | nil => simp
  | cons c ds ih =>
    obtain ⟨hq, hslash, hline⟩ := h c (by simp)
    rw [List.cons_append, shortBody_cons hq hslash hline, ih fun c hc => h c (by simp [hc]),
      Option.map_map]
    rfl

namespace Spelled

variable {s cs : List Char}

/-- The token of a literal ends at the closing quote. -/
lemma closing (hq : q = '"' ∨ q = '\'') (h : Spelled q s cs) (rest : List Char) :
    Token.closing q (cs ++ q :: rest) = some (cs ++ [q], rest) := by
  have hslash : q ≠ '\\' := by rcases hq with rfl | rfl <;> decide
  induction h with
  | nil =>
    rw [List.nil_append, Token.closing.eq_4 _ _ _ (fun h => absurd h hslash)
      (fun _ _ h => absurd h hslash), if_pos (by simp), List.nil_append]
  | @plain c s cs hc h ih =>
    simp only [needsEscape, List.mem_cons, not_or] at hc
    rw [List.cons_append, closing_cons hc.1 hc.2.1, ih]
    rfl
  | @escaped c e s cs he h ih =>
    obtain ⟨d, ds, rfl, -, hds, -⟩ := he.shape
    have hplain : ∀ x ∈ ds, x ≠ q ∧ x ≠ '\\' := fun x hx => ne_of_isAlphanum hq (hds x hx)
    rw [List.cons_append, List.cons_append, List.cons_append, List.append_assoc,
      Token.closing.eq_3, closing_append hplain, ih]
    simp

/-- The lexeme of a literal ends at the closing quote. -/
lemma shortBody (hq : q = '"' ∨ q = '\'') (h : Spelled q s cs) (rest : List Char) :
    Lexeme.shortBody q (cs ++ q :: rest) = some (cs, rest) := by
  have hslash : q ≠ '\\' := by rcases hq with rfl | rfl <;> decide
  induction h with
  | nil =>
    rw [List.nil_append, Lexeme.shortBody.eq_3 _ _ _ (fun _ _ h => absurd h hslash),
      if_pos (by simp)]
  | @plain c s cs hc h ih =>
    simp only [needsEscape, List.mem_cons, not_or] at hc
    rw [List.cons_append, shortBody_cons hc.1 hc.2.1 hc.2.2.1, ih]
    rfl
  | @escaped c e s cs he h ih =>
    obtain ⟨d, ds, rfl, -, hds, -⟩ := he.shape
    have hplain : ∀ x ∈ ds, x ≠ q ∧ x ≠ '\\' ∧ x ≠ '\n' := by
      intro x hx
      obtain ⟨hxq, hxslash⟩ := ne_of_isAlphanum hq (hds x hx)
      refine ⟨hxq, hxslash, ?_⟩
      rintro rfl
      cases hds _ hx
    rw [List.cons_append, List.cons_append, List.cons_append, List.append_assoc,
      Lexeme.shortBody.eq_2, shortBody_append hplain, ih]
    simp

/-- What is between the quotes means the text. -/
lemma decode (h : Spelled q s cs) : Escape.decode Escape.inText cs = some s := by
  induction h with
  | nil => rw [Escape.decode.eq_1]
  | @plain c s cs hc h ih =>
    simp only [needsEscape, List.mem_cons, not_or] at hc
    rw [Escape.decode.eq_4 _ _ _ (fun h => absurd h hc.2.1) (fun _ _ h => absurd h hc.2.1), ih]
    rfl
  | @escaped c e s cs he h ih =>
    obtain ⟨d, ds, rfl, -, -, hmeant⟩ := he.shape
    rw [List.cons_append, Escape.decode.eq_3, hmeant, Option.bind_eq_bind, Option.bind_some]
    simp [ih]

/-- A literal holds no line break and no null character. -/
lemma notMem {x : Char} (hx : x ∈ ['\n', '\r', '\x00']) (h : Spelled q s cs) : x ∉ cs := by
  have halnum : x.isAlphanum = false ∧ x ≠ '\\' := by
    simp only [List.mem_cons, List.not_mem_nil, or_false] at hx
    rcases hx with rfl | rfl | rfl <;> decide
  induction h with
  | nil => simp
  | @plain c s cs hc h ih =>
    simp only [List.mem_cons, not_or]
    refine ⟨?_, ih⟩
    rintro rfl
    exact hc (List.mem_cons_of_mem _ (List.mem_cons_of_mem _ hx))
  | @escaped c e s cs he h ih =>
    obtain ⟨d, ds, rfl, hd, hds, -⟩ := he.shape
    simp only [List.cons_append, List.mem_cons, List.mem_append, not_or]
    refine ⟨halnum.2, ?_, ?_, ih⟩
    · rintro rfl
      exact hd hx
    · intro hmem
      rw [hds x hmem] at halnum
      cases halnum.1

end Spelled

/-! ## Literals as tokens and lexemes -/

/-- Without three quotes in a row a literal ends on its line. -/
lemma literal?_of_single {mark : Lexeme.LiteralMark} {cs : List Char}
    (h : ∀ c d r, cs = c :: d :: r → (c == q && d == q) = false) :
    Lexeme.literal? mark q cs =
      (Lexeme.shortBody q cs).bind fun r => (Lexeme.ofLiteral? mark r.1).map (·, r.2) := by
  have hbody : Lexeme.literal? mark q cs = (Lexeme.shortBody q cs).bind fun r =>
      (Lexeme.ofLiteral? mark r.1).bind fun l => some (l, r.2) := by
    unfold Lexeme.literal?
    split
    · next c d r =>
      rw [h c d r rfl, if_neg (by simp)]
      rfl
    · rfl
  rw [hbody]
  cases Lexeme.shortBody q cs with
  | none => rfl
  | some r => cases hl : Lexeme.ofLiteral? mark r.1 <;> simp [hl]

namespace TextLiteral

variable (l : TextLiteral)

lemma next_append (rest : List Char) :
    Token.next l.quote (l.body ++ l.quote :: rest) = (⟨.string, l.chars⟩, rest) := by
  have hquote : (l.quote == '"' || l.quote == '\'') = true := by
    rcases l.isQuote with h | h <;> rw [h] <;> rfl
  unfold Token.next
  rw [if_pos hquote, l.spelled.closing l.isQuote]
  rfl

/-- Between the quotes no quote stands first. -/
lemma head?_body : l.body.head? ≠ some l.quote := by
  have hslash : '\\' ≠ l.quote := by
    rcases l.isQuote with h | h <;> rw [h] <;> decide
  have h := l.spelled
  generalize l.body = body, l.text = text at h
  cases h with
  | nil => simp
  | plain hc h =>
    simp only [needsEscape, List.mem_cons, not_or] at hc
    simpa using hc.1
  | escaped he h => simpa using hslash

/-- The body of a literal with no further quote behind it ends at the first quote. -/
lemma literal?_append {rest : List Char} (hrest : rest.head? ≠ some l.quote) :
    Lexeme.literal? ⟨false, false, false⟩ l.quote (l.body ++ l.quote :: rest) =
      some (.text (String.ofList l.text), rest) := by
  have hlexeme : Lexeme.ofLiteral? ⟨false, false, false⟩ l.body =
      some (.text (String.ofList l.text)) := by
    simp [Lexeme.ofLiteral?, l.spelled.decode]
  have hsingle : ∀ c d r, l.body ++ l.quote :: rest = c :: d :: r →
      (c == l.quote && d == l.quote) = false := by
    intro c d r h
    rw [Bool.and_eq_false_iff, beq_eq_false_iff_ne, beq_eq_false_iff_ne]
    have hhead := l.head?_body
    cases hbody : l.body with
    | nil =>
      right
      rw [hbody] at h
      obtain ⟨-, rfl⟩ := List.cons.inj h
      simpa using hrest
    | cons c' cs =>
      left
      rw [hbody] at h hhead
      obtain ⟨rfl, -⟩ := List.cons.inj h
      simpa using hhead
  rw [literal?_of_single hsingle, l.spelled.shortBody l.isQuote, Option.bind_some, hlexeme]
  rfl

/-- A literal with no further quote behind it is read as its text. -/
lemma read_append {rest : List Char} (hrest : rest.head? ≠ some l.quote) :
    Lexeme.read (l.chars ++ rest) = some (.text (String.ofList l.text), rest) := by
  have hquote : (l.quote == '"' || l.quote == '\'') = true := by
    rcases l.isQuote with h | h <;> rw [h] <;> rfl
  have hdigit : Lexeme.startsNumber (l.chars ++ rest) = false := by
    rcases l.isQuote with h | h <;> simp [chars, h, Lexeme.startsNumber]
  have hchars : l.chars ++ rest = l.quote :: (l.body ++ l.quote :: rest) := by simp [chars]
  rw [hchars] at hdigit ⊢
  unfold Lexeme.read
  rw [if_neg (by simp [hdigit])]
  simp only [hquote, if_true]
  exact l.literal?_append hrest

end TextLiteral

end TransactionRules.Expression
