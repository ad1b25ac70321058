import Mathlib.Tactic.IntervalCases
import TransactionRules.Condition.Normal
import TransactionRules.Proofs.BracketTrees
import TransactionRules.Proofs.NumberTokens
import TransactionRules.Proofs.Phrases

/-!
# Tokens as lexemes

A normal form writes the words of tokens with a space between neighbours. A token that is no blank and
no quote by itself has at most one lexeme there, whatever its neighbours are (`read_token`). So such a
line is read token by token: its lexemes are those of its tokens, if each token has one and the
brackets among them are all closed.
-/

namespace TransactionRules

open Expression
open scoped Members

namespace Token

/-! ## What tokens look like -/

/-- Text between two quotes `q`: a quote in it has a backslash before it. -/
inductive Body (q : Char) : List Char → Prop
  | nil : Body q []
  | plain {c : Char} {cs : List Char} (hq : c ≠ q) (hslash : c ≠ '\\') (h : Body q cs) :
      Body q (c :: cs)
  | escaped {c : Char} {cs : List Char} (h : Body q cs) : Body q ('\\' :: c :: cs)

/-- Whether the next character of a literal has a backslash before it, after a character that does
not close the literal. -/
def pass (q : Char) (escaped : Bool) (c : Char) : Option Bool :=
  if escaped then some false
  else if c == '\\' then some true
  else if c == q then none else some false

/-- A backslash is the last character, or it has a character behind it. -/
lemma ne_backslash {c : Char} {cs : List Char} (hend : c = '\\' → cs = [] → False)
    (hpair : ∀ d r, c = '\\' → cs = d :: r → False) : c ≠ '\\' := by
  rintro rfl
  cases cs with
  | nil => exact hend rfl rfl
  | cons d r => exact hpair d r rfl rfl

lemma body_iff {q : Char} {cs : List Char} : Body q cs ↔ cs.foldlM (pass q) false = some false := by
  constructor
  · intro h
    induction h with
    | nil => rfl
    | plain hq hslash h ih => simpa [pass, hq, hslash] using ih
    | escaped h ih => simpa [pass] using ih
  · intro h
    induction cs using closing.induct q with
    | case1 => exact .nil
    | case2 => cases h
    | case3 c cs ih => exact .escaped (ih (by simpa [pass] using h))
    | case4 c cs hend hslash hq =>
      have hne := ne_backslash hend hslash
      simp [pass, hq, hne] at h
    | case5 c cs hend hslash hq ih =>
      have hne := ne_backslash hend hslash
      exact .plain (by simpa using hq) hne (ih (by simpa [pass, hq, hne] using h))

lemma body_of_closing {q : Char} {cs body rest : List Char}
    (h : closing q cs = some (body, rest)) : ∃ b, body = b ++ [q] ∧ Body q b := by
  fun_induction closing q cs generalizing body rest with
  | case1 | case2 => cases h
  | case3 c cs ih =>
    obtain ⟨⟨b, r⟩, hb, he⟩ := Option.map_eq_some_iff.1 h
    obtain ⟨rfl, rfl⟩ := Prod.mk.inj he
    obtain ⟨b, rfl, hbody⟩ := ih hb
    exact ⟨'\\' :: c :: b, rfl, .escaped hbody⟩
  | case4 c cs hslash _ hq =>
    obtain ⟨rfl, rfl⟩ := Prod.mk.inj (Option.some.inj h)
    obtain rfl : c = q := by simpa using hq
    exact ⟨[], rfl, .nil⟩
  | case5 c cs hend hslash hq ih =>
    obtain ⟨⟨b, r⟩, hb, he⟩ := Option.map_eq_some_iff.1 h
    obtain ⟨rfl, rfl⟩ := Prod.mk.inj he
    obtain ⟨b, rfl, hbody⟩ := ih hb
    exact ⟨c :: b, rfl, .plain (by simpa using hq) (ne_backslash hend hslash) hbody⟩

/-- The operators of a condition that are tokens of more than one character, and `!`. -/
def operators : List (List Char) :=
  [['&', '&'], ['|', '|'], ['=', '='], ['!', '='], ['>', '='], ['<', '='], ['!']]

lemma mem_operators {cs op rest : List Char} (h : operator cs = some (op, rest)) :
    op ∈ operators := by
  unfold operator at h
  split at h <;> cases h <;> decide

/-- The tokens that a text can have. -/
inductive Scanned : Token → Prop
  | string {q : Char} {b : List Char} (hq : q = '"' ∨ q = '\'') (hb : Body q b) :
      Scanned ⟨.string, q :: (b ++ [q])⟩
  | number {cs : List Char} (h : IsNumber cs) : Scanned ⟨.number, cs⟩
  | op {cs : List Char} (h : cs ∈ operators) : Scanned ⟨.op, cs⟩
  | name {c : Char} {cs : List Char} (hc : isNameStart c = true)
      (hcs : ∀ d ∈ cs, isNameChar d = true) : Scanned ⟨.name, c :: cs⟩
  | space {cs : List Char} (h : ∀ c ∈ cs, isBlank c = true) : Scanned ⟨.space, cs⟩
  | other {c : Char} (hdigit : isDecimalDigit c = false) (hname : isNameStart c = false)
      (hblank : isBlank c = false) : Scanned ⟨.other, [c]⟩

lemma scanned_next (c : Char) (cs : List Char) : Scanned (next c cs).1 := by
  unfold next
  split
  · next body rest h =>
    split_ifs at h with hq
    obtain ⟨b, rfl, hb⟩ := body_of_closing h
    exact .string (by simpa using hq) hb
  · cases hdigit : isDecimalDigit c with
    | true =>
      have hparts := IsNumber.parts (digits_takeWhile hdigit cs)
        (isFraction_fraction (cs.dropWhile isDecimalDigit))
        (isExponent_exponent (fraction (cs.dropWhile isDecimalDigit)).2)
      rw [← List.append_assoc] at hparts
      exact .number hparts
    | false =>
      rw [if_neg (by simp)]
      split
      · next op rest h => exact .op (mem_operators h)
      · cases hname : isNameStart c with
        | true => exact .name hname fun d hd => List.mem_takeWhile_imp hd
        | false =>
          cases hblank : isBlank c with
          | true =>
            refine .space fun d hd => ?_
            rcases List.mem_cons.1 hd with rfl | hd
            · exact hblank
            · exact List.mem_takeWhile_imp hd
          | false => exact .other hdigit hname hblank

lemma scanned_scan (cs : List Char) : ∀ t ∈ scan cs, Scanned t := by
  induction h : cs.length using Nat.strongRecOn generalizing cs with
  | ind n ih =>
    cases cs with
    | nil => simp
    | cons c cs =>
      rw [scan_cons]
      intro t ht
      rcases List.mem_cons.1 ht with rfl | ht
      · exact scanned_next c cs
      · exact ih _ (h ▸ length_next_lt c cs) _ rfl t ht

/-- A quote by itself, which starts no literal. -/
def isQuote (t : Token) : Bool := t.isOther '"' || t.isOther '\''

/-- A token of a text that is no blank and no quote by itself. -/
structure Legible (t : Token) : Prop where
  scanned : Scanned t
  notSpace : t.kind ≠ .space
  notQuote : t.isQuote = false

/-! ## Line breaks -/

lemma unify_append (cs : List Char) {c : Char} (hc : c ≠ '\n') (ds : List Char) :
    Line.unify (cs ++ c :: ds) = Line.unify cs ++ Line.unify (c :: ds) := by
  fun_induction Line.unify cs with
  | case1 cs ih => simp only [List.cons_append, Line.unify, ih]
  | case2 cs hcs ih =>
    have hne : ∀ r, cs ++ c :: ds ≠ '\n' :: r := by
      intro r h
      cases cs with
      | nil => exact hc (List.cons.inj h).1
      | cons x cs =>
        obtain ⟨rfl, -⟩ := List.cons.inj h
        exact hcs _ rfl
    rw [List.cons_append, Line.unify.eq_2 _ hne, ih, List.cons_append]
  | case3 x cs hcs hne ih =>
    rw [List.cons_append, Line.unify.eq_3 _ _ (fun _ h _ => hne h) hne, ih, List.cons_append]
  | case4 => rfl

/-- A line break, however it is written, closes no literal and is no backslash. -/
lemma foldlM_pass_unify {q : Char} (hq : q ∉ ['\r', '\n']) (cs : List Char) (escaped : Bool) :
    (Line.unify cs).foldlM (pass q) escaped = cs.foldlM (pass q) escaped := by
  simp only [List.mem_cons, List.not_mem_nil, or_false, not_or] at hq
  have hreturn : ('\r' == q) = false := by simpa using Ne.symm hq.1
  have hline : ('\n' == q) = false := by simpa using Ne.symm hq.2
  fun_induction Line.unify cs generalizing escaped with
  | case1 cs ih =>
    simp only [List.foldlM_cons, ih]
    cases escaped <;> simp [pass, hreturn, hline]
  | case2 cs hcs ih =>
    simp only [List.foldlM_cons, ih]
    cases escaped <;> simp [pass, hreturn, hline]
  | case3 c cs hcs hne ih => simp only [List.foldlM_cons, ih]
  | case4 => rfl

lemma Body.unify {q : Char} (hq : q ∉ ['\r', '\n']) {cs : List Char} (h : Body q cs) :
    Body q (Line.unify cs) := by
  rw [body_iff] at h ⊢
  rw [foldlM_pass_unify hq, h]

/-- The words of a line keep their places when its line breaks are written in one way. -/
lemma unify_joined (ts : List Token) :
    Line.unify (joined ts) = [' '].intercalate (ts.map fun t => Line.unify t.word) := by
  induction ts with
  | nil => rfl
  | cons t ts ih =>
    cases ts with
    | nil => simp [joined]
    | cons u ts =>
      simp only [joined, List.map_cons, List.intercalate_cons_cons] at ih ⊢
      rw [List.append_assoc, List.singleton_append, unify_append _ (by decide),
        Line.unify.eq_3 _ _ (fun _ h _ => absurd h (by decide)) (by decide), ih]
      simp

/-! ## Words and their lexemes -/

/-- The words that stand for operators and constants. -/
def rewritten : List (List Char) :=
  ["and".toList, "or".toList, "not".toList, "True".toList, "False".toList, "None".toList]

lemma word_cases (t : Token) : t.word = t.chars ∨
    ((t.kind = .op ∨ t.kind = .name) ∧ t.word ∈ rewritten) := by
  unfold word
  split
  case h_7 => exact .inl rfl
  all_goals exact .inr ⟨by simp [*], by decide⟩

/-- The lexeme that a token has in a line. -/
def lexeme? (t : Token) : Option Lexeme := (Lexeme.read (Line.unify t.word)).map Prod.fst

/-- The brackets of the expression language. -/
def brackets : List Char := ['(', '[', '\x7b', ')', ']', '\x7d']

/-- The bracket that a token is. -/
def bracket? (t : Token) : Option Char :=
  match t.kind, t.chars with
  | .other, [c] => if brackets.contains c then some c else none
  | _, _ => none

end Token

namespace Expression.Lexeme

/-- The bracket that a lexeme is. -/
def bracket? : Lexeme → Option Char
  | .opening .round => some '('
  | .opening .square => some '['
  | .opening .brace => some '\x7b'
  | .closing .round => some ')'
  | .closing .square => some ']'
  | .closing .brace => some '\x7d'
  | _ => none

def isLiteral : Lexeme → Bool
  | .text _ | .bytes _ | .formatted _ => true
  | _ => false

end Expression.Lexeme

namespace Token

/-- A lexeme is of the same sort as its token: a text for a literal, the bracket for a bracket. -/
structure Agrees (t : Token) (l : Lexeme) : Prop where
  text : t.kind = .string → ∃ s, l = .text s
  notLiteral : t.kind ≠ .string → l.isLiteral = false
  bracket : l.bracket? = t.bracket?

lemma agrees_of_kind {t : Token} {l : Lexeme} (hkind : t.kind ≠ .string)
    (h : l.isLiteral = false ∧ l.bracket? = t.bracket?) : t.Agrees l :=
  ⟨fun hstring => absurd hstring hkind, fun _ => h.1, h.2⟩

/-- Text that is read as one lexeme or not at all, whatever stands apart behind it. -/
def ReadAs (cs : List Char) (l : Option Lexeme) : Prop :=
  ∀ rest, Parted rest → Lexeme.read (cs ++ rest) = l.map (·, rest)

variable {q c : Char} {b cs rest : List Char}

/-! ### Literals -/

/-- A literal ends at its second quote, or at a line break before it. -/
lemma shortBody_cases (hq : q ≠ '\\') (h : Body q b) :
    (∀ rest, Lexeme.shortBody q (b ++ q :: rest) = some (b, rest)) ∨
      ∀ rest, Lexeme.shortBody q (b ++ q :: rest) = none := by
  induction h with
  | nil =>
    left
    intro rest
    rw [List.nil_append, Lexeme.shortBody.eq_3 _ _ _ (fun _ _ h => absurd h hq),
      if_pos (by simp)]
  | @plain c cs hcq hslash h ih =>
    by_cases hline : c = '\n'
    · right
      intro rest
      rw [List.cons_append, Lexeme.shortBody.eq_3 _ _ _ (fun _ _ h => absurd h hslash),
        if_neg (by simpa using hcq), if_pos (by simpa using hline)]
    · refine ih.imp (fun ih rest => ?_) fun ih rest => ?_ <;>
        rw [List.cons_append, shortBody_cons hcq hslash hline, ih] <;> rfl
  | escaped h ih =>
    refine ih.imp (fun ih rest => ?_) fun ih rest => ?_ <;>
      rw [List.cons_append, List.cons_append, Lexeme.shortBody.eq_2, ih] <;> rfl

lemma head?_body (hq : q ≠ '\\') (h : Body q b) : b.head? ≠ some q := by
  cases h with
  | nil => simp
  | plain hcq hslash h => simpa using hcq
  | escaped h => simpa using hq.symm

/-- A literal is a text, or it cannot be read. -/
lemma readAs_literal (hq : q = '"' ∨ q = '\'') (h : Body q b) :
    ∃ l : Option Lexeme, (∀ x ∈ l, ∃ s, x = .text s) ∧ ReadAs (q :: (b ++ [q])) l := by
  have hslash : q ≠ '\\' := by rcases hq with rfl | rfl <;> decide
  have hquote : (q == '"' || q == '\'') = true := by rcases hq with rfl | rfl <;> rfl
  have hread {rest : List Char} (hrest : Parted rest) :
      Lexeme.read (q :: (b ++ [q]) ++ rest) =
        (Lexeme.shortBody q (b ++ q :: rest)).bind fun r =>
          (Lexeme.ofLiteral? ⟨false, false, false⟩ r.1).map (·, r.2) := by
    have hnumber : Lexeme.startsNumber (q :: (b ++ q :: rest)) = false := by
      rcases hq with rfl | rfl <;> rfl
    have hsingle : ∀ c d r, b ++ q :: rest = c :: d :: r → (c == q && d == q) = false := by
      intro c d r heq
      have hhead := head?_body hslash h
      rw [Bool.and_eq_false_iff, beq_eq_false_iff_ne, beq_eq_false_iff_ne]
      cases b with
      | nil =>
        right
        obtain ⟨-, rfl⟩ := List.cons.inj heq
        rw [hrest d (by simp)]
        rcases hq with rfl | rfl <;> decide
      | cons c' cs =>
        left
        obtain ⟨rfl, -⟩ := List.cons.inj heq
        simpa using hhead
    have happend : q :: (b ++ [q]) ++ rest = q :: (b ++ q :: rest) := by simp
    rw [happend, Lexeme.read, hnumber, if_neg (by simp)]
    simp only [hquote, if_true, literal?_of_single hsingle]
  rcases shortBody_cases hslash h with hbody | hbody
  · refine ⟨Lexeme.ofLiteral? ⟨false, false, false⟩ b, fun x hx => ?_, fun rest hrest => ?_⟩
    · have htext : (Escape.decode Escape.inText b).map (fun cs => Lexeme.text (String.ofList cs)) =
          some x := hx
      obtain ⟨cs, -, rfl⟩ := Option.map_eq_some_iff.1 htext
      exact ⟨_, rfl⟩
    · rw [hread hrest, hbody, Option.bind_some]
  · refine ⟨none, by simp, fun rest hrest => ?_⟩
    rw [hread hrest, hbody]
    rfl

/-! ### Names and operators -/

/-- A word that a letter starts is a reserved word or a name, or it cannot be read. -/
lemma readAs_letters (hne : cs ≠ []) (hall : ∀ c ∈ cs, isWordChar c = true)
    (hdigit : cs.head?.all Char.isDigit = false) :
    ∃ l : Option Lexeme, (∀ x ∈ l, x.isLiteral = false ∧ x.bracket? = none) ∧ ReadAs cs l := by
  have hread (rest : List Char) (hrest : Parted rest) := Sign.read_letters hne hall hdigit hrest
  cases hk : Keyword.ofString? (String.ofList cs) with
  | some k =>
    refine ⟨some (.keyword k), by simp [Lexeme.isLiteral, Lexeme.bracket?], fun rest hrest => ?_⟩
    simp [hread rest hrest, hk]
  | none =>
    cases hi : isIdentifier cs with
    | true =>
      refine ⟨some (.name (String.ofList (Normalization.normalize cs))),
        by simp [Lexeme.isLiteral, Lexeme.bracket?], fun rest hrest => ?_⟩
      simp [hread rest hrest, hk, hi]
    | false =>
      refine ⟨none, by simp, fun rest hrest => ?_⟩
      simp [hread rest hrest, hk, hi]

lemma readAs_operator (h : cs ∈ operators) : ∃ l : Option Lexeme,
    (∀ x ∈ l, x.isLiteral = false ∧ x.bracket? = none) ∧ ReadAs (word ⟨.op, cs⟩) l := by
  have hsign {cs : List Char} {p : Punctuation}
      (hread : ∀ r, Lexeme.read (cs ++ ' ' :: r) = some (.punctuation p, ' ' :: r))
      (hend : Lexeme.read (cs ++ []) = some (.punctuation p, [])) : ∃ l : Option Lexeme,
      (∀ x ∈ l, x.isLiteral = false ∧ x.bracket? = none) ∧ ReadAs cs l := by
    refine ⟨some (.punctuation p), by simp [Lexeme.isLiteral, Lexeme.bracket?], fun rest hrest => ?_⟩
    cases rest with
    | nil => exact hend
    | cons c r =>
      obtain rfl : c = ' ' := hrest c (by simp)
      exact hread r
  simp only [operators, List.mem_cons, List.not_mem_nil, or_false] at h
  rcases h with rfl | rfl | rfl | rfl | rfl | rfl | rfl
  · exact readAs_letters (by decide) (by decide) (by decide)
  · exact readAs_letters (by decide) (by decide) (by decide)
  · exact hsign (fun r => rfl) rfl
  · exact hsign (fun r => rfl) rfl
  · exact hsign (fun r => rfl) rfl
  · exact hsign (fun r => rfl) rfl
  · exact readAs_letters (by decide) (by decide) (by decide)

/-! ### Single characters -/

/-- A character of ASCII with a space or nothing behind it is punctuation by itself, if it is any. -/
lemma punctuation?_single (hc : c.toNat < 128) : ∃ l : Option Lexeme,
    (∀ x ∈ l, x.isLiteral = false ∧ x.bracket? = if brackets.contains c then some c else none) ∧
      Lexeme.punctuation? [c] = l.map (·, []) ∧
        ∀ r, Lexeme.punctuation? (c :: ' ' :: r) = l.map (·, ' ' :: r) := by
  have hall {n : Nat} (h : n < 128) :
      ((Lexeme.punctuation? [Char.ofNat n]).map Prod.fst).all (fun x => !x.isLiteral &&
        x.bracket? == if brackets.contains (Char.ofNat n) then some (Char.ofNat n) else none) = true ∧
      Lexeme.punctuation? [Char.ofNat n] =
        ((Lexeme.punctuation? [Char.ofNat n]).map Prod.fst).map (·, []) ∧
      ∀ r, Lexeme.punctuation? (Char.ofNat n :: ' ' :: r) =
        ((Lexeme.punctuation? [Char.ofNat n]).map Prod.fst).map (·, ' ' :: r) := by
    interval_cases n <;> exact ⟨rfl, rfl, fun r => rfl⟩
  obtain ⟨hsort, hend, hspace⟩ := hall hc
  rw [Char.ofNat_toNat] at hsort hend hspace
  refine ⟨(Lexeme.punctuation? [c]).map Prod.fst, fun x hx => ?_, hend, hspace⟩
  rw [Option.mem_def] at hx
  rw [hx] at hsort
  simpa using hsort

lemma readAs_other (hdigit : isDecimalDigit c = false) (hname : isNameStart c = false)
    (hquote : (c == '"' || c == '\'') = false) : ∃ l : Option Lexeme,
    (∀ x ∈ l, x.isLiteral = false ∧ x.bracket? = if brackets.contains c then some c else none) ∧
      ReadAs [c] l := by
  by_cases hascii : c.toNat < 128
  · obtain ⟨l, hsort, hend, hspace⟩ := punctuation?_single hascii
    have hword : isWordChar c = false := by
      simp only [isNameStart, Bool.or_eq_false_iff] at hname
      simp [isWordChar, Char.isAlphanum, hname.1, hname.2, isDigit_eq_false hdigit]
      omega
    have hread {rest : List Char} (hrest : Parted rest) :
        Lexeme.read (c :: rest) = Lexeme.punctuation? (c :: rest) := by
      have hnumber : Lexeme.startsNumber (c :: rest) = false := by
        unfold Lexeme.startsNumber
        split
        · next d r heq =>
          obtain ⟨-, rfl⟩ := List.cons.inj heq
          rw [hrest d (by simp)]
          rfl
        · next heq =>
          obtain ⟨rfl, -⟩ := List.cons.inj heq
          exact isDigit_eq_false hdigit
        · rfl
      rw [Lexeme.read, hnumber, if_neg (by simp)]
      simp only [hquote, hword, Bool.false_eq_true, if_false]
    refine ⟨l, hsort, fun rest hrest => ?_⟩
    rw [List.singleton_append, hread hrest]
    cases rest with
    | nil => exact hend
    | cons d r =>
      obtain rfl : d = ' ' := hrest d (by simp)
      exact hspace r
  · have hword : isWordChar c = true := by
      simp only [isWordChar, Bool.or_eq_true, decide_eq_true_eq]
      exact .inr (by omega)
    have hbracket : brackets.contains c = false := by
      have hall : ∀ d ∈ brackets, d.toNat < 128 := by decide
      by_contra hmem
      rw [Bool.not_eq_false, List.contains_eq_mem, decide_eq_true_eq] at hmem
      exact hascii (hall c hmem)
    obtain ⟨l, hsort, hl⟩ := readAs_letters (List.cons_ne_nil c []) (by simpa using hword)
      (by simpa using isDigit_eq_false hdigit)
    refine ⟨l, fun x hx => ?_, hl⟩
    rw [hbracket]
    exact hsort x hx

/-! ### Tokens -/

lemma unify_of_all {p : Char → Bool} (hp : p '\r' = false) (h : ∀ c ∈ cs, p c = true) :
    Line.unify cs = cs := by
  refine Sign.unify_eq_self fun hmem => ?_
  rw [h _ hmem] at hp
  cases hp

/-- A token that is no blank and no quote by itself has at most one lexeme, which does not depend on
what stands apart behind it. -/
theorem exists_readAs {t : Token} (h : t.Legible) :
    ∃ l : Option Lexeme, (∀ x ∈ l, t.Agrees x) ∧ ReadAs (Line.unify t.word) l := by
  obtain ⟨hscanned, hspace, hquote⟩ := h
  cases hscanned with
  | @string q b hq hb =>
    have hbreak : q ∉ ['\r', '\n'] := by rcases hq with rfl | rfl <;> decide
    obtain ⟨l, htext, hl⟩ := readAs_literal hq (hb.unify hbreak)
    simp only [List.mem_cons, List.not_mem_nil, or_false, not_or] at hbreak
    have hword : Line.unify (word ⟨.string, q :: (b ++ [q])⟩) = q :: (Line.unify b ++ [q]) := by
      have hone : Line.unify [q] = [q] := Sign.unify_eq_self (by simpa using Ne.symm hbreak.1)
      have hchars : word ⟨.string, q :: (b ++ [q])⟩ = q :: (b ++ [q]) := rfl
      rw [hchars, Line.unify.eq_3 _ _ (fun _ h _ => hbreak.1 h) hbreak.1,
        unify_append b hbreak.2, hone]
    refine ⟨l, fun x hx => ?_, hword ▸ hl⟩
    obtain ⟨s, rfl⟩ := htext x hx
    exact ⟨fun _ => ⟨s, rfl⟩, fun h => absurd rfl h, rfl⟩
  | @number cs hcs =>
    obtain ⟨n, hn⟩ := read_number hcs
    refine ⟨n.map .number, fun x hx => ?_, ?_⟩
    · obtain ⟨n, -, rfl⟩ := Option.map_eq_some_iff.1 hx
      exact agrees_of_kind (by simp) ⟨rfl, rfl⟩
    · have hword : Line.unify (word ⟨.number, cs⟩) = cs := Sign.unify_eq_self fun hmem => by
        have := mem_of_isNumber hcs hmem
        revert this
        decide
      intro rest hrest
      rw [hword, hn rest hrest, Option.map_map]
      rfl
  | @op cs hcs =>
    obtain ⟨l, hsort, hl⟩ := readAs_operator hcs
    have hword : Line.unify (word ⟨.op, cs⟩) = word ⟨.op, cs⟩ := by
      have hall : ∀ cs ∈ operators, '\r' ∉ word ⟨.op, cs⟩ := by decide
      exact Sign.unify_eq_self (hall cs hcs)
    exact ⟨l, fun x hx => agrees_of_kind (by simp) (hsort x hx), by rwa [hword]⟩
  | @name c cs hc hcs =>
    have hletters : (∃ d ds, word ⟨.name, c :: cs⟩ = d :: ds ∧ isNameStart d = true) ∧
        ∀ d ∈ word ⟨.name, c :: cs⟩, isNameChar d = true := by
      rcases word_cases ⟨.name, c :: cs⟩ with hword | ⟨-, hword⟩
      · rw [hword]
        refine ⟨⟨c, cs, rfl, hc⟩, fun d hd => ?_⟩
        rcases List.mem_cons.1 hd with rfl | hd
        · simp only [isNameStart, Bool.or_eq_true] at hc
          simp only [isNameChar, Char.isAlphanum, Bool.or_eq_true]
          exact hc.imp_left .inl
        · exact hcs d hd
      · have hall : ∀ w ∈ rewritten, w.head?.any isNameStart = true ∧ w.all isNameChar = true := by
          decide
        obtain ⟨hhead, htail⟩ := hall _ hword
        refine ⟨?_, List.all_eq_true.1 htail⟩
        cases hw : word ⟨.name, c :: cs⟩ with
        | nil => simp [hw] at hhead
        | cons d ds => exact ⟨d, ds, rfl, by simpa [hw] using hhead⟩
    obtain ⟨⟨d, ds, hword, hd⟩, hall⟩ := hletters
    have hne : word ⟨.name, c :: cs⟩ ≠ [] := by simp [hword]
    obtain ⟨l, hsort, hl⟩ := readAs_letters hne
      (fun d hd => Sign.isWordChar_of_isNameChar (hall d hd))
      (by simpa [hword] using (Sign.toNat_lt_of_isNameStart hd).2)
    refine ⟨l, fun x hx => agrees_of_kind (by simp) (hsort x hx), ?_⟩
    rw [unify_of_all (p := isNameChar) (by decide) hall]
    exact hl
  | space => exact absurd rfl hspace
  | @other c hdigit hname hblank =>
    have hsingle : (c == '"' || c == '\'') = false := by simpa [isQuote, isOther] using hquote
    obtain ⟨l, hsort, hl⟩ := readAs_other hdigit hname hsingle
    have hword : Line.unify (word ⟨.other, [c]⟩) = [c] := by
      refine Sign.unify_eq_self fun hmem => ?_
      obtain rfl : '\r' = c := List.mem_singleton.1 hmem
      exact absurd hblank (by decide)
    exact ⟨l, fun x hx => agrees_of_kind (by simp) (hsort x hx), by rwa [hword]⟩

namespace Legible

variable {t : Token}

lemma readAs (h : t.Legible) : ReadAs (Line.unify t.word) t.lexeme? := by
  obtain ⟨l, -, hl⟩ := exists_readAs h
  have hlexeme : t.lexeme? = l := by
    have hself := hl [] (by simp [Parted])
    rw [List.append_nil] at hself
    rw [lexeme?, hself]
    cases l <;> rfl
  rwa [hlexeme]

lemma agrees (h : t.Legible) {l : Lexeme} (hl : t.lexeme? = some l) : t.Agrees l := by
  obtain ⟨l', hsort, hread⟩ := exists_readAs h
  have hself := hread [] (by simp [Parted])
  rw [List.append_nil] at hself
  rw [lexeme?, hself, Option.map_map] at hl
  obtain ⟨x, hx, rfl⟩ := Option.map_eq_some_iff.1 hl
  exact hsort x hx

end Legible

/-! ## Lines -/

/-- Beside a backslash, with which no lexeme starts, a token starts with a character that stands at
no other place in a line than at the start of a lexeme. -/
lemma exists_word {t : Token} (h : t.Legible) (hhash : t.isOther '#' = false) :
    ∃ c cs, Line.unify t.word = c :: cs ∧ c ∉ [' ', '\t', '\x0c', '#', '\n'] ∧
      (c = '\\' → cs = [] ∧ t.lexeme? = none) := by
  have hchar {p : Char → Bool} (hword : t.word.head?.any p = true)
      (hp : ∀ d ∈ [' ', '\t', '\x0c', '#', '\n', '\\', '\r'], p d = false) :
      ∃ c cs, Line.unify t.word = c :: cs ∧ c ∉ [' ', '\t', '\x0c', '#', '\n'] ∧
        (c = '\\' → cs = [] ∧ t.lexeme? = none) := by
    cases hw : t.word with
    | nil => simp [hw] at hword
    | cons c cs =>
      have hne {d : Char} (hd : d ∈ [' ', '\t', '\x0c', '#', '\n', '\\', '\r']) : c ≠ d := by
        rintro rfl
        simp [hw, hp c hd] at hword
      refine ⟨c, Line.unify cs, ?_, ?_, fun h => absurd h (hne (by decide))⟩
      · rw [Line.unify.eq_3 _ _ (fun _ h _ => hne (by decide) h) (hne (by decide))]
      · intro hmem
        have hsub : ∀ d ∈ [' ', '\t', '\x0c', '#', '\n'],
            d ∈ [' ', '\t', '\x0c', '#', '\n', '\\', '\r'] := by
          decide
        exact hne (hsub c hmem) rfl
  obtain ⟨hscanned, hspace, -⟩ := h
  cases hscanned with
  | @string q b hq hb =>
    refine hchar (p := fun c => c == '"' || c == '\'') ?_ (by decide)
    have hfirst : (q == '"' || q == '\'') = true := by simpa using hq
    exact hfirst
  | number hcs =>
    obtain ⟨hwhole, -, -⟩ := hcs
    obtain ⟨d, ds, rfl, hd, -⟩ := digits_cons hwhole
    exact hchar (p := isDecimalDigit) hd (by decide)
  | @op cs hcs =>
    have hall : ∀ cs ∈ operators, (word ⟨.op, cs⟩).head?.any (fun c =>
        isNameChar c || operators.any fun op => op.head? == some c) = true := by
      decide
    exact hchar (hall cs hcs) (by decide)
  | @name c cs hc hcs =>
    rcases word_cases ⟨.name, c :: cs⟩ with hword | ⟨-, hword⟩
    · refine hchar (p := isNameStart) ?_ (by decide)
      rw [hword]
      exact hc
    · have hall : ∀ w ∈ rewritten, w.head?.any isNameChar = true := by decide
      exact hchar (hall _ hword) (by decide)
  | space => exact absurd rfl hspace
  | @other c hdigit hname hblank =>
    by_cases hslash : c = '\\'
    · subst hslash
      exact ⟨'\\', [], rfl, by decide, fun _ => ⟨rfl, rfl⟩⟩
    · have hne : c ≠ '#' := by simpa [isOther] using hhash
      have hfirst : (!(isBlank c || c == '#' || c == '\\')) = true := by simp [hblank, hne, hslash]
      exact hchar (p := fun c => !(isBlank c || c == '#' || c == '\\')) hfirst (by decide)

variable {rest : List Char}

/-- A token at the start of a line is its lexeme. -/
lemma lexemes_token {t : Token} (h : t.Legible) (hhash : t.isOther '#' = false)
    (hrest : Parted rest) (d : Nat) :
    Line.lexemes d (Line.unify t.word ++ rest) =
      t.lexeme?.bind fun l => (l.openAfter Line.bracketLimit d).bind fun e =>
        (Line.lexemes e rest).map (l :: ·) := by
  obtain ⟨c, cs, hword, hhead, hslash⟩ := exists_word h hhash
  simp only [List.mem_cons, List.not_mem_nil, or_false, not_or] at hhead
  have hread := h.readAs rest hrest
  rw [hword, List.cons_append] at hread ⊢
  rw [Line.lexemes.eq_def d (c :: (cs ++ rest))]
  by_cases hc : c = '\\'
  · obtain ⟨rfl, hnone⟩ := hslash hc
    subst hc
    rw [hnone, List.nil_append]
    cases rest with
    | nil => rfl
    | cons x r =>
      obtain rfl : x = ' ' := hrest x (by simp)
      rfl
  · have hlength : rest.length ≤ (cs ++ rest).length := by simp
    simp only [hhead, hc, beq_eq_false_iff_ne.2, ne_eq, not_false_eq_true, Bool.or_self,
      Bool.false_eq_true, if_false, hread]
    cases t.lexeme? with
    | none => rfl
    | some l =>
      simp only [Option.map_some, Option.bind_eq_bind, Option.bind_some, hlength, dite_true]
      have hrest (e : Nat) : ((Line.lexemes e rest).bind fun ls => pure (l :: ls)) =
          (Line.lexemes e rest).map (l :: ·) := by
        cases Line.lexemes e rest <;> rfl
      simp only [hrest]
      cases l with
      | opening b =>
        simp only [Lexeme.openAfter]
        split_ifs <;> rfl
      | closing b =>
        simp only [Lexeme.openAfter]
        split_ifs <;> rfl
      | _ => rfl

/-- The lexemes of a line of words are those of its tokens. -/
lemma lexemes_joined {ts : List Token} (h : ∀ t ∈ ts, t.Legible ∧ t.isOther '#' = false) (d : Nat) :
    Line.lexemes d (Line.unify (joined ts)) =
      (ts.mapM lexeme?).bind fun ls => if Lexeme.Closed d ls then some ls else none := by
  rw [unify_joined]
  induction ts generalizing d with
  | nil =>
    rw [List.map_nil, List.intercalate_nil, Line.lexemes]
    simp [Lexeme.Closed]
  | cons t ts ih =>
    obtain ⟨ht, hhash⟩ := h t (by simp)
    have htail (e : Nat) := ih (fun u hu => h u (by simp [hu])) e
    have hline : Line.lexemes d ([' '].intercalate ((t :: ts).map fun t => Line.unify t.word)) =
        t.lexeme?.bind fun l => (l.openAfter Line.bracketLimit d).bind fun e =>
          ((ts.mapM lexeme?).bind fun ls => if Lexeme.Closed e ls then some ls else none).map
            (l :: ·) := by
      cases ts with
      | nil =>
        have hword := lexemes_token ht hhash (show Parted [] by simp [Parted]) d
        rw [List.append_nil] at hword
        simp only [← htail]
        simpa using hword
      | cons u us =>
        rw [List.map_cons, List.map_cons, List.intercalate_cons_cons, List.append_assoc,
          List.singleton_append, lexemes_token ht hhash (by simp [Parted])]
        simp only [Sign.lexemes_space, ← htail, List.map_cons]
    rw [hline, List.mapM_cons]
    cases t.lexeme? with
    | none => rfl
    | some l =>
      cases ts.mapM lexeme? with
      | none => simp
      | some ls =>
        cases hopen : l.openAfter Line.bracketLimit d with
        | none => simp [Lexeme.closed_cons, hopen]
        | some e => by_cases hclosed : Lexeme.Closed e ls <;> simp [Lexeme.closed_cons, hopen, hclosed]

/-- A text that starts with a word is one line, which starts where the text does. -/
lemma ofChars_eq_lexemes {cs word : List Char} {c : Char} (hcs : Line.unify cs = c :: (word ++ rest))
    (hhead : c ∉ [' ', '\t', '\x0c', '#', '\n']) (hslash : c = '\\' → word = [])
    (hrest : Parted rest) : Line.ofChars cs = Line.lexemes 0 (Line.unify cs) := by
  rw [Line.ofChars, hcs]
  by_cases hc : c = '\\'
  · obtain rfl := hslash hc
    subst hc
    rw [Line.lexemes.eq_def 0 ('\\' :: ([] ++ rest))]
    cases rest with
    | nil => rfl
    | cons x r =>
      obtain rfl : x = ' ' := hrest x (by simp)
      rfl
  · simp only [List.mem_cons, List.not_mem_nil, or_false, not_or] at hhead
    rw [Sign.start_eq_self (by simp [hhead, hc]), Option.bind_some]

/-- The first word of a line, and what stands apart behind it. -/
lemma exists_joined_cons (t : Token) (ts : List Token) :
    ∃ rest, Line.unify (joined (t :: ts)) = Line.unify t.word ++ rest ∧ Parted rest := by
  rw [unify_joined]
  cases ts with
  | nil => exact ⟨[], by simp, by simp [Parted]⟩
  | cons u us =>
    refine ⟨' ' :: [' '].intercalate ((u :: us).map fun t => Line.unify t.word), ?_, by simp [Parted]⟩
    rw [List.map_cons, List.map_cons, List.intercalate_cons_cons]
    simp

/-- The lexemes of a text of words are those of its tokens. -/
theorem ofChars_joined {ts : List Token} (hne : ts ≠ [])
    (h : ∀ t ∈ ts, t.Legible ∧ t.isOther '#' = false) :
    Line.ofChars (joined ts) =
      (ts.mapM lexeme?).bind fun ls => if Lexeme.Closed 0 ls then some ls else none := by
  obtain ⟨t, us, rfl⟩ := List.exists_cons_of_ne_nil hne
  obtain ⟨ht, hhash⟩ := h t (by simp)
  obtain ⟨c, cs, hword, hhead, hslash⟩ := exists_word ht hhash
  obtain ⟨rest, hjoined, hrest⟩ := exists_joined_cons t us
  rw [hword, List.cons_append] at hjoined
  rw [ofChars_eq_lexemes hjoined hhead (fun hc => (hslash hc).1) hrest, lexemes_joined h]

end Token

end TransactionRules
