import TransactionRules.Text.Space

/-!
# Tokens of a condition

A condition is cut into string literals, numbers, operators, names, blanks and single other
characters; each token is the longest of the first kind that fits. Every text can be cut, and the
tokens put together are the text again (`flatMap_chars_scan`).
-/

namespace TransactionRules

inductive TokenKind where
  | string | number | op | name | space | other
deriving DecidableEq, Repr

structure Token where
  kind : TokenKind
  chars : List Char
deriving DecidableEq, Repr

namespace Token

/-- ASCII letters and the underscore start a name. -/
def isNameStart (c : Char) : Bool := c.isAlpha || c == '_'

def isNameChar (c : Char) : Bool := c.isAlphanum || c == '_'

/-- The characters up to and including the quote that closes a literal, and the rest. A backslash
takes the character after it along. -/
def closing (q : Char) : List Char → Option (List Char × List Char)
  | [] => none
  | '\\' :: [] => none
  | '\\' :: c :: cs => (closing q cs).map fun (body, rest) => ('\\' :: c :: body, rest)
  | c :: cs =>
    if c == q then some ([c], cs) else (closing q cs).map fun (body, rest) => (c :: body, rest)

/-- A point with digits after it. -/
def fraction : List Char → List Char × List Char
  | '.' :: d :: cs =>
    if isDecimalDigit d then ('.' :: d :: cs.takeWhile isDecimalDigit, cs.dropWhile isDecimalDigit)
    else ([], '.' :: d :: cs)
  | cs => ([], cs)

/-- An optional sign. -/
def sign : List Char → List Char × List Char
  | '+' :: cs => (['+'], cs)
  | '-' :: cs => (['-'], cs)
  | cs => ([], cs)

/-- The letter `e`, an optional sign, and digits. -/
def exponent : List Char → List Char × List Char
  | e :: cs =>
    match (sign cs).2 with
    | d :: r =>
      if (e == 'e' || e == 'E') && isDecimalDigit d then
        (e :: (sign cs).1 ++ d :: r.takeWhile isDecimalDigit, r.dropWhile isDecimalDigit)
      else ([], e :: cs)
    | [] => ([], e :: cs)
  | [] => ([], [])

/-- The operators of two characters, and `!`. -/
def operator : List Char → Option (List Char × List Char)
  | '&' :: '&' :: cs => some (['&', '&'], cs)
  | '|' :: '|' :: cs => some (['|', '|'], cs)
  | '=' :: '=' :: cs => some (['=', '='], cs)
  | '!' :: '=' :: cs => some (['!', '='], cs)
  | '>' :: '=' :: cs => some (['>', '='], cs)
  | '<' :: '=' :: cs => some (['<', '='], cs)
  | '!' :: cs => some (['!'], cs)
  | _ => none

/-- The first token of `c :: cs`, and the rest. -/
def next (c : Char) (cs : List Char) : Token × List Char :=
  match if c == '"' || c == '\'' then closing c cs else none with
  | some (body, rest) => (⟨.string, c :: body⟩, rest)
  | none =>
    if isDecimalDigit c then
      let digits := cs.takeWhile isDecimalDigit
      let (point, rest) := fraction (cs.dropWhile isDecimalDigit)
      let (power, rest) := exponent rest
      (⟨.number, c :: digits ++ point ++ power⟩, rest)
    else match operator (c :: cs) with
      | some (op, rest) => (⟨.op, op⟩, rest)
      | none =>
        if isNameStart c then (⟨.name, c :: cs.takeWhile isNameChar⟩, cs.dropWhile isNameChar)
        else if isBlank c then (⟨.space, c :: cs.takeWhile isBlank⟩, cs.dropWhile isBlank)
        else (⟨.other, [c]⟩, cs)

theorem append_of_closing {q : Char} {cs body rest : List Char}
    (h : closing q cs = some (body, rest)) : body ++ rest = cs := by
  fun_induction closing q cs generalizing body rest with
  | case1 | case2 => simp at h
  | case3 c cs ih =>
    obtain ⟨⟨b, r⟩, hb, he⟩ := Option.map_eq_some_iff.1 h
    obtain ⟨rfl, rfl⟩ := Prod.mk.inj he
    simp [ih hb]
  | case4 c cs _ _ hq =>
    obtain ⟨rfl, rfl⟩ := Prod.mk.inj (Option.some.inj h)
    rfl
  | case5 c cs _ _ _ ih =>
    obtain ⟨⟨b, r⟩, hb, he⟩ := Option.map_eq_some_iff.1 h
    obtain ⟨rfl, rfl⟩ := Prod.mk.inj he
    simp [ih hb]

theorem append_fraction (cs : List Char) : (fraction cs).1 ++ (fraction cs).2 = cs := by
  unfold fraction
  split
  · split <;> simp
  · rfl

theorem append_sign (cs : List Char) : (sign cs).1 ++ (sign cs).2 = cs := by
  unfold sign
  split <;> rfl

theorem append_exponent (cs : List Char) : (exponent cs).1 ++ (exponent cs).2 = cs := by
  unfold exponent
  split
  · next e cs =>
    split
    · next d r h =>
      split
      · have hs := append_sign cs
        rw [h] at hs
        simp [hs]
      · rfl
    · rfl
  · rfl

theorem append_of_operator {cs op rest : List Char} (h : operator cs = some (op, rest)) :
    op ++ rest = cs := by
  unfold operator at h
  split at h <;> cases h <;> rfl

theorem ne_nil_of_operator {cs op rest : List Char} (h : operator cs = some (op, rest)) : op ≠ [] := by
  unfold operator at h
  split at h <;> cases h <;> simp

/-- No character is lost. -/
theorem append_next (c : Char) (cs : List Char) :
    (next c cs).1.chars ++ (next c cs).2 = c :: cs := by
  unfold next
  split
  · next body rest h =>
    split at h
    · simp [append_of_closing h]
    · simp at h
  · split
    · have hf := append_fraction (cs.dropWhile isDecimalDigit)
      have he := append_exponent (fraction (cs.dropWhile isDecimalDigit)).2
      simp only [List.cons_append, List.append_assoc, he, hf, List.takeWhile_append_dropWhile]
    · split
      · next op rest h => exact append_of_operator h
      · repeat' split
        all_goals simp

theorem chars_next_ne_nil (c : Char) (cs : List Char) : (next c cs).1.chars ≠ [] := by
  unfold next
  split
  · simp
  · split
    · simp
    · split
      · next op rest h => exact ne_nil_of_operator h
      · repeat' split
        all_goals simp

theorem length_next_lt (c : Char) (cs : List Char) : (next c cs).2.length < (c :: cs).length := by
  have h := congrArg List.length (append_next c cs)
  have := List.length_pos_iff.2 (chars_next_ne_nil c cs)
  simp only [List.length_append] at h
  omega

/-- All tokens of a text, blanks included. -/
def scan : List Char → List Token
  | [] => []
  | c :: cs => (next c cs).1 :: scan (next c cs).2
termination_by cs => cs.length
decreasing_by exact length_next_lt c cs

@[simp] theorem scan_nil : scan [] = [] := by rw [scan]

theorem scan_cons (c : Char) (cs : List Char) :
    scan (c :: cs) = (next c cs).1 :: scan (next c cs).2 := by rw [scan]

/-- The tokens of a text put together are the text. -/
theorem flatMap_chars_scan (cs : List Char) : (scan cs).flatMap chars = cs := by
  induction h : cs.length using Nat.strongRecOn generalizing cs with
  | ind n ih =>
    cases cs with
    | nil => simp
    | cons c cs =>
      have hlt := length_next_lt c cs
      rw [scan_cons, List.flatMap_cons, ih _ (h ▸ hlt) _ rfl, append_next]

end Token

end TransactionRules
