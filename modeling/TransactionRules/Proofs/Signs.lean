import Mathlib.Data.List.Chain
import TransactionRules.Condition.Basic
import TransactionRules.Proofs.Numerals
import TransactionRules.Proofs.TextLiterals

/-!
# Signs of a condition

Conditions are written with names, literals, operators, points, brackets and commas. A sign is a token
of the condition and a lexeme of its normal form. Signs that are apart stay what they are when nothing
stands between them (`tokens_of_spaced`); in the normal form a space stands between any two.
-/

namespace TransactionRules

open Expression (Numeral TextLiteral Connective Lexeme Keyword Punctuation Relation Detached Parted)
open scoped Members

/-- The signs that conditions are written with. -/
inductive Sign where
  | field (name : String) (f : Field) (h : Field.ofName? name = some f)
  | truth (b : Bool)
  | null
  | number (n : Numeral)
  | text (l : TextLiteral)
  | connective (op : Connective)
  | not
  | relation (op : Comparison)
  | minus
  | dot
  | method (m : TextMethod)
  | opening
  | closing
  | comma

namespace Sign

/-- How a connective is written in a condition. -/
def connectiveChars : Connective → List Char
  | .and => ['&', '&']
  | .or => ['|', '|']

/-- The sign as a condition has it. -/
def chars : Sign → List Char
  | field name _ _ => name.toList
  | truth true => "true".toList
  | truth false => "false".toList
  | null => "null".toList
  | number n => n.chars
  | text l => l.chars
  | connective op => connectiveChars op
  | not => ['!']
  | relation op => op.symbol.toList
  | minus => ['-']
  | dot => ['.']
  | method m => m.name.toList
  | opening => ['(']
  | closing => [')']
  | comma => [',']

/-- The kind of token that the sign is. -/
def kind : Sign → TokenKind
  | field .. | truth _ | null | method _ => .name
  | number _ => .number
  | text _ => .string
  | connective _ | not => .op
  | relation .lt | relation .gt => .other
  | relation _ => .op
  | minus | dot | opening | closing | comma => .other

def token (w : Sign) : Token := ⟨w.kind, w.chars⟩

/-- The sign as a normal form has it. -/
def word : Sign → List Char
  | truth true => "True".toList
  | truth false => "False".toList
  | null => "None".toList
  | connective .and => "and".toList
  | connective .or => "or".toList
  | not => "not".toList
  | w => w.chars

def connectiveKeyword : Connective → Keyword
  | .and => .and
  | .or => .or

def relationPunctuation : Comparison → Punctuation
  | .eq => .equal
  | .ne => .notEqual
  | .lt => .less
  | .le => .lessEqual
  | .gt => .greater
  | .ge => .greaterEqual

/-- The lexeme that the sign is in an expression. -/
def lexeme : Sign → Lexeme
  | field name _ _ => .name name
  | truth true => .keyword .trueConstant
  | truth false => .keyword .falseConstant
  | null => .keyword .nullConstant
  | number n => .number n.number
  | text l => .text (String.ofList l.text)
  | connective op => .keyword (connectiveKeyword op)
  | not => .keyword .not
  | relation op => .punctuation (relationPunctuation op)
  | minus => .punctuation .minus
  | dot => .punctuation .dot
  | method m => .name m.name
  | opening => .opening .round
  | closing => .closing .round
  | comma => .punctuation .comma

/-! ## Names -/

/-- The names of fields and methods. -/
def names : List String :=
  ["amount", "merchantType", "merchant_type", "merchant", "location", "category", "id",
    "contains", "startsWith", "endsWith"]

lemma mem_names_of_ofName? {name : String} {f : Field} (h : Field.ofName? name = some f) :
    name ∈ names := by
  unfold Field.ofName? at h
  split at h <;> cases h <;> decide

lemma name_mem_names (m : TextMethod) : m.name ∈ names := by cases m <;> decide

/-- A name is none of the words that the normal form rewrites, and no reserved word. -/
lemma names_plain : ∀ name ∈ names,
    name.toList.head?.any Token.isNameStart = true ∧ name.toList.all Token.isNameChar = true ∧
      name ∉ ["true", "false", "null"] ∧ Keyword.ofString? name = none ∧
      isIdentifier name.toList = true ∧ Normalization.normalize name.toList = name.toList := by
  decide

/-! ## Signs as tokens -/

/-- Names and numbers run together with names and numbers. -/
def isWord : Sign → Bool
  | field .. | truth _ | null | number _ | method _ => true
  | _ => false

/-- What may stand behind a sign in a text without becoming a part of it. -/
def Before (rest : List Char) : Sign → Prop
  | field .. | truth _ | null | method _ => ∀ c ∈ rest.head?, Token.isNameChar c = false
  | number _ => Detached rest
  | not | relation .lt | relation .gt => ∀ c ∈ rest.head?, c ≠ '='
  | _ => True

lemma operator_eq_none {c : Char} (h : c ∉ ['&', '|', '=', '!', '>', '<']) (cs : List Char) :
    Token.operator (c :: cs) = none := by
  simp only [List.mem_cons, List.not_mem_nil, or_false, not_or] at h
  unfold Token.operator
  split <;> simp_all

/-- A character of ASCII is a decimal digit only if it is an ASCII digit. -/
lemma isDecimalDigit_eq_isDigit {c : Char} (h : c.toNat < 128) : isDecimalDigit c = c.isDigit := by
  have hzeros : ∀ z ∈ digitZeros, z = 0x30 ∨ 128 ≤ z := by decide
  rw [Bool.eq_iff_iff]
  refine ⟨fun hc => ?_, isDecimalDigit_of_isDigit⟩
  obtain ⟨z, hz, hcz⟩ := List.any_eq_true.1 hc
  rw [Bool.and_eq_true, decide_eq_true_eq, decide_eq_true_eq] at hcz
  obtain rfl : z = 0x30 := (hzeros z hz).resolve_right (by omega)
  rw [Char.isDigit, Bool.and_eq_true, decide_eq_true_eq, decide_eq_true_eq]
  exact ⟨hcz.1, Nat.le_of_lt_succ hcz.2⟩

lemma toNat_lt_of_isNameStart {c : Char} (h : Token.isNameStart c = true) :
    c.toNat < 128 ∧ c.isDigit = false := by
  have hc : c.toNat = c.val.toNat := rfl
  simp only [Token.isNameStart, Char.isAlpha, Char.isUpper, Char.isLower, Bool.or_eq_true,
    Bool.and_eq_true, decide_eq_true_eq, beq_iff_eq, ge_iff_le, UInt32.le_iff_toNat_le] at h
  simp only [Char.isDigit, Bool.and_eq_false_iff, decide_eq_false_iff_not, ge_iff_le,
    UInt32.le_iff_toNat_le]
  rcases h with (h | h) | rfl
  · simp at h ⊢
    omega
  · simp at h ⊢
    omega
  · decide

lemma next_name {c : Char} {cs rest : List Char} (hc : Token.isNameStart c = true)
    (hcs : ∀ d ∈ cs, Token.isNameChar d = true)
    (hrest : ∀ d ∈ rest.head?, Token.isNameChar d = false) :
    Token.next c (cs ++ rest) = (⟨.name, c :: cs⟩, rest) := by
  have hne {d : Char} (hd : Token.isNameStart d = false) : c ≠ d := by
    rintro rfl
    rw [hc] at hd
    cases hd
  have hquote : (c == '"' || c == '\'') = false := by
    rw [Bool.or_eq_false_iff, beq_eq_false_iff_ne, beq_eq_false_iff_ne]
    exact ⟨hne rfl, hne rfl⟩
  have hdigit : isDecimalDigit c = false := by
    obtain ⟨hascii, hdigit⟩ := toNat_lt_of_isNameStart hc
    rw [isDecimalDigit_eq_isDigit hascii, hdigit]
  have hoperator := operator_eq_none (c := c) (by
    simp only [List.mem_cons, List.not_mem_nil, or_false, not_or]
    exact ⟨hne rfl, hne rfl, hne rfl, hne rfl, hne rfl, hne rfl⟩) (cs ++ rest)
  unfold Token.next
  simp only [hquote, Bool.false_eq_true, if_false, hdigit, hoperator, hc, if_true,
    takeWhile_append_stop hcs hrest, dropWhile_append_stop hcs hrest]

/-- The operators that an equality sign behind them would make another operator. -/
lemma next_not {rest : List Char} (hrest : ∀ c ∈ rest.head?, c ≠ '=') :
    Token.next '!' rest = (⟨.op, ['!']⟩, rest) := by
  cases rest with
  | nil => rfl
  | cons c rest =>
    have hc := hrest c (by simp)
    have hoperator : Token.operator ('!' :: c :: rest) = some (['!'], c :: rest) := by
      unfold Token.operator
      split <;> simp_all
    simp [Token.next, hoperator, show isDecimalDigit '!' = false by decide]

lemma next_order {c : Char} (hc : c = '<' ∨ c = '>') {rest : List Char}
    (hrest : ∀ d ∈ rest.head?, d ≠ '=') : Token.next c rest = (⟨.other, [c]⟩, rest) := by
  have hoperator : Token.operator (c :: rest) = none := by
    cases rest with
    | nil => rcases hc with rfl | rfl <;> rfl
    | cons d rest =>
      have hd := hrest d (by simp)
      unfold Token.operator
      rcases hc with rfl | rfl <;> split <;> simp_all
  have hkind : (c == '"' || c == '\'') = false ∧ isDecimalDigit c = false ∧
      Token.isNameStart c = false ∧ isBlank c = false := by
    rcases hc with rfl | rfl <;> decide
  obtain ⟨hquote, hdigit, hname, hblank⟩ := hkind
  simp [Token.next, hoperator, hquote, hdigit, hname, hblank]

/-- The first token of a text that starts with a sign is the sign. -/
lemma next_append (w : Sign) {c : Char} {cs rest : List Char} (hcs : w.chars = c :: cs)
    (hrest : w.Before rest) : Token.next c (cs ++ rest) = (w.token, rest) := by
  have hname {name : String} (hname : name ∈ names) (hchars : name.toList = c :: cs)
      (hrest : ∀ d ∈ rest.head?, Token.isNameChar d = false) :
      Token.next c (cs ++ rest) = (⟨.name, name.toList⟩, rest) := by
    obtain ⟨hstart, hall, -⟩ := names_plain name hname
    rw [hchars] at hstart hall ⊢
    exact next_name (by simpa using hstart)
      (fun d hd => List.all_eq_true.1 hall d (List.mem_cons_of_mem c hd)) hrest
  cases w with
  | field name f h => exact hname (mem_names_of_ofName? h) hcs hrest
  | truth b =>
    cases b <;> cases hcs <;> exact next_name rfl (by decide) hrest
  | null =>
    cases hcs
    exact next_name rfl (by decide) hrest
  | number n => exact n.next_append hrest hcs
  | text l =>
    obtain ⟨rfl, rfl⟩ := List.cons.inj hcs
    rw [List.append_assoc]
    exact l.next_append rest
  | connective op =>
    cases op <;> cases hcs <;> rfl
  | not =>
    cases hcs
    exact next_not hrest
  | relation op =>
    cases op with
    | lt =>
      cases hcs
      exact next_order (.inl rfl) hrest
    | gt =>
      cases hcs
      exact next_order (.inr rfl) hrest
    | _ =>
      cases hcs
      rfl
  | minus | dot | opening | closing | comma =>
    cases hcs
    rfl
  | method m => exact hname (name_mem_names m) hcs hrest

/-! ## Signs with blanks between them -/

/-- Signs that stay what they are when nothing stands between them: not two words, no order relation
or `!` before an equality sign, no digits behind a point. -/
def apart : Sign → Sign → Bool
  | dot, method _ => true
  | dot, _ => false
  | not, relation _ | relation _, relation _ => false
  | v, w => !(v.isWord && w.isWord)

/-- `Spaced ws cs`: the signs `ws` in order, with any blanks before, between and behind them. -/
inductive Spaced : List Sign → List Char → Prop
  | nil : Spaced [] []
  | blank {b : Char} {ws : List Sign} {cs : List Char} (hb : isBlank b = true) (h : Spaced ws cs) :
      Spaced ws (b :: cs)
  | sign {w : Sign} {ws : List Sign} {cs : List Char} (h : Spaced ws cs) :
      Spaced (w :: ws) (w.chars ++ cs)

/-- The first character of a sign. A word starts like a name or a number, every other sign with a
character of its own. -/
lemma head?_chars (w : Sign) : ∀ c ∈ w.chars.head?,
    (w.isWord = true ∧ Token.isNameChar c = true) ∨
      (w.isWord = false ∧ c ∈ ['"', '\'', '&', '|', '!', '<', '>', '-', '(', ')', ',']) ∨
      (w = dot ∧ c = '.') ∨ ((∃ op, w = relation op) ∧ c = '=') := by
  have hname {name : String} (hname : name ∈ names) {c : Char} (hc : c ∈ name.toList.head?) :
      Token.isNameChar c = true := by
    obtain ⟨-, hall, -⟩ := names_plain name hname
    exact List.all_eq_true.1 hall c (List.mem_of_head? hc)
  intro c hc
  cases w with
  | field name f h => exact .inl ⟨rfl, hname (mem_names_of_ofName? h) hc⟩
  | method m => exact .inl ⟨rfl, hname (name_mem_names m) hc⟩
  | truth b =>
    left
    cases b <;> cases hc <;> decide
  | null =>
    left
    cases hc
    decide
  | number n =>
    obtain ⟨d, ds, hwhole, hd, -⟩ := n.exists_whole
    have hc : c ∈ n.chars.head? := hc
    obtain rfl : d = c := by simpa [Numeral.chars, hwhole] using hc
    exact .inl ⟨rfl, by simp [Token.isNameChar, Char.isAlphanum, hd]⟩
  | text l =>
    have hc : c ∈ l.chars.head? := hc
    obtain rfl : l.quote = c := by simpa [TextLiteral.chars] using hc
    refine .inr (.inl ⟨rfl, ?_⟩)
    rcases l.isQuote with h | h <;> simp [h]
  | relation op =>
    cases op with
    | eq =>
      cases hc
      exact .inr (.inr (.inr ⟨⟨_, rfl⟩, rfl⟩))
    | _ =>
      cases hc
      exact .inr (.inl ⟨rfl, by decide⟩)
  | dot =>
    cases hc
    exact .inr (.inr (.inl ⟨rfl, rfl⟩))
  | connective op =>
    cases op <;> cases hc <;> exact .inr (.inl ⟨rfl, by decide⟩)
  | not | minus | opening | closing | comma =>
    cases hc
    exact .inr (.inl ⟨rfl, by decide⟩)

/-- All characters that are blanks. -/
def blanks : List Char :=
  ([(0x09, 5), (0x1c, 5), (0x85, 1), (0xa0, 1), (0x1680, 1), (0x2000, 11), (0x2028, 2), (0x202f, 1),
    (0x205f, 1), (0x3000, 1)].flatMap fun (start, length) => List.range' start length).map Char.ofNat

lemma mem_blanks {c : Char} (h : isBlank c = true) : c ∈ blanks := by
  have hc : Char.ofNat c.toNat = c := Char.ofNat_toNat c
  refine List.mem_map.2 ⟨c.toNat, ?_, hc⟩
  simp only [isBlank, Bool.or_eq_true, Bool.and_eq_true, decide_eq_true_eq, beq_iff_eq] at h
  simp only [List.flatMap_cons, List.flatMap_nil, List.append_nil, List.mem_append,
    List.mem_range'_1]
  omega

lemma isBlank_cases {c : Char} (h : isBlank c = true) :
    Token.isNameChar c = false ∧ isDecimalDigit c = false ∧
      c ∉ ['"', '\'', '&', '|', '=', '!', '>', '<', '.'] := by
  have hall : ∀ c ∈ blanks, Token.isNameChar c = false ∧ isDecimalDigit c = false ∧
      c ∉ ['"', '\'', '&', '|', '=', '!', '>', '<', '.'] := by
    decide
  exact hall c (mem_blanks h)

lemma exists_chars (w : Sign) : ∃ c cs, w.chars = c :: cs := by
  have hname {name : String} (hname : name ∈ names) : ∃ c cs, name.toList = c :: cs := by
    obtain ⟨hstart, -⟩ := names_plain name hname
    cases hchars : name.toList with
    | nil => simp [hchars] at hstart
    | cons c cs => exact ⟨c, cs, rfl⟩
  cases w with
  | field name f h => exact hname (mem_names_of_ofName? h)
  | method m => exact hname (name_mem_names m)
  | truth b => cases b <;> exact ⟨_, _, rfl⟩
  | number n =>
    obtain ⟨d, ds, hwhole, -⟩ := n.exists_whole
    have hchars : n.chars = d :: (ds ++ (n.fractionChars ++ n.powerChars)) := by
      simp [Numeral.chars, hwhole]
    exact ⟨d, _, hchars⟩
  | connective op => cases op <;> exact ⟨_, _, rfl⟩
  | relation op => cases op <;> exact ⟨_, _, rfl⟩
  | null | text | not | minus | dot | opening | closing | comma => exact ⟨_, _, rfl⟩

namespace Spaced

variable {w : Sign} {ws : List Sign} {cs : List Char}

/-- A text with blanks starts with a blank or with its first sign. -/
lemma head? (h : Spaced ws cs) :
    ∀ c ∈ cs.head?, isBlank c = true ∨ ∃ w vs, ws = w :: vs ∧ c ∈ w.chars.head? := by
  intro d hd
  cases h with
  | nil => cases hd
  | blank hb h =>
    cases hd
    exact .inl hb
  | @sign w ws cs h =>
    obtain ⟨c, r, hc⟩ := w.exists_chars
    rw [hc] at hd
    refine .inr ⟨w, ws, rfl, ?_⟩
    rw [hc]
    exact hd

/-- A point that is no blank is the first sign. -/
lemma of_point (h : Spaced ws ('.' :: cs)) : ∃ vs, ws = dot :: vs ∧ Spaced vs cs := by
  generalize hcs : '.' :: cs = cs' at h
  cases h with
  | nil => cases hcs
  | blank hb h =>
    cases hcs
    cases hb
  | @sign w ws cs' h =>
    obtain ⟨c, r, hc⟩ := w.exists_chars
    have hpoint : '.' ∈ w.chars.head? := by
      rw [hc, List.cons_append] at hcs
      obtain ⟨rfl, -⟩ := List.cons.inj hcs
      simp [hc]
    rcases w.head?_chars '.' hpoint with ⟨-, h'⟩ | ⟨-, h'⟩ | ⟨rfl, -⟩ | ⟨-, h'⟩
    · cases h'
    · exact absurd h' (by decide)
    · obtain ⟨-, rfl⟩ := List.cons.inj hcs
      exact ⟨ws, rfl, h⟩
    · cases h'

/-- Behind a sign of which only words are not apart stands no character of a word. -/
lemma not_isNameChar (h : Spaced ws cs) (hapart : ∀ v vs, ws = v :: vs → v.isWord = false) :
    ∀ c ∈ cs.head?, Token.isNameChar c = false ∧ isDecimalDigit c = false := by
  intro c hc
  rcases h.head? c hc with hblank | ⟨v, vs, hws, hv⟩
  · exact ⟨(isBlank_cases hblank).1, (isBlank_cases hblank).2.1⟩
  · rcases v.head?_chars c hv with ⟨hword, -⟩ | ⟨-, hmem⟩ | ⟨-, rfl⟩ | ⟨-, rfl⟩
    · rw [hapart v vs hws] at hword
      cases hword
    · have hall : ∀ c ∈ ['"', '\'', '&', '|', '!', '<', '>', '-', '(', ')', ','],
          Token.isNameChar c = false ∧ isDecimalDigit c = false := by
        decide
      exact hall c hmem
    · decide
    · decide

/-- Behind a point that ends a number stands the name of a method. -/
lemma not_isDecimalDigit (h : Spaced (dot :: ws) ('.' :: cs))
    (hapart : ∀ v vs, ws = v :: vs → apart dot v = true) :
    ∀ c ∈ cs.head?, isDecimalDigit c = false := by
  obtain ⟨vs, hvs, h⟩ := h.of_point
  obtain rfl : ws = vs := (List.cons.inj hvs).2
  intro c hc
  rcases h.head? c hc with hblank | ⟨v, vs, hws, hv⟩
  · exact (isBlank_cases hblank).2.1
  · obtain ⟨m, rfl⟩ : ∃ m, v = method m := by
      have := hapart v vs hws
      cases v with
      | method m => exact ⟨m, rfl⟩
      | _ => cases this
    obtain ⟨hstart, -⟩ := names_plain m.name (name_mem_names m)
    have hhead : m.name.toList.head? = some c := hv
    rw [hhead] at hstart
    obtain ⟨hascii, hdigit⟩ := toNat_lt_of_isNameStart (c := c) (by simpa using hstart)
    rw [isDecimalDigit_eq_isDigit hascii, hdigit]

/-- Behind a sign that is not apart from relations stands no equality sign. -/
lemma ne_equal (h : Spaced ws cs) (hapart : ∀ v vs, ws = v :: vs → ∀ op, v ≠ relation op) :
    ∀ c ∈ cs.head?, c ≠ '=' := by
  rintro c hc rfl
  rcases h.head? _ hc with hblank | ⟨v, vs, hws, hv⟩
  · cases hblank
  · rcases v.head?_chars _ hv with ⟨-, h'⟩ | ⟨-, h'⟩ | ⟨-, h'⟩ | ⟨⟨op, rfl⟩, -⟩
    · cases h'
    · exact absurd h' (by decide)
    · cases h'
    · exact hapart _ vs hws op rfl

/-- What stands behind a sign that is apart from the next one does not become a part of it. -/
lemma before (h : Spaced ws cs) (hapart : (w :: ws).IsChain fun v w => apart v w = true) :
    w.Before cs := by
  have hnext : ∀ v vs, ws = v :: vs → apart w v = true := by
    rintro v vs rfl
    exact (List.isChain_cons_cons.1 hapart).1
  have hword (hw : ∀ v, apart w v = !v.isWord) : ∀ v vs, ws = v :: vs → v.isWord = false := by
    intro v vs hws
    simpa [hw] using hnext v vs hws
  have hrelation (hw : ∀ op, apart w (relation op) = false) :
      ∀ v vs, ws = v :: vs → ∀ op, v ≠ relation op := by
    rintro v vs hws op rfl
    have := hnext _ vs hws
    rw [hw] at this
    cases this
  cases w with
  | field | truth | null | method =>
    exact fun c hc => (h.not_isNameChar (hword fun v => by cases v <;> rfl) c hc).1
  | number n =>
    have hhead := h.not_isNameChar (hword fun v => by cases v <;> rfl)
    refine ⟨fun c hc => ⟨?_, (hhead c hc).2⟩, ?_⟩
    · have hc := (hhead c hc).1
      simp only [Token.isNameChar, Char.isAlphanum, Bool.or_eq_false_iff] at hc
      exact hc.1.1
    · rintro d r rfl
      obtain ⟨vs, rfl, -⟩ := h.of_point
      refine h.not_isDecimalDigit ?_ d (by simp)
      rintro v vs rfl
      exact (List.isChain_cons_cons.1 (List.isChain_cons_cons.1 hapart).2).1
  | not => exact h.ne_equal (hrelation fun op => rfl)
  | relation op =>
    cases op with
    | lt | gt => exact h.ne_equal (hrelation fun op => rfl)
    | _ => trivial
  | _ => trivial

end Spaced

end Sign

namespace Sign

/-! ## Signs as lexemes -/

/-- The normal form writes a sign as its word. -/
lemma word_token (w : Sign) : w.token.word = w.word := by
  have hname {name : String} (hname : name ∈ names) :
      Token.word ⟨.name, name.toList⟩ = name.toList := by
    obtain ⟨-, -, hplain, -⟩ := names_plain name hname
    simp only [List.mem_cons, List.not_mem_nil, or_false, not_or] at hplain
    simp [Token.word, hplain]
  cases w with
  | field name f h => exact hname (mem_names_of_ofName? h)
  | method m => exact hname (name_mem_names m)
  | truth b => cases b <;> rfl
  | connective op => cases op <;> rfl
  | relation op => cases op <;> rfl
  | _ => rfl

/-- A word that no digit starts is a reserved word or a name. -/
lemma read_letters {cs rest : List Char} (hcs : cs ≠ [])
    (hall : ∀ c ∈ cs, Expression.isWordChar c = true) (hdigit : cs.head?.all Char.isDigit = false)
    (hrest : Parted rest) :
    Lexeme.read (cs ++ rest) =
      match Keyword.ofString? (String.ofList cs) with
      | some k => some (.keyword k, rest)
      | none =>
        if isIdentifier cs then some (.name (String.ofList (Normalization.normalize cs)), rest)
        else none := by
  have hstop : ∀ c ∈ rest.head?, Expression.isWordChar c = false := by
    intro c hc
    rw [hrest c hc]
    decide
  have hword : Lexeme.word? (cs ++ rest) =
      match Keyword.ofString? (String.ofList cs) with
      | some k => some (.keyword k, rest)
      | none =>
        if isIdentifier cs then some (.name (String.ofList (Normalization.normalize cs)), rest)
        else none := by
    unfold Lexeme.word?
    simp only [takeWhile_append_stop hall hstop,
      dropWhile_append_stop hall hstop]
    cases rest with
    | nil => rfl
    | cons c rest =>
      obtain rfl : c = ' ' := hrest c (by simp)
      rfl
  obtain ⟨c, r, rfl⟩ := List.exists_cons_of_ne_nil hcs
  have hc := hall c (by simp)
  have hne {d : Char} (hd : Expression.isWordChar d = false) : c ≠ d := by
    rintro rfl
    rw [hc] at hd
    cases hd
  have hnumber : Lexeme.startsNumber (c :: (r ++ rest)) = false := by
    unfold Lexeme.startsNumber
    split
    · next heq => exact absurd (List.cons.inj heq).1 (hne rfl)
    · next heq =>
      obtain ⟨rfl, -⟩ := List.cons.inj heq
      simpa using hdigit
    · rfl
  have hquote : (c == '"' || c == '\'') = false := by simp [hne (d := '"') rfl, hne (d := '\'') rfl]
  rw [List.cons_append] at hword ⊢
  rw [Lexeme.read, hnumber, if_neg (by simp)]
  simp only [hquote, hc, if_true, Bool.false_eq_true, if_false]
  exact hword

lemma isWordChar_of_isNameChar {c : Char} (h : Token.isNameChar c = true) :
    Expression.isWordChar c = true := by
  simp only [Token.isNameChar] at h
  simp only [Expression.isWordChar, h, Bool.true_or]

/-- A sign in a normal form is read as its lexeme. -/
lemma read_word (w : Sign) {rest : List Char} (hrest : Parted rest) :
    Lexeme.read (w.word ++ rest) = some (w.lexeme, rest) := by
  have hname {name : String} (hname : name ∈ names) :
      Lexeme.read (name.toList ++ rest) = some (.name name, rest) := by
    obtain ⟨hstart, hall, -, hkeyword, hidentifier, hnormal⟩ := names_plain name hname
    have hhead : name.toList ≠ [] ∧ name.toList.head?.all Char.isDigit = false := by
      cases hchars : name.toList with
      | nil => simp [hchars] at hstart
      | cons c cs =>
        rw [hchars] at hstart
        exact ⟨by simp, by simpa using (toNat_lt_of_isNameStart (c := c) (by simpa using hstart)).2⟩
    rw [read_letters hhead.1 (fun c hc => isWordChar_of_isNameChar (List.all_eq_true.1 hall c hc))
      hhead.2 hrest, String.ofList_toList, hkeyword, hidentifier, hnormal]
    simp
  cases w with
  | field name f h => exact hname (mem_names_of_ofName? h)
  | method m => exact hname (name_mem_names m)
  | truth b => cases b <;> exact read_letters (by decide) (by decide) (by decide) hrest
  | null => exact read_letters (by decide) (by decide) (by decide) hrest
  | connective op => cases op <;> exact read_letters (by decide) (by decide) (by decide) hrest
  | not => exact read_letters (by decide) (by decide) (by decide) hrest
  | number n =>
    obtain ⟨d, ds, hwhole, hd, -⟩ := n.exists_whole
    have hnumber : Lexeme.startsNumber (n.chars ++ rest) = true := by
      have hpoint : d ≠ '.' := by
        rintro rfl
        cases hd
      simp only [Numeral.chars, hwhole, List.cons_append]
      unfold Lexeme.startsNumber
      split
      · next heq => exact absurd (List.cons.inj heq).1 hpoint
      · next heq =>
        obtain ⟨rfl, -⟩ := List.cons.inj heq
        exact hd
      · next heq => cases heq
    have hread := n.read_append hrest
    have hword : Lexeme.read (n.chars ++ rest) = some (.number n.number, rest) := by
      unfold Lexeme.read
      simp only [hnumber, if_true, hread, Option.map_some]
    exact hword
  | text l =>
    refine l.read_append fun hquote => ?_
    have := hrest _ hquote
    rcases l.isQuote with h | h <;> rw [h] at this <;> cases this
  | relation op =>
    cases rest with
    | nil => cases op <;> rfl
    | cons c rest =>
      obtain rfl : c = ' ' := hrest c (by simp)
      cases op <;> rfl
  | minus | dot | opening | closing | comma =>
    cases rest with
    | nil => rfl
    | cons c rest =>
      obtain rfl : c = ' ' := hrest c (by simp)
      rfl

end Sign

namespace Normal

lemma next_blank {b : Char} (hb : isBlank b = true) (cs : List Char) :
    Token.next b cs = (⟨.space, b :: cs.takeWhile isBlank⟩, cs.dropWhile isBlank) := by
  obtain ⟨hname, hdigit, hmem⟩ := Sign.isBlank_cases hb
  simp only [List.mem_cons, List.not_mem_nil, or_false, not_or] at hmem
  have hquote : (b == '"' || b == '\'') = false := by simp [hmem]
  have hstart : Token.isNameStart b = false := by
    simp only [Token.isNameChar, Char.isAlphanum, Bool.or_eq_false_iff] at hname
    simp only [Token.isNameStart, hname.1.1, hname.2, Bool.or_self]
  have hoperator := Sign.operator_eq_none (c := b) (by simp [hmem]) cs
  unfold Token.next
  simp only [hquote, Bool.false_eq_true, if_false, hdigit, hoperator, hstart, hb, if_true]

lemma tokens_dropWhile {b : Char} (hb : isBlank b = true) (cs : List Char) :
    tokens (b :: cs) = tokens (cs.dropWhile isBlank) := by
  unfold tokens
  rw [Token.scan_cons, next_blank hb]
  rfl

lemma tokens_blank {b : Char} (hb : isBlank b = true) (cs : List Char) :
    tokens (b :: cs) = tokens cs := by
  rw [tokens_dropWhile hb]
  cases cs with
  | nil => rfl
  | cons c cs =>
    cases hc : isBlank c with
    | true => rw [List.dropWhile_cons_of_pos hc, tokens_dropWhile hc]
    | false => rw [List.dropWhile_cons_of_neg (by simp [hc])]

/-- The tokens of signs that are apart are the signs, however many blanks stand between them. -/
lemma tokens_of_spaced {ws : List Sign} {cs : List Char} (h : Sign.Spaced ws cs)
    (hapart : ws.IsChain fun v w => v.apart w = true) : tokens cs = ws.map Sign.token := by
  induction h with
  | nil => simp [tokens]
  | blank hb h ih => rw [tokens_blank hb, ih hapart]
  | @sign w ws cs h ih =>
    obtain ⟨c, r, hc⟩ := w.exists_chars
    have hkind : (w.token.kind != .space) = true := by
      cases w with
      | relation op => cases op <;> rfl
      | _ => rfl
    have hrest := ih hapart.of_cons
    unfold tokens at hrest ⊢
    rw [hc, List.cons_append, Token.scan_cons, w.next_append hc (h.before hapart)]
    simp only [List.filter_cons, hkind, if_true, hrest, List.map_cons]

end Normal

end TransactionRules
