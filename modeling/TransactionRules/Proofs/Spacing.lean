import TransactionRules.Proofs.CompilerRuns
import TransactionRules.Proofs.TokenEnds

/-!
# Spacing of conditions

Blanks may stand between any tokens of a condition, and what blanks stand there does not matter: texts
that differ in this alone (`Token.Respaced`) have the same tokens, the same normal form or error, and
one predicate in every compiler (`Compiler.compile_respaced`).
-/

namespace TransactionRules

namespace Token

/-- A text of the tokens in which other blanks stand for theirs, and more blanks between them, before
them and behind them. -/
inductive Respaced : List Token → List Char → Prop
  | nil : Respaced [] []
  | blank {c : Char} {ts : List Token} {cs : List Char} (hc : isBlank c = true)
      (h : Respaced ts cs) : Respaced ts (c :: cs)
  | token {t : Token} {ts : List Token} {cs : List Char} (ht : t.kind ≠ .space)
      (h : Respaced ts cs) : Respaced (t :: ts) (t.chars ++ cs)
  | space {t : Token} {c : Char} {ts : List Token} {cs : List Char} (ht : t.kind = .space)
      (hc : isBlank c = true) (h : Respaced ts cs) : Respaced (t :: ts) (c :: cs)

namespace Respaced

variable {ts : List Token} {cs rest rest' : List Char}

lemma loosened (h : Respaced ts cs) (hrest : Loosened rest rest') :
    Loosened (ts.flatMap chars ++ rest) (cs ++ rest') := by
  induction h with
  | nil => exact hrest
  | blank hc h ih => exact .apart (by simp [isStop_of_isBlank hc])
  | @token t ts cs ht h ih =>
    rw [List.flatMap_cons, List.append_assoc, List.append_assoc]
    exact ih.append t.chars
  | space ht hc h ih => exact .apart (by simp [isStop_of_isBlank hc])

lemma blanks (h : Respaced ts cs) {bs : List Char} (hbs : ∀ c ∈ bs, isBlank c = true) :
    Respaced ts (bs ++ cs) := by
  induction bs with
  | nil => exact h
  | cons b bs ih => exact .blank (hbs b (by simp)) (ih fun c hc => hbs c (by simp [hc]))

/-- Blanks change no token that is none and no quote by itself, whatever text follows a stop. -/
theorem tokens_append (h : Respaced ts cs) (hscan : scan (ts.flatMap chars) = ts)
    (hquote : ∀ t ∈ ts, t.isQuote = false) (hrest : ∀ c ∈ rest.head?, isStop c = true) :
    Normal.tokens (cs ++ rest) = ts.filter (·.kind != .space) ++ Normal.tokens rest := by
  induction h with
  | nil => rfl
  | blank hc h ih => rw [List.cons_append, Normal.tokens_blank hc, ih hscan hquote]
  | @token t ts cs ht h ih =>
    obtain ⟨hstarts, htail⟩ := starts_of_scan hscan
    have hloosened : Loosened (ts.flatMap chars) (cs ++ rest) := by
      simpa using h.loosened (.apart hrest : Loosened [] rest)
    have hstarts := hstarts.loosened ht (hquote t (by simp)) hloosened
    rw [List.append_assoc, hstarts.tokens_eq ht, ih htail fun u hu => hquote u (by simp [hu]),
      List.filter_cons_of_pos (by simpa using ht), List.cons_append]
  | @space t c ts cs ht hc h ih =>
    obtain ⟨-, htail⟩ := starts_of_scan hscan
    rw [List.cons_append, Normal.tokens_blank hc, ih htail fun u hu => hquote u (by simp [hu]),
      List.filter_cons_of_neg (by simp [ht])]

end Respaced

/-- A text has the blanks of its own tokens. -/
lemma respaced_flatMap_chars {ts : List Token} (hscan : scan (ts.flatMap chars) = ts) :
    Respaced ts (ts.flatMap chars) := by
  induction ts with
  | nil => exact .nil
  | cons t ts ih =>
    obtain ⟨⟨c, cs, hchars, -⟩, htail⟩ := starts_of_scan hscan
    have hts := ih htail
    rw [List.flatMap_cons]
    by_cases hspace : t.kind = .space
    · have hblank : ∀ d ∈ t.chars, isBlank d = true := by
        have hscanned := scanned_scan ((t :: ts).flatMap chars) t (by rw [hscan]; simp)
        cases hscanned with
        | space h => exact h
        | _ => cases hspace
      rw [hchars] at hblank ⊢
      exact .space hspace (hblank c (by simp)) (hts.blanks fun d hd => hblank d (by simp [hd]))
    · exact .token hspace hts

end Token

/-- Texts beside each other have the tokens of both, if the second one starts with a stop. -/
lemma Normal.tokens_append {cs rest : List Char} (hclosed : Token.LiteralsClosed cs)
    (hrest : ∀ c ∈ rest.head?, Token.isStop c = true) :
    tokens (cs ++ rest) = tokens cs ++ tokens rest := by
  have hscan : Token.scan ((Token.scan cs).flatMap Token.chars) = Token.scan cs := by
    rw [Token.flatMap_chars_scan]
  have happend := (Token.respaced_flatMap_chars hscan).tokens_append hscan
    hclosed.isQuote_eq_false hrest
  rwa [Token.flatMap_chars_scan] at happend

/-! ## Conditions in other spacing -/

open Token in
lemma normalForm_respaced {text text' : String} (hclosed : LiteralsClosed text.toList)
    (hspaced : Respaced (scan text.toList) text'.toList) : normalForm text' = normalForm text := by
  have hend : ∀ c ∈ ([] : List Char).head?, isStop c = true := by simp
  have htokens := hspaced.tokens_append (by rw [flatMap_chars_scan]) hclosed.isQuote_eq_false hend
  have hsame : Normal.tokens text'.toList = Normal.tokens text.toList := by
    simpa [Normal.tokens] using htokens
  rw [normalForm, normalForm, Normal.ofChars, Normal.ofChars, hsame]

namespace Compiler

open Token (LiteralsClosed Respaced scan)

variable {c c' : Compiler} {normal text text' : String} {p : Predicate} {events : List Event}

/-- Conditions are compiled alike, errors included, if they have one normal form. -/
lemma compile_congr (c : Compiler) (h : normalForm text' = normalForm text) :
    c.compile text' = c.compile text := by
  rw [compile, compile, h]

/-- What is on file is found there. -/
lemma WellFiled.lookup?_eq_some (h : c.WellFiled) (hp : c.Files normal p) :
    c.lookup? normal = some p := by
  cases hlookup : c.lookup? normal with
  | none =>
    have hmem : normal ∈ c.forms := List.mem_map_of_mem (List.mem_of_getElem? hp)
    exact absurd hmem (lookup?_eq_none hlookup)
  | some q =>
    have hq := Compiler.lookup?_eq_some hlookup
    have hnumber : q.number = p.number := (h.number_eq_iff hq hp).2 rfl
    have hentry : c.entries[q.number]? = some (normal, q.condition) := hq
    rw [hnumber, show c.entries[p.number]? = some (normal, p.condition) from hp,
      Option.some.injEq, Prod.mk.injEq] at hentry
    rw [Option.some.injEq, Predicate.mk.injEq]
    exact ⟨hnumber, hentry.2.symm⟩

/-- A condition that was compiled is answered with the same predicate ever after, and nothing is
compiled for it again. -/
lemma WellFiled.compile_again (h : c.WellFiled) (hc : c.compile text = .ok (c', p, events))
    (later : List Request) :
    let d := (c'.serveAll later).1
    d.compile text = .ok (d, p, []) := by
  intro d
  obtain ⟨hfiled, -, normal, hnormal, hfiles, -⟩ := h.compile hc
  have hserved := hfiled.serveAll later
  have hlookup := hserved.wellFiled.lookup?_eq_some (hfiles.mono hserved.keeps)
  simp only [Compiler.compile, hnormal, hlookup, d]

/-- A condition whose literals are closed and the same condition in other spacing have one normal form
or one error, every compiler answers both alike, and once it has compiled one of them it has one
predicate for both. -/
theorem compile_respaced (hclosed : LiteralsClosed text.toList)
    (hspaced : Respaced (scan text.toList) text'.toList) :
    normalForm text' = normalForm text ∧ (∀ c : Compiler, c.compile text' = c.compile text) ∧
      ∀ (past later : List Request) (c' : Compiler) (p : Predicate) (events : List Event),
        (serveAll {} past).1.compile text = .ok (c', p, events) →
          let d := (c'.serveAll later).1
          d.compile text = .ok (d, p, []) ∧ d.compile text' = .ok (d, p, []) := by
  have hnormal := normalForm_respaced hclosed hspaced
  refine ⟨hnormal, fun c => c.compile_congr hnormal, ?_⟩
  intro past later c' p events hc d
  have hagain := (wellFiled_new.serveAll past).wellFiled.compile_again hc later
  exact ⟨hagain, d.compile_congr hnormal ▸ hagain⟩

/-- An ideographic space before the text, line breaks within it and at its end. -/
theorem compile_respaced_amount :
    LiteralsClosed "amount>1 &&merchant=='a  b'".toList ∧
      Respaced (scan "amount>1 &&merchant=='a  b'".toList)
        "\u3000amount > 1\r\n&& merchant == 'a  b'\n".toList ∧
      ∃ d p, Compiler.compile d "amount>1 &&merchant=='a  b'" = .ok (d, p, []) ∧
        d.compile "\u3000amount > 1\r\n&& merchant == 'a  b'\n" = .ok (d, p, []) := by
  have hclosed : LiteralsClosed "amount>1 &&merchant=='a  b'".toList := by decide +kernel
  have hscan : scan "amount>1 &&merchant=='a  b'".toList =
      [⟨.name, "amount".toList⟩, ⟨.other, ['>']⟩, ⟨.number, ['1']⟩, ⟨.space, [' ']⟩,
        ⟨.op, ['&', '&']⟩, ⟨.name, "merchant".toList⟩, ⟨.op, ['=', '=']⟩,
        ⟨.string, "'a  b'".toList⟩] := by decide +kernel
  have hspaced : Respaced (scan "amount>1 &&merchant=='a  b'".toList)
      "\u3000amount > 1\r\n&& merchant == 'a  b'\n".toList := by
    rw [hscan]
    exact .blank rfl <| .token (by decide) <| .blank rfl <| .token (by decide) <| .blank rfl <|
      .token (by decide) <| .blank rfl <| .space rfl rfl <| .token (by decide) <| .blank rfl <|
      .token (by decide) <| .blank rfl <| .token (by decide) <| .blank rfl <|
      .token (by decide) <| .blank rfl .nil
  have hok : (Compiler.compile {} "amount>1 &&merchant=='a  b'").isOk = true := by decide +kernel
  cases hc : Compiler.compile {} "amount>1 &&merchant=='a  b'" with
  | error e => simp [hc, Except.isOk, Except.toBool] at hok
  | ok r =>
    obtain ⟨c', p, events⟩ := r
    exact ⟨hclosed, hspaced, c', p, (compile_respaced hclosed hspaced).2.2 [] [] c' p events hc⟩

end Compiler

end TransactionRules
