import TransactionRules.Proofs.Compilation
import TransactionRules.Proofs.Precedence

/-!
# Condition texts are compiled to what they say

A whole condition is written as one constraint, or as a list of constraints with commas between them,
which all have to hold. Its text has blanks anywhere between the signs. Compiling the text gives a
predicate with the values of the written condition if that has a truth value by its outermost form,
and is refused for the lack of one otherwise.
-/

namespace TransactionRules

open Sign (openAfter)

/-- `WrittenWhole c ws`: the signs `ws` write the condition `c` where a list with commas may stand. -/
inductive WrittenWhole : Condition → List Sign → Prop
  | single {c : Condition} {ws : List Sign} (h : Written .disjunction c ws) : WrittenWhole c ws
  | list (ps : List (Condition × List Sign)) (hlen : 2 ≤ ps.length)
      (h : ∀ p ∈ ps, Written .disjunction p.1 p.2) :
      WrittenWhole (.all (ps.map Prod.fst)) ([.comma].intercalate (ps.map Prod.snd))

namespace WrittenWhole

/-- A list is the conjunction of its constraints in brackets. -/
lemma written_inBrackets {ps : List (Condition × List Sign)} (hlen : 2 ≤ ps.length)
    (h : ∀ p ∈ ps, Written .disjunction p.1 p.2) :
    Written .disjunction (.all (ps.map Prod.fst)) (Sign.inBrackets (ps.map Prod.snd)) := by
  let bracketed := ps.map fun p => (p.1, Sign.opening :: (p.2 ++ [.closing]))
  have hparts : ∀ p ∈ bracketed, Written .conjunction p.1 p.2 := by
    intro q hq
    obtain ⟨p, hp, rfl⟩ := List.mem_map.1 hq
    exact (Written.bracketed (h p hp)).of_call .conjunction
  have hjoined := Written.joined .and bracketed (by simpa [bracketed] using hlen) hparts
  have hconditions : bracketed.map Prod.fst = ps.map Prod.fst := by simp [bracketed]
  have hsigns : [Sign.connective .and].intercalate (bracketed.map Prod.snd) =
      Sign.inBrackets (ps.map Prod.snd) := by
    rw [Sign.inBrackets, List.map_map, List.map_map]
    rfl
  rw [hconditions, hsigns] at hjoined
  exact .tighter hjoined

/-- The normal form of a condition text writes the same condition, with one more bracket open at
most. -/
lemma exists_normalForm {c : Condition} {ws : List Sign} (h : WrittenWhole c ws) {text : String}
    (hs : Sign.Spaced ws text.toList) {limit : Nat} (ho : (openAfter limit 0 ws).isSome) :
    ∃ vs, Written .disjunction c vs ∧ normalForm text = .ok (String.ofList (Sign.line vs)) ∧
      openAfter (limit + 1) 0 vs = some 0 := by
  obtain ⟨d, hd⟩ := Option.isSome_iff_exists.1 ho
  cases h with
  | single h =>
    have hbefore := h.phrase.openAfter_eq hd
    have hshift := (Sign.openAfter_eq_some hd).2 0 (limit + 1) (Nat.le_succ _)
    rw [hbefore] at hshift
    exact ⟨ws, h, h.phrase.normalForm hs, hshift⟩
  | list ps hlen h =>
    have hphrases : ∀ us ∈ ps.map Prod.snd, Sign.Phrase us := by
      intro us hus
      obtain ⟨p, hp, rfl⟩ := List.mem_map.1 hus
      exact (h p hp).phrase
    have hlength : 2 ≤ (ps.map Prod.snd).length := by rwa [List.length_map]
    have hne : ps.map Prod.snd ≠ [] := List.length_pos_iff.1 (by omega)
    refine ⟨Sign.inBrackets (ps.map Prod.snd), ?_, ?_, ?_⟩
    · exact written_inBrackets hlen h
    · exact Sign.normalForm_list hlength hphrases hs
    · exact Sign.openAfter_inBrackets hne hphrases hd

end WrittenWhole

namespace Written

/-- The line of a written condition is read as an expression that denotes it. -/
lemma exists_expr {c : Condition} {ws : List Sign} (h : Written .disjunction c ws)
    (hn : 2 * c.nesting + 1 ≤ Expression.Expr.depthLimit)
    (ho : openAfter Expression.Line.bracketLimit 0 ws = some 0) :
    ∃ e, Expression.Expr.ofChars? (Sign.line ws) = some e ∧ c.Denotes e := by
  obtain ⟨is, hgrouped, hreads⟩ := h.reads hn
  obtain ⟨e, he, hdenotes⟩ := hreads.disjunction_eq
  obtain ⟨es, hes⟩ := hreads
  refine ⟨e, ?_, hdenotes⟩
  rw [hgrouped.ofChars?_line h.phrase.ne_nil ho, Expression.Grammar.top_of_tight hes.tight, he]

/-- A line is a condition exactly if the written condition has a truth value by its form. -/
lemma ofNormal_line {c : Condition} {ws : List Sign} (h : Written .disjunction c ws)
    (hn : 2 * c.nesting + 1 ≤ Expression.Expr.depthLimit)
    (ho : openAfter Expression.Line.bracketLimit 0 ws = some 0) :
    (c.hasTruth = true → ∃ c', Condition.ofNormal (String.ofList (Sign.line ws)) = .ok c' ∧
      ∀ t, c'.eval t = c.eval t) ∧
    (c.hasTruth = false →
      Condition.ofNormal (String.ofList (Sign.line ws)) = .error .notBoolean) := by
  obtain ⟨e, he, hdenotes⟩ := h.exists_expr hn ho
  have hnull : (Sign.line ws).contains '\x00' = false := by
    have := Sign.notMem_line ws (c := '\x00') (by decide)
    simpa using this
  have hdepth : ¬ Expression.Expr.depthLimit < e.depth := by
    have := hdenotes.depth
    omega
  have hofNormal : Condition.ofNormal (String.ofList (Sign.line ws)) =
      if c.hasTruth then Condition.ofExpr e else .error .notBoolean := by
    rw [Condition.ofNormal, String.toList_ofList, hnull, he, ← hdenotes.isBoolean]
    simp [hdepth]
  obtain ⟨c', hc', heval⟩ := hdenotes.ofExpr
  constructor
  · intro htruth
    rw [hofNormal, htruth]
    exact ⟨c', hc', heval⟩
  · intro htruth
    rw [hofNormal, htruth]
    rfl

end Written

namespace Compiler

/-- A condition text whose operators and brackets nest at most a hundred deep is compiled exactly if
the condition in it has a truth value by its outermost form, whatever was compiled before. The
predicate then has on every transaction the value, or the fault, of the condition. The commas of a
list count as one operator around the operators of its constraints. -/
theorem compile_of_written {c : Condition} {ws : List Sign} (h : WrittenWhole c ws)
    (hn : c.nesting ≤ 101) (ho : (openAfter 100 0 ws).isSome) {text : String}
    (hs : Sign.Spaced ws text.toList) (texts : List String) :
    (c.hasTruth = true → ∃ compiler p events,
      (after texts).compile text = .ok (compiler, p, events) ∧
        ∀ t, p.condition.eval t = c.eval t) ∧
    (c.hasTruth = false → (after texts).compile text = .error .notBoolean) := by
  obtain ⟨vs, hvs, hnormal, hopen⟩ := h.exists_normalForm hs ho
  have hlimit := (Sign.openAfter_eq_some hopen).2 0 Expression.Line.bracketLimit (by decide)
  have hdepth : 2 * c.nesting + 1 ≤ Expression.Expr.depthLimit := by
    rw [Expression.Expr.depthLimit]
    omega
  have htext : Condition.ofText text = Condition.ofNormal (String.ofList (Sign.line vs)) := by
    rw [Condition.ofText, hnormal]
  obtain ⟨hcondition, herror⟩ := hvs.ofNormal_line hdepth hlimit
  constructor
  · intro htruth
    obtain ⟨c', hc', heval⟩ := hcondition htruth
    rw [← htext] at hc'
    obtain ⟨compiler, p, events, hcompile, rfl, -⟩ := (sound_after texts).compile_of_ok hc'
    exact ⟨compiler, p, events, hcompile, heval⟩
  · intro htruth
    have hrefused := herror htruth
    rw [← htext] at hrefused
    exact (sound_after texts).compile_of_error hrefused

open Sign Expression in
/-- A list of a call, whose text has an escaped quote, and of a negated connective in brackets. -/
theorem compile_of_written_list :
    ∃ compiler p events,
      (after []).compile "merchant.contains('it\\'s') , !(amount >=100||true)" =
        .ok (compiler, p, events) ∧
      ∀ t, p.condition.eval t =
        (Condition.all [.call .contains (.field .merchant) (.constant (.text "it's")),
          .not (.any [.chain (.field .amount) [(.ge, .constant (.int 100))],
            .constant (.bool true)])]).eval t := by
  let hundred : Numeral := ⟨['1', '0', '0'], [], none, by simp, by simp, by simp, by simp,
    by decide⟩
  let its : TextLiteral := ⟨'\'', ['i', 't', '\'', 's'], ['i', 't', '\\', '\'', 's'], .inr rfl,
    .plain (by decide) (.plain (by decide) (.escaped (.letter rfl) (.plain (by decide) .nil)))⟩
  let merchant : Sign := .field "merchant" .merchant rfl
  let amount : Sign := .field "amount" .amount rfl
  have hcall : Written .call (.call .contains (.field .merchant) (.constant (.text "it's")))
      [merchant, dot, method .contains, opening, text its, closing] :=
    .called .contains (.field ..) (Written.text its).to_disjunction
  have hchain : Written .comparison (.chain (.field .amount) [(.ge, .constant (.int 100))])
      [amount, relation .ge, number hundred] :=
    .chained [(.ge, .constant (.int 100), [number hundred])] (by simp) (.tighter (.field ..))
      (by simpa using .tighter (.number hundred))
  have hany : Written .disjunction
      (.any [.chain (.field .amount) [(.ge, .constant (.int 100))], .constant (.bool true)])
      [amount, relation .ge, number hundred, connective .or, truth true] := by
    refine .joined .or [(_, [amount, relation .ge, number hundred]), (_, [truth true])] (by simp) ?_
    intro p hp
    rcases List.mem_pair.1 hp with rfl | rfl
    · exact hchain.to_disjunction
    · exact (Written.truth true).to_disjunction
  have hnot : Written .negation
      (.not (.any [.chain (.field .amount) [(.ge, .constant (.int 100))], .constant (.bool true)]))
      [not, opening, amount, relation .ge, number hundred, connective .or, truth true, closing] :=
    .inverted ((Written.bracketed hany).of_call .negation)
  have hlist : WrittenWhole
      (.all [.call .contains (.field .merchant) (.constant (.text "it's")),
        .not (.any [.chain (.field .amount) [(.ge, .constant (.int 100))], .constant (.bool true)])])
      [merchant, dot, method .contains, opening, text its, closing, comma, not, opening, amount,
        relation .ge, number hundred, connective .or, truth true, closing] := by
    refine .list [(_, [merchant, dot, method .contains, opening, text its, closing]), (_, [not,
      opening, amount, relation .ge, number hundred, connective .or, truth true, closing])]
      (by simp) ?_
    intro p hp
    rcases List.mem_pair.1 hp with rfl | rfl
    · exact hcall.to_disjunction
    · exact hnot.to_disjunction
  have hspaced : Spaced _ "merchant.contains('it\\'s') , !(amount >=100||true)".toList :=
    .sign (w := merchant) <| .sign (w := dot) <| .sign (w := method .contains) <|
      .sign (w := opening) <| .sign (w := text its) <| .sign (w := closing) <| .blank rfl <|
      .sign (w := comma) <| .blank rfl <| .sign (w := not) <| .sign (w := opening) <|
      .sign (w := amount) <| .blank rfl <| .sign (w := relation .ge) <|
      .sign (w := number hundred) <| .sign (w := connective .or) <| .sign (w := truth true) <|
      .sign (w := closing) .nil
  exact (compile_of_written hlist (by decide) (by decide) hspaced []).1 rfl

end Compiler

end TransactionRules
