import Mathlib.Algebra.Ring.Int.Defs
import TransactionRules.Expression.Grammar
import TransactionRules.Proofs.Lists

/-!
# Brackets that match

Lexemes are put into trees one at a time (`Tree.push`), with the brackets that are open on a stack. Where
the round and square brackets of a sequence never close more than they open, the sequence meets only
brackets of its own, so it can be put between brackets and beside others without a change to its trees
(`Tree.ofLexemes_arranged`).
-/

namespace TransactionRules.Expression

namespace Lexeme

/-- The change of depth in round and square brackets. -/
def depthStep : Lexeme → Int
  | .opening .round | .opening .square => 1
  | .closing .round | .closing .square => -1
  | _ => 0

/-- The change of depth in brackets of all kinds. -/
def nestingStep : Lexeme → Int
  | .opening _ => 1
  | .closing _ => -1
  | _ => 0

/-- The depth in round and square brackets behind lexemes. -/
def level (ls : List Lexeme) : Int := (ls.map depthStep).sum

/-- The depth in brackets of all kinds behind lexemes. -/
def nesting (ls : List Lexeme) : Int := (ls.map nestingStep).sum

/-- No bracket closes one that was open before. -/
def Level (ls : List Lexeme) : Prop := ∀ p, p <+: ls → 0 ≤ level p

/-- Lexemes as an operand between round brackets. -/
def bracketed (ls : List Lexeme) : List Lexeme := .opening .round :: (ls ++ [.closing .round])

/-- The number of open brackets after a lexeme; none if it closes no bracket, or opens one more than
`limit`. -/
def openAfter (limit d : Nat) : Lexeme → Option Nat
  | .opening _ => if d < limit then some (d + 1) else none
  | .closing _ => if 0 < d then some (d - 1) else none
  | _ => some d

/-- Whether lexemes close all brackets, `d` open ones among them, without ever having more than the
permitted number open. -/
def Closed (d : Nat) (ls : List Lexeme) : Prop := ls.foldlM (openAfter Line.bracketLimit) d = some 0

instance (d : Nat) (ls : List Lexeme) : Decidable (Closed d ls) :=
  inferInstanceAs (Decidable (_ = _))

lemma closed_cons {d : Nat} {l : Lexeme} {ls : List Lexeme} :
    Closed d (l :: ls) ↔ ∃ e, l.openAfter Line.bracketLimit d = some e ∧ Closed e ls := by
  rw [Closed, List.foldlM_cons]
  exact Option.bind_eq_some_iff

end Lexeme

namespace Tree

open Lexeme (level nesting Level depthStep nestingStep)

/-- The open brackets, each with the trees before it, and the trees since the innermost one. -/
abbrev State := List (Bracket × List Tree) × List Tree

/-- One more lexeme. -/
def push (st : State) (l : Lexeme) : Option State :=
  match l, st with
  | .opening b, (stack, current) => some ((b, current) :: stack, [])
  | .closing c, ((b, outer) :: stack, current) =>
    if b = c then some (stack, .group b current.reverse :: outer) else none
  | .closing _, ([], _) => none
  | l, (stack, current) => some (stack, .leaf l :: current)

/-- The trees, if no bracket is open. -/
def finish : State → Option (List Tree)
  | ([], current) => some current.reverse
  | _ => none

lemma build_eq (st : State) (ls : List Lexeme) :
    build st.1 st.2 ls = (ls.foldlM push st).bind finish := by
  induction ls generalizing st with
  | nil =>
    obtain ⟨stack, current⟩ := st
    cases stack <;> rfl
  | cons l ls ih =>
    obtain ⟨stack, current⟩ := st
    cases l with
    | opening b => cases stack <;> exact ih ((b, current) :: _, [])
    | closing c =>
      cases stack with
      | nil => rfl
      | cons top stack =>
        obtain ⟨b, outer⟩ := top
        by_cases hb : b = c
        · simpa [build, push, hb] using ih (stack, .group b current.reverse :: outer)
        · simp [build, push, hb]
    | _ => cases stack <;> exact ih (_, _)

lemma ofLexemes_eq (ls : List Lexeme) : ofLexemes ls = (ls.foldlM push ([], [])).bind finish :=
  build_eq ([], []) ls

/-! ## Depth -/

/-- The number of round and square brackets among the open ones. -/
def stackLevel (stack : List (Bracket × List Tree)) : Nat :=
  (stack.filter fun entry => entry.1 != .brace).length

lemma push_eq_some {st st' : State} {l : Lexeme} (h : push st l = some st') :
    (stackLevel st'.1 : Int) = stackLevel st.1 + depthStep l ∧
      (st'.1.length : Int) = st.1.length + nestingStep l := by
  obtain ⟨stack, current⟩ := st
  cases l with
  | opening b =>
    cases h
    cases b <;> simp [stackLevel, depthStep, nestingStep]
  | closing c =>
    cases stack with
    | nil => cases h
    | cons top stack =>
      obtain ⟨b, outer⟩ := top
      simp only [push] at h
      split_ifs at h with hb
      cases h
      subst hb
      cases b <;> simp [stackLevel, depthStep, nestingStep]
  | _ =>
    cases h
    simp [depthStep, nestingStep]

lemma foldlM_push_eq_some {st st' : State} {ls : List Lexeme} (h : ls.foldlM push st = some st') :
    (stackLevel st'.1 : Int) = stackLevel st.1 + level ls ∧
      (st'.1.length : Int) = st.1.length + nesting ls := by
  induction ls generalizing st with
  | nil =>
    cases h
    simp [level, nesting]
  | cons l ls ih =>
    obtain ⟨next, hl, hls⟩ := Option.bind_eq_some_iff.1 h
    obtain ⟨hlevel, hlength⟩ := push_eq_some hl
    obtain ⟨hlevel', hlength'⟩ := ih hls
    rw [hlevel', hlevel, hlength', hlength]
    simp only [level, nesting, List.map_cons, List.sum_cons]
    omega

/-- The brackets of a tree row match. -/
lemma level_of_ofLexemes {ls : List Lexeme} {ts : List Tree} (h : ofLexemes ls = some ts) :
    Level ls ∧ level ls = 0 ∧ nesting ls = 0 := by
  rw [ofLexemes_eq] at h
  obtain ⟨⟨stack, current⟩, hls, hfinish⟩ := Option.bind_eq_some_iff.1 h
  refine ⟨fun p hp => ?_, ?_⟩
  · obtain ⟨rest, rfl⟩ := hp
    rw [List.foldlM_append] at hls
    obtain ⟨st, hp, -⟩ := Option.bind_eq_some_iff.1 hls
    have hlevel := (foldlM_push_eq_some hp).1
    have hzero : stackLevel (([], []) : State).1 = 0 := rfl
    omega
  · cases stack with
    | nil =>
      obtain ⟨hlevel, hlength⟩ := foldlM_push_eq_some hls
      have hzero : stackLevel [] = 0 := rfl
      simp only [hzero, List.length_nil] at hlevel hlength
      omega
    | cons => cases hfinish

/-! ## Sequences between brackets -/

/-- A state inside a round bracket. -/
def within (outer : State) (st : State) : State := (st.1 ++ (.round, outer.2) :: outer.1, st.2)

/-- A lexeme that closes no round bracket before it meets only the brackets since then. -/
lemma push_within (outer : State) {st : State} {l : Lexeme}
    (h : 0 ≤ (stackLevel st.1 : Int) + depthStep l) :
    push (within outer st) l = (push st l).map (within outer) := by
  obtain ⟨stack, current⟩ := st
  cases l with
  | closing c =>
    cases stack with
    | nil =>
      have hc : c = .brace := by
        have hzero : stackLevel [] = 0 := rfl
        cases c with
        | brace => rfl
        | _ =>
          simp only [hzero, depthStep] at h
          omega
      subst hc
      rfl
    | cons top stack =>
      obtain ⟨b, trees⟩ := top
      by_cases hb : b = c <;> simp [push, within, hb]
  | _ => rfl

lemma foldlM_push_within (outer : State) {st : State} {ls : List Lexeme}
    (h : ∀ p, p <+: ls → 0 ≤ (stackLevel st.1 : Int) + level p) :
    ls.foldlM push (within outer st) = (ls.foldlM push st).map (within outer) := by
  induction ls generalizing st with
  | nil => rfl
  | cons l ls ih =>
    have hl : 0 ≤ (stackLevel st.1 : Int) + depthStep l := by
      simpa [level] using h [l] (by simp)
    rw [List.foldlM_cons, List.foldlM_cons, push_within outer hl]
    cases hpush : push st l with
    | none => rfl
    | some next =>
      refine ih fun p hp => ?_
      have := h (l :: p) (List.prefix_cons_inj l |>.2 hp)
      simp only [level, List.map_cons, List.sum_cons] at this
      rw [(push_eq_some hpush).1]
      simp only [level]
      omega

variable {ls : List Lexeme}

lemma foldlM_bracketed (outer : State) (h : Level ls) :
    (Lexeme.bracketed ls).foldlM push outer =
      (ls.foldlM push ([], [])).bind fun st => push (within outer st) (.closing .round) := by
  have hls : ls.foldlM push (within outer ([], [])) =
      (ls.foldlM push ([], [])).map (within outer) :=
    foldlM_push_within outer fun p hp => by
      have := h p hp
      omega
  have hopen : push outer (.opening .round) = some (within outer ([], [])) := rfl
  rw [Lexeme.bracketed, List.foldlM_cons, hopen, Option.bind_eq_bind, Option.bind_some,
    List.foldlM_append, hls]
  cases ls.foldlM push ([], []) with
  | none => rfl
  | some st =>
    rw [Option.map_some, Option.bind_eq_bind, Option.bind_some, List.foldlM_cons, Option.bind_some]
    cases push (within outer st) (.closing .round) <;> rfl

/-- A sequence that ends at the depth it starts at is put between brackets as the trees it is by
itself. -/
lemma foldlM_bracketed_of_level (outer : State) (h : Level ls) (hzero : level ls = 0) :
    (Lexeme.bracketed ls).foldlM push outer =
      (ofLexemes ls).map fun ts => (outer.1, .group .round ts :: outer.2) := by
  rw [foldlM_bracketed outer h, ofLexemes_eq]
  cases hls : ls.foldlM push ([], []) with
  | none => rfl
  | some st =>
    obtain ⟨stack, current⟩ := st
    cases stack with
    | nil => simp [push, within, finish]
    | cons top stack =>
      -- only braces can be open, and a round bracket does not close them
      obtain ⟨b, trees⟩ := top
      have hb : b = .brace := by
        have hlevel := (foldlM_push_eq_some hls).1
        by_contra hb
        simp [stackLevel, hb, hzero] at hlevel
        omega
      subst hb
      simp [push, within, finish]

/-- The last sequence between brackets ends at the depth it starts at if nothing is left open. -/
lemma finish_bracketed (current : List Tree) (h : Level ls) :
    ((Lexeme.bracketed ls).foldlM push ([], current)).bind finish =
      (ofLexemes ls).map fun ts => current.reverse ++ [.group .round ts] := by
  rw [foldlM_bracketed _ h, ofLexemes_eq]
  cases ls.foldlM push ([], []) with
  | none => rfl
  | some st =>
    obtain ⟨stack, trees⟩ := st
    cases stack with
    | nil => simp [push, within, finish]
    | cons top stack =>
      obtain ⟨b, outer⟩ := top
      by_cases hb : b = .round
      · subst hb
        cases stack <;> simp [push, within, finish]
      · simp [push, within, finish, hb]

/-! ## Constraints -/

lemma finish_arranged {lss : List (List Lexeme)} (hne : lss ≠ []) (h : ∀ ls ∈ lss, Level ls)
    (hzero : ∀ ls ∈ lss.dropLast, level ls = 0) (current : List Tree) :
    (([Lexeme.keyword .and].intercalate (lss.map Lexeme.bracketed)).foldlM push
      ([], current)).bind finish =
      (lss.mapM ofLexemes).map fun tss =>
        current.reverse ++ [Tree.leaf (.keyword .and)].intercalate (tss.map fun ts => [.group .round ts]) := by
  induction lss generalizing current with
  | nil => exact absurd rfl hne
  | cons ls lss ih =>
    cases lss with
    | nil =>
      rw [List.map_singleton, List.intercalate_singleton, finish_bracketed current (h ls (by simp))]
      cases hls : ofLexemes ls <;> simp [hls]
    | cons ms lss =>
      have hls := foldlM_bracketed_of_level ([], current) (h ls (by simp)) (hzero ls (by simp))
      have htail := ih (by simp) (fun xs hxs => h xs (by simp [hxs]))
        (fun xs hxs => hzero xs (by simp [hxs]))
      rw [List.map_cons, List.map_cons, List.intercalate_cons_cons, List.append_assoc,
        List.foldlM_append, hls, List.mapM_cons]
      cases ofLexemes ls with
      | none => rfl
      | some ts =>
        have hand : push ([], .group .round ts :: current) (.keyword .and) =
            some ([], .leaf (.keyword .and) :: .group .round ts :: current) := rfl
        rw [Option.map_some, Option.bind_eq_bind, Option.bind_some, List.singleton_append,
          List.foldlM_cons, hand, Option.bind_eq_bind, Option.bind_some, ← List.map_cons, htail]
        cases hrest : (ms :: lss).mapM ofLexemes with
        | none => rfl
        | some tss =>
          obtain ⟨us, uss, -, -, rfl⟩ := mapM_cons_eq_some.1 hrest
          simp [List.intercalate_cons_cons]

/-- Constraints between brackets are the trees that they are by themselves, if none of them closes
more round and square brackets than it opens, and only the last one may leave one open. -/
theorem ofLexemes_arranged {lss : List (List Lexeme)} (hne : lss ≠ []) (h : ∀ ls ∈ lss, Level ls)
    (hzero : ∀ ls ∈ lss.dropLast, level ls = 0) :
    ofLexemes ([Lexeme.keyword .and].intercalate (lss.map Lexeme.bracketed)) =
      (lss.mapM ofLexemes).map fun tss =>
        [Tree.leaf (.keyword .and)].intercalate (tss.map fun ts => [.group .round ts]) := by
  rw [ofLexemes_eq, finish_arranged hne h hzero]
  simp

/-! ## The number of open brackets -/

lemma openAfter_of_push {limit : Nat} {st st' : State} {l : Lexeme} (h : push st l = some st')
    (hlimit : st.1.length + nestingStep l ≤ (limit : Int)) :
    l.openAfter limit st.1.length = some st'.1.length := by
  obtain ⟨stack, current⟩ := st
  cases l with
  | opening b =>
    cases h
    simp only [nestingStep] at hlimit
    have hlt : stack.length < limit := by omega
    simp [Lexeme.openAfter, hlt]
  | closing c =>
    cases stack with
    | nil => cases h
    | cons top stack =>
      obtain ⟨b, outer⟩ := top
      simp only [push] at h
      split_ifs at h
      cases h
      simp [Lexeme.openAfter]
  | _ =>
    cases h
    rfl

/-- Lexemes that can be put into trees can be counted, as long as the limit permits it. -/
lemma foldlM_openAfter {limit : Nat} {st st' : State} (h : ls.foldlM push st = some st')
    (hlimit : ∀ p, p <+: ls → st.1.length + nesting p ≤ (limit : Int)) :
    ls.foldlM (Lexeme.openAfter limit) st.1.length = some st'.1.length := by
  induction ls generalizing st with
  | nil =>
    cases h
    rfl
  | cons l ls ih =>
    obtain ⟨next, hl, hls⟩ := Option.bind_eq_some_iff.1 h
    have hfirst := openAfter_of_push hl (by simpa [nesting] using hlimit [l] (by simp))
    rw [List.foldlM_cons, hfirst]
    refine ih hls fun p hp => ?_
    have hp := hlimit (l :: p) (List.prefix_cons_inj l |>.2 hp)
    have hlength := (push_eq_some hl).2
    simp only [nesting, List.map_cons, List.sum_cons] at hp ⊢
    omega

/-- Where the number of open brackets can be followed, it never exceeds the limit. -/
lemma nesting_le_of_openAfter {limit d e : Nat} (hd : d ≤ limit)
    (h : ls.foldlM (Lexeme.openAfter limit) d = some e) :
    ∀ p, p <+: ls → d + nesting p ≤ (limit : Int) := by
  induction ls generalizing d with
  | nil =>
    intro p hp
    rw [List.prefix_nil.1 hp]
    simpa [nesting] using hd
  | cons l ls ih =>
    obtain ⟨d', hl, hls⟩ := Option.bind_eq_some_iff.1 h
    have hstep : (d' : Int) = d + nestingStep l ∧ d' ≤ limit := by
      cases l with
      | opening b =>
        simp only [Lexeme.openAfter, Option.ite_none_right_eq_some, Option.some.injEq] at hl
        simp only [nestingStep]
        omega
      | closing b =>
        simp only [Lexeme.openAfter, Option.ite_none_right_eq_some, Option.some.injEq] at hl
        simp only [nestingStep]
        omega
      | _ =>
        cases hl
        simpa [nestingStep] using hd
    refine forall_prefix_cons.2 ⟨by simpa [nesting] using hd, fun p hp => ?_⟩
    have := ih hstep.2 hls p hp
    simp only [nesting, List.map_cons, List.sum_cons] at this ⊢
    omega

/-- Brackets that match are within the limit where no part has more of them open. -/
lemma closed_iff {ts : List Tree} (h : ofLexemes ls = some ts) :
    Lexeme.Closed 0 ls ↔ ∀ p, p <+: ls → nesting p ≤ Line.bracketLimit := by
  constructor
  · intro hclosed p hp
    simpa using nesting_le_of_openAfter (Nat.zero_le _) hclosed p hp
  · intro hlimit
    rw [ofLexemes_eq] at h
    obtain ⟨⟨stack, current⟩, hls, hfinish⟩ := Option.bind_eq_some_iff.1 h
    cases stack with
    | nil => exact foldlM_openAfter hls (by simpa using hlimit)
    | cons => cases hfinish

end Tree

end TransactionRules.Expression
