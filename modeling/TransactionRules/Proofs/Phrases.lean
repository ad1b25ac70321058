import Mathlib.Algebra.Ring.Int.Defs
import TransactionRules.Proofs.Signs

/-!
# Phrases

What conditions are made of, without what they mean: operands, phrases in brackets, method calls,
signs before a phrase and signs between two phrases. The signs of a phrase are apart, its brackets
match, and no comma is among them; so a text of it, or of several with commas between them, has a
normal form, and the normal form is one line with the lexemes of its signs.
-/

namespace TransactionRules

open Expression
open scoped Members

namespace Sign

/-- Signs that are an operand by themselves. -/
def isOperand : Sign → Bool
  | field .. | truth _ | null | number _ | text _ => true
  | _ => false

/-- Signs that may start an operand. -/
def starts : Sign → Bool
  | opening | not | minus => true
  | w => w.isOperand

/-- Signs that may end an operand. -/
def ends : Sign → Bool
  | closing => true
  | w => w.isOperand

/-- Signs that stand before an operand. -/
def isPrefix : Sign → Bool
  | not | minus => true
  | _ => false

/-- Signs that stand between two operands. -/
def isBetween : Sign → Bool
  | connective _ | relation _ => true
  | _ => false

/-- A sequence of signs with the shape of an operand. -/
inductive Phrase : List Sign → Prop
  | operand {w : Sign} (h : w.isOperand = true) : Phrase [w]
  | bracketed {ws : List Sign} (h : Phrase ws) : Phrase (opening :: (ws ++ [closing]))
  | called {ws vs : List Sign} (m : TextMethod) (hw : Phrase ws) (hv : Phrase vs) :
      Phrase (ws ++ dot :: method m :: opening :: (vs ++ [closing]))
  | preceded {w : Sign} {ws : List Sign} (hw : w.isPrefix = true) (h : Phrase ws) : Phrase (w :: ws)
  | joined {w : Sign} {ws vs : List Sign} (hw : w.isBetween = true) (h : Phrase ws)
      (hv : Phrase vs) : Phrase (ws ++ w :: vs)

/-! ## The ends of a phrase -/

lemma apart_of_ends {v w : Sign} (hv : v.ends = true) (hw : w.isWord = false) :
    apart v w = true := by
  cases v <;> cases hv <;> simp [apart, hw]

lemma apart_of_starts {v w : Sign} (hv : v.isWord = false) (hdot : v ≠ dot) (hw : w.starts = true) :
    apart v w = true := by
  cases v with
  | dot => exact absurd rfl hdot
  | field | truth | null | number | method => cases hv
  | not | relation => cases w <;> cases hw <;> rfl
  | _ => rfl

/-- Signs that are apart from each other, the first one starting an operand and the last one ending
one. -/
structure Joint (ws : List Sign) : Prop where
  chain : ws.IsChain fun v w => apart v w = true
  starts : ∃ w vs, ws = w :: vs ∧ w.starts = true
  ends : ∃ vs w, ws = vs ++ [w] ∧ w.ends = true

namespace Joint

variable {ws vs : List Sign} {w : Sign}

lemma singleton (hw : w.isOperand = true) : Joint [w] where
  chain := List.isChain_singleton w
  starts := ⟨w, [], rfl, by cases w <;> cases hw <;> rfl⟩
  ends := ⟨[], w, rfl, by cases w <;> cases hw <;> rfl⟩

/-- A sign that is no word before a joint sequence. -/
lemma chain_cons (hv : Joint vs) (hword : w.isWord = false) (hdot : w ≠ dot) :
    (w :: vs).IsChain fun v w => apart v w = true := by
  obtain ⟨v, vs, rfl, hstarts⟩ := hv.starts
  exact List.isChain_cons_cons.2 ⟨apart_of_starts hword hdot hstarts, hv.chain⟩

/-- Signs behind a joint sequence, the first of them no word. -/
lemma chain_append (hw : Joint ws) (hword : w.isWord = false)
    (hv : (w :: vs).IsChain fun v w => apart v w = true) :
    (ws ++ w :: vs).IsChain fun v w => apart v w = true := by
  obtain ⟨us, u, rfl, hends⟩ := hw.ends
  refine List.isChain_append.2 ⟨hw.chain, hv, ?_⟩
  intro x hx y hy
  obtain rfl : u = x := by simpa using hx
  obtain rfl : w = y := by simpa using hy
  exact apart_of_ends hends hword

/-- Two joint sequences with a sign between them. -/
lemma append (hw : Joint ws) (hv : Joint vs) (hword : w.isWord = false) (hdot : w ≠ dot) :
    Joint (ws ++ w :: vs) where
  chain := hw.chain_append hword (hv.chain_cons hword hdot)
  starts := by
    obtain ⟨u, us, rfl, hu⟩ := hw.starts
    exact ⟨u, us ++ w :: vs, rfl, hu⟩
  ends := by
    obtain ⟨us, u, rfl, hu⟩ := hv.ends
    exact ⟨ws ++ w :: us, u, by simp, hu⟩

lemma cons (hv : Joint vs) (hw : w.starts = true) (hword : w.isWord = false) (hdot : w ≠ dot) :
    Joint (w :: vs) where
  chain := hv.chain_cons hword hdot
  starts := ⟨w, vs, rfl, hw⟩
  ends := by
    obtain ⟨us, u, rfl, hu⟩ := hv.ends
    exact ⟨w :: us, u, rfl, hu⟩

/-- A joint sequence with a closing bracket behind it. -/
lemma chain_closing (hw : Joint ws) :
    (ws ++ [closing]).IsChain fun v w => apart v w = true :=
  hw.chain_append rfl (List.isChain_singleton _)

lemma bracketed (hw : Joint ws) : Joint (opening :: (ws ++ [closing])) where
  chain := by
    obtain ⟨u, us, rfl, hu⟩ := hw.starts
    exact List.isChain_cons_cons.2 ⟨apart_of_starts rfl (by simp) hu, hw.chain_closing⟩
  starts := ⟨opening, ws ++ [closing], rfl, rfl⟩
  ends := ⟨opening :: ws, closing, rfl, rfl⟩

end Joint

/-- The signs of a phrase stay what they are when nothing stands between them. -/
lemma Phrase.joint {ws : List Sign} (h : Phrase ws) : Joint ws := by
  induction h with
  | operand h => exact .singleton h
  | bracketed h ih => exact ih.bracketed
  | @called ws vs m hw hv ihw ihv =>
    have hbracketed := ihv.bracketed
    refine ⟨ihw.chain_append rfl ?_, ?_, ?_⟩
    · exact List.isChain_cons_cons.2 ⟨rfl, List.isChain_cons_cons.2 ⟨rfl, hbracketed.chain⟩⟩
    · obtain ⟨u, us, rfl, hu⟩ := ihw.starts
      exact ⟨u, us ++ dot :: method m :: opening :: (vs ++ [closing]), rfl, hu⟩
    · exact ⟨ws ++ dot :: method m :: opening :: vs, closing, by simp, rfl⟩
  | @preceded w ws hw h ih =>
    refine ih.cons ?_ ?_ ?_ <;> cases w <;> cases hw <;> simp [Sign.starts, isWord]
  | @joined w ws vs hw h hv ih ihv =>
    refine ih.append ihv ?_ ?_ <;> cases w <;> cases hw <;> simp [isWord]

/-! ## Brackets and commas -/

/-- The change of bracket depth at a sign. -/
def bracketDepth : Sign → Int
  | opening => 1
  | closing => -1
  | _ => 0

/-- The sign's token changes the depth as the sign does. -/
lemma depthStep_token (w : Sign) : w.token.depthStep = w.bracketDepth := by
  cases w with
  | relation op => cases op <;> rfl
  | _ => rfl

lemma isOther_comma {w : Sign} (hw : w ≠ comma) : w.token.isOther ',' = false := by
  cases w with
  | comma => exact absurd rfl hw
  | relation op => cases op <;> rfl
  | _ => rfl

lemma Phrase.comma_notMem {ws : List Sign} (h : Phrase ws) : comma ∉ ws := by
  induction h with
  | @operand w h => cases w <;> cases h <;> simp
  | bracketed h ih => simp [ih]
  | called m hw hv ihw ihv => simp [ihw, ihv]
  | @preceded w ws hw h ih => cases w <;> cases hw <;> simp [ih]
  | @joined w ws vs hw h hv ih ihv => cases w <;> cases hw <;> simp [ih, ihv]

/-- The brackets of a phrase match. -/
lemma Phrase.sum_bracketDepth {ws : List Sign} (h : Phrase ws) : (ws.map bracketDepth).sum = 0 := by
  induction h with
  | @operand w h => cases w <;> cases h <;> rfl
  | bracketed h ih => simp [ih, bracketDepth]
  | called m hw hv ihw ihv => simp [ihw, ihv, bracketDepth]
  | @preceded w ws hw h ih => cases w <;> cases hw <;> simp [ih, bracketDepth]
  | @joined w ws vs hw h hv ih ihv => cases w <;> cases hw <;> simp [ih, ihv, bracketDepth]

lemma Phrase.ne_nil {ws : List Sign} (h : Phrase ws) : ws ≠ [] := by
  obtain ⟨w, vs, rfl, -⟩ := h.joint.starts
  simp

/-- Signs without a comma stay in one segment with what is behind them. -/
lemma segments_append {ws : List Sign} (hcomma : comma ∉ ws) {d : Int} {ts first : List Token}
    {rest : List (List Token)}
    (hts : Token.segments (d + (ws.map bracketDepth).sum) ts = first :: rest) :
    Token.segments d (ws.map token ++ ts) = (ws.map token ++ first) :: rest := by
  induction ws generalizing d with
  | nil => simpa using hts
  | cons w ws ih =>
    simp only [List.mem_cons, not_or] at hcomma
    simp only [List.map_cons, List.sum_cons, ← Int.add_assoc] at hts
    have htail := ih hcomma.2 hts
    rw [List.map_cons, List.cons_append, Token.segments, isOther_comma (Ne.symm hcomma.1),
      depthStep_token, htail]
    rfl

/-- Phrases with commas between them are the segments of their tokens. -/
lemma segments_intercalate {wss : List (List Sign)} (hne : wss ≠ []) (h : ∀ ws ∈ wss, Phrase ws) :
    Token.segments 0 (([comma].intercalate wss).map token) = wss.map fun ws => ws.map token := by
  induction wss with
  | nil => exact absurd rfl hne
  | cons ws wss ih =>
    have hws := h ws (by simp)
    have hsegments {ts first : List Token} {rest : List (List Token)}
        (hts : Token.segments 0 ts = first :: rest) :
        Token.segments 0 (ws.map token ++ ts) = (ws.map token ++ first) :: rest :=
      segments_append hws.comma_notMem (by rw [hws.sum_bracketDepth, Int.add_zero, hts])
    cases wss with
    | nil =>
      have hnil : Token.segments 0 [] = [[]] := by rw [Token.segments]
      simpa using hsegments hnil
    | cons vs wss =>
      have htail := ih (by simp) fun us hus => h us (by simp [hus])
      have hts : Token.segments 0 (comma.token :: ([comma].intercalate (vs :: wss)).map token) =
          [] :: (vs :: wss).map fun ws => ws.map token := by
        rw [Token.segments, htail]
        rfl
      simpa [List.intercalate_cons_cons] using hsegments hts

/-! ## Normal forms -/

/-- The words of signs, one space between neighbours. -/
def line (ws : List Sign) : List Char := [' '].intercalate (ws.map word)

lemma joined_map_token (ws : List Sign) : Token.joined (ws.map token) = line ws := by
  have hwords : (ws.map token).map Token.word = ws.map word := by
    rw [List.map_map]
    exact List.map_congr_left fun w _ => w.word_token
  rw [Token.joined, hwords, line]

lemma line_cons (w : Sign) {ws : List Sign} (hne : ws ≠ []) :
    line (w :: ws) = w.word ++ ' ' :: line ws := by
  obtain ⟨v, vs, rfl⟩ := List.exists_cons_of_ne_nil hne
  simp [line, List.intercalate_cons_cons]

lemma line_append {ws vs : List Sign} (hws : ws ≠ []) (hvs : vs ≠ []) :
    line (ws ++ vs) = line ws ++ ' ' :: line vs := by
  induction ws with
  | nil => exact absurd rfl hws
  | cons w ws ih =>
    cases ws with
    | nil =>
      rw [List.singleton_append, line_cons w hvs]
      simp [line]
    | cons u us =>
      rw [List.cons_append, line_cons w (by simp), ih (by simp), line_cons w (by simp)]
      simp

/-- Constraints as operands of one conjunction. -/
def inBrackets (wss : List (List Sign)) : List Sign :=
  [connective .and].intercalate (wss.map fun ws => opening :: (ws ++ [closing]))

lemma inBrackets_cons_cons (ws vs : List Sign) (wss : List (List Sign)) :
    inBrackets (ws :: vs :: wss) =
      opening :: (ws ++ [closing]) ++ connective .and :: inBrackets (vs :: wss) := by
  simp [inBrackets, List.intercalate_cons_cons]

lemma inBrackets_ne_nil (ws : List Sign) (wss : List (List Sign)) : inBrackets (ws :: wss) ≠ [] := by
  cases wss with
  | nil => simp [inBrackets]
  | cons vs wss => simp [inBrackets_cons_cons]

lemma bracketed_map_token {ws : List Sign} (hne : ws ≠ []) :
    Normal.bracketed (ws.map token) = line (opening :: (ws ++ [closing])) := by
  rw [line_cons _ (by simp), line_append hne (by simp), Normal.bracketed, joined_map_token]
  rfl

lemma intercalate_bracketed {wss : List (List Sign)} (hne : ∀ ws ∈ wss, ws ≠ []) :
    " and ".toList.intercalate ((wss.map fun ws => ws.map token).map Normal.bracketed) =
      line (inBrackets wss) := by
  induction wss with
  | nil => rfl
  | cons ws wss ih =>
    have hws := bracketed_map_token (hne ws (by simp))
    cases wss with
    | nil => simp [inBrackets, hws]
    | cons vs wss =>
      have htail := ih fun us hus => hne us (by simp [hus])
      rw [inBrackets_cons_cons, line_append (by simp) (by simp),
        line_cons _ (inBrackets_ne_nil vs wss), ← htail, ← hws]
      simp [List.intercalate_cons_cons, word]

/-- A single constraint is its own normal form. -/
lemma ofSegments_singleton {ws : List Sign} (hne : ws ≠ []) :
    Normal.ofSegments [ws.map token] = .ok (line ws) := by
  have hempty : (ws.map token).isEmpty = false := by simpa using hne
  simp [Normal.ofSegments, hempty, joined_map_token]

/-- Several constraints are operands of a conjunction. -/
lemma ofSegments_list {wss : List (List Sign)} (hlen : 2 ≤ wss.length)
    (hne : ∀ ws ∈ wss, ws ≠ []) :
    Normal.ofSegments (wss.map fun ws => ws.map token) = .ok (line (inBrackets wss)) := by
  rcases wss with _ | ⟨ws, _ | ⟨vs, wss⟩⟩
  · simp at hlen
  · simp at hlen
  · have hany : ((ws :: vs :: wss).map fun ws => ws.map token).any List.isEmpty = false := by
      simpa using hne
    have hws : (ws.map token).isEmpty = false := by simpa using hne ws (by simp)
    rw [List.map_cons, List.map_cons] at hany ⊢
    simp only [Normal.ofSegments, List.all_cons, hws, hany, Bool.false_and, Bool.false_eq_true,
      if_false]
    exact congrArg Except.ok (intercalate_bracketed hne)

/-- Phrases with commas between them are apart as phrases are. -/
lemma joint_intercalate {wss : List (List Sign)} (hne : wss ≠ []) (h : ∀ ws ∈ wss, Phrase ws) :
    Joint ([comma].intercalate wss) :=
  intercalate_of_append hne (fun _ _ hws hvs => hws.append hvs rfl (by simp))
    fun ws hws => (h ws hws).joint

/-- The normal form of a phrase is its signs, one space between neighbours. -/
lemma Phrase.normalForm {ws : List Sign} (h : Phrase ws) {text : String}
    (hs : Spaced ws text.toList) : normalForm text = .ok (String.ofList (line ws)) := by
  have hsegments := segments_intercalate (List.cons_ne_nil ws []) (by simpa using h)
  rw [List.intercalate_singleton, List.map_singleton] at hsegments
  rw [TransactionRules.normalForm, Normal.ofChars, Normal.tokens_of_spaced hs h.joint.chain,
    hsegments, ofSegments_singleton h.ne_nil]
  rfl

/-- The normal form of phrases with commas between them is the conjunction of them in brackets. -/
lemma normalForm_list {wss : List (List Sign)} (hlen : 2 ≤ wss.length) (h : ∀ ws ∈ wss, Phrase ws)
    {text : String} (hs : Spaced ([comma].intercalate wss) text.toList) :
    TransactionRules.normalForm text = .ok (String.ofList (line (inBrackets wss))) := by
  have hne : wss ≠ [] := by
    rintro rfl
    simp at hlen
  rw [TransactionRules.normalForm, Normal.ofChars,
    Normal.tokens_of_spaced hs (joint_intercalate hne h).chain, segments_intercalate hne h,
    ofSegments_list hlen fun ws hws => (h ws hws).ne_nil]
  rfl

/-! ## Open brackets -/

/-- The number of open brackets after a sign; none if it closes no bracket, or opens one more than
`limit`. -/
def bracketStep (limit d : Nat) : Sign → Option Nat
  | opening => if d < limit then some (d + 1) else none
  | closing => if 0 < d then some (d - 1) else none
  | _ => some d

/-- The same after several signs. -/
def openAfter (limit : Nat) : Nat → List Sign → Option Nat
  | d, [] => some d
  | d, w :: ws => (bracketStep limit d w).bind fun d => openAfter limit d ws

variable {limit d e : Nat}

lemma openAfter_append (ws vs : List Sign) :
    openAfter limit d (ws ++ vs) = (openAfter limit d ws).bind fun d => openAfter limit d vs := by
  induction ws generalizing d with
  | nil => rfl
  | cons w ws ih => simp only [List.cons_append, openAfter, ih, Option.bind_assoc]

lemma bracketStep_eq_some {w : Sign} (h : bracketStep limit d w = some e) :
    (e : Int) = d + w.bracketDepth ∧
      ∀ k limit', limit + k ≤ limit' → bracketStep limit' (d + k) w = some (e + k) := by
  cases w with
  | opening =>
    simp only [bracketStep, Option.ite_none_right_eq_some, Option.some.injEq] at h
    obtain ⟨hlt, rfl⟩ := h
    refine ⟨by simp [bracketDepth], fun k limit' hk => ?_⟩
    simp only [bracketStep]
    rw [if_pos (by omega)]
    congr 1
    omega
  | closing =>
    simp only [bracketStep, Option.ite_none_right_eq_some, Option.some.injEq] at h
    obtain ⟨hlt, rfl⟩ := h
    refine ⟨by simp only [bracketDepth]; omega, fun k limit' hk => ?_⟩
    simp only [bracketStep]
    rw [if_pos (by omega)]
    congr 1
    omega
  | _ =>
    cases h
    exact ⟨by simp [bracketDepth], fun k limit' hk => rfl⟩

lemma openAfter_eq_some {ws : List Sign} (h : openAfter limit d ws = some e) :
    (e : Int) = d + (ws.map bracketDepth).sum ∧
      ∀ k limit', limit + k ≤ limit' → openAfter limit' (d + k) ws = some (e + k) := by
  induction ws generalizing d with
  | nil =>
    cases h
    exact ⟨by simp, fun k limit' hk => rfl⟩
  | cons w ws ih =>
    obtain ⟨d', hstep, hrest⟩ := Option.bind_eq_some_iff.1 h
    obtain ⟨hd, hshift⟩ := bracketStep_eq_some hstep
    obtain ⟨he, hshiftRest⟩ := ih hrest
    refine ⟨?_, fun k limit' hk => ?_⟩
    · rw [List.map_cons, List.sum_cons]
      omega
    · rw [openAfter, hshift k limit' hk, Option.bind_some, hshiftRest k limit' hk]

/-- After a phrase as many brackets are open as before it. -/
lemma Phrase.openAfter_eq {ws : List Sign} (h : Phrase ws) (ho : openAfter limit d ws = some e) :
    e = d := by
  have := (openAfter_eq_some ho).1
  rw [h.sum_bracketDepth] at this
  omega

/-- The brackets around the constraints of a list open one bracket more. -/
lemma openAfter_inBrackets {wss : List (List Sign)} (hne : wss ≠ []) (h : ∀ ws ∈ wss, Phrase ws)
    (ho : openAfter limit 0 ([comma].intercalate wss) = some e) :
    openAfter (limit + 1) 0 (inBrackets wss) = some 0 := by
  have hbracketed {ws : List Sign} (hws : Phrase ws) {e : Nat}
      (ho : openAfter limit 0 ws = some e) :
      openAfter (limit + 1) 0 (opening :: (ws ++ [closing])) = some 0 := by
    obtain rfl := hws.openAfter_eq ho
    have hshift := (openAfter_eq_some ho).2 1 (limit + 1) le_rfl
    simp only [openAfter, bracketStep, Nat.zero_lt_succ, if_true, Option.bind_some,
      openAfter_append, hshift]
  induction wss with
  | nil => exact absurd rfl hne
  | cons ws wss ih =>
    have hws := h ws (by simp)
    cases wss with
    | nil =>
      rw [List.intercalate_singleton] at ho
      simpa [inBrackets] using hbracketed hws ho
    | cons vs wss =>
      rw [List.intercalate_cons_cons, List.append_assoc, openAfter_append] at ho
      obtain ⟨d, hd, hrest⟩ := Option.bind_eq_some_iff.1 ho
      obtain rfl := hws.openAfter_eq hd
      have htail := ih (by simp) (fun us hus => h us (by simp [hus])) hrest
      rw [inBrackets_cons_cons, openAfter_append, hbracketed hws hd]
      exact htail

/-! ## Lines -/

/-- The words that are not written as in a condition. -/
def rewritten : List (List Char) :=
  ["True".toList, "False".toList, "None".toList, "and".toList, "or".toList, "not".toList]

lemma word_cases (w : Sign) : w.word = w.chars ∨ w.word ∈ rewritten := by
  cases w with
  | truth b => cases b <;> exact .inr (by decide)
  | connective op => cases op <;> exact .inr (by decide)
  | null | not => exact .inr (by decide)
  | _ => exact .inl rfl

/-- The word of a sign starts neither a blank nor a comment nor another line. -/
lemma exists_word (w : Sign) :
    ∃ c cs, w.word = c :: cs ∧ c ∉ [' ', '\t', '\x0c', '#', '\n', '\\'] := by
  rcases w.word_cases with hw | hw
  · obtain ⟨c, cs, hc⟩ := w.exists_chars
    refine ⟨c, cs, hw.trans hc, ?_⟩
    rcases w.head?_chars c (by simp [hc]) with ⟨-, hname⟩ | ⟨-, hmem⟩ | ⟨-, rfl⟩ | ⟨-, rfl⟩
    · intro hmem
      have hall : ∀ c ∈ [' ', '\t', '\x0c', '#', '\n', '\\'], Token.isNameChar c = false := by decide
      rw [hall c hmem] at hname
      cases hname
    · have hall : ∀ c ∈ ['"', '\'', '&', '|', '!', '<', '>', '-', '(', ')', ','],
          c ∉ [' ', '\t', '\x0c', '#', '\n', '\\'] := by
        decide
      exact hall c hmem
    · decide
    · decide
  · have hall : ∀ cs ∈ rewritten, cs.head?.any
        (fun c => !([' ', '\t', '\x0c', '#', '\n', '\\'].contains c)) = true := by
      decide
    have hhead := hall _ hw
    cases hc : w.word with
    | nil => simp [hc] at hhead
    | cons c cs => exact ⟨c, cs, rfl, by simpa [hc] using hhead⟩

/-- A word at the start of a line is its lexeme. -/
lemma lexemes_word (w : Sign) {rest : List Char} (hrest : Parted rest) :
    Line.lexemes d (w.word ++ rest) =
      (bracketStep Line.bracketLimit d w).bind fun d =>
        (Line.lexemes d rest).map (w.lexeme :: ·) := by
  obtain ⟨c, cs, hc, hhead⟩ := w.exists_word
  simp only [List.mem_cons, List.not_mem_nil, or_false, not_or] at hhead
  have hread := w.read_word hrest
  rw [hc, List.cons_append] at hread ⊢
  have hlength : rest.length ≤ (cs ++ rest).length := by simp
  rw [Line.lexemes.eq_def d (c :: (cs ++ rest))]
  simp only [hhead, beq_eq_false_iff_ne.2, ne_eq, not_false_eq_true, Bool.or_self,
    Bool.false_eq_true, if_false, hread, Option.bind_eq_bind, Option.bind_some, hlength, dite_true]
  have hrest (e : Nat) : ((Line.lexemes e rest).bind fun ls => pure (w.lexeme :: ls)) =
      (Line.lexemes e rest).map (w.lexeme :: ·) := by
    cases Line.lexemes e rest <;> rfl
  simp only [hrest]
  cases w with
  | opening =>
    simp only [lexeme, bracketStep]
    split_ifs <;> rfl
  | closing =>
    simp only [lexeme, bracketStep]
    split_ifs <;> rfl
  | truth b => cases b <;> rfl
  | _ => rfl

lemma lexemes_space (rest : List Char) : Line.lexemes d (' ' :: rest) = Line.lexemes d rest := by
  rw [Line.lexemes.eq_def d (' ' :: rest)]
  rfl

/-- The lexemes of a line are those of its signs. -/
lemma lexemes_line {ws : List Sign} (h : openAfter Line.bracketLimit d ws = some 0) :
    Line.lexemes d (line ws) = some (ws.map lexeme) := by
  induction ws generalizing d with
  | nil =>
    obtain rfl : d = 0 := by simpa [openAfter] using h
    unfold Line.lexemes
    rfl
  | cons w ws ih =>
    obtain ⟨e, hstep, hrest⟩ := Option.bind_eq_some_iff.1 h
    have htail := ih hrest
    cases ws with
    | nil =>
      have hnil : Parted [] := by simp [Parted]
      have hword := w.lexemes_word (d := d) hnil
      rw [List.append_nil, hstep, Option.bind_some] at hword
      simpa [line, hword] using htail
    | cons v vs =>
      rw [line_cons _ (by simp), w.lexemes_word (by simp [Parted]), hstep, Option.bind_some,
        lexemes_space, htail]
      rfl

/-- No sign is written with a line break or a null character. -/
lemma notMem_word (w : Sign) {c : Char} (hc : c ∈ ['\n', '\r', '\x00']) : c ∉ w.word := by
  have hname {name : String} (hname : name ∈ names) : c ∉ name.toList := by
    obtain ⟨-, hall, -⟩ := names_plain name hname
    intro hmem
    have hchar := List.all_eq_true.1 hall c hmem
    have hno : ∀ c ∈ ['\n', '\r', '\x00'], Token.isNameChar c = false := by decide
    rw [hno c hc] at hchar
    cases hchar
  rcases w.word_cases with hw | hw
  · rw [hw]
    cases w with
    | field name f h => exact hname (mem_names_of_ofName? h)
    | method m => exact hname (name_mem_names m)
    | truth b => cases b <;> revert c <;> decide
    | connective op => cases op <;> revert c <;> decide
    | relation op => cases op <;> revert c <;> decide
    | number n =>
      intro hmem
      have hno : ∀ c ∈ ['\n', '\r', '\x00'], c.isDigit = false ∧ c ∉ ['.', 'e', 'E', '+', '-'] := by
        decide
      rcases n.mem_chars hmem with hdigit | hmark
      · rw [(hno c hc).1] at hdigit
        cases hdigit
      · exact (hno c hc).2 hmark
    | text l =>
      have hquote : c ≠ l.quote := by
        rintro rfl
        rcases l.isQuote with h | h <;> simp [h] at hc
      simp [chars, TextLiteral.chars, hquote, l.spelled.notMem hc]
    | null | not | minus | dot | opening | closing | comma => revert c; decide
  · have hno : ∀ cs ∈ rewritten, ∀ c ∈ ['\n', '\r', '\x00'], c ∉ cs := by decide
    exact hno _ hw c hc

lemma notMem_line (ws : List Sign) {c : Char} (hc : c ∈ ['\n', '\r', '\x00']) : c ∉ line ws := by
  induction ws with
  | nil => simp [line]
  | cons w ws ih =>
    cases ws with
    | nil => simpa [line] using w.notMem_word hc
    | cons v vs =>
      have hspace : c ≠ ' ' := by
        rintro rfl
        revert hc
        decide
      rw [line_cons _ (by simp)]
      simp only [List.mem_append, List.mem_cons, not_or]
      exact ⟨w.notMem_word hc, hspace, ih⟩

/-- A text without carriage returns has line feeds only. -/
lemma unify_eq_self {cs : List Char} (h : '\r' ∉ cs) : Line.unify cs = cs := by
  induction cs with
  | nil => rfl
  | cons c cs ih =>
    simp only [List.mem_cons, not_or] at h
    have hne : c ≠ '\r' := Ne.symm h.1
    rw [Line.unify.eq_3 _ _ (fun _ heq _ => hne heq) hne, ih h.2]

/-- A text that starts with none of these starts its line there. -/
lemma start_eq_self {c : Char} (hc : c ∉ [' ', '\t', '\x0c', '#', '\n', '\\']) (cs : List Char) :
    Line.start false 0 0 (c :: cs) = some (c :: cs) := by
  simp only [List.mem_cons, List.not_mem_nil, or_false, not_or] at hc
  rw [Line.start.eq_4 _ _ _ _ _ (fun h => absurd h hc.2.2.2.2.1)
    (fun _ _ h => absurd h hc.2.2.2.2.2)]
  simp [hc]

/-- The lexemes of a line whose brackets match. -/
lemma ofChars_line {ws : List Sign} (hne : ws ≠ [])
    (h : openAfter Line.bracketLimit 0 ws = some 0) :
    Line.ofChars (line ws) = some (ws.map lexeme) := by
  obtain ⟨w, vs, rfl⟩ := List.exists_cons_of_ne_nil hne
  obtain ⟨c, cs, hc, hhead⟩ : ∃ c cs, line (w :: vs) = c :: cs ∧
      c ∉ [' ', '\t', '\x0c', '#', '\n', '\\'] := by
    obtain ⟨c, cs, hc, hhead⟩ := w.exists_word
    cases vs with
    | nil => exact ⟨c, cs, by simp [line, hc], hhead⟩
    | cons v vs => exact ⟨c, cs ++ ' ' :: line (v :: vs), by simp [line_cons, hc], hhead⟩
  have hstart : Line.start false 0 0 (line (w :: vs)) = some (line (w :: vs)) := by
    rw [hc, start_eq_self hhead]
  rw [Line.ofChars, unify_eq_self (notMem_line _ (by decide)), hstart, Option.bind_some,
    lexemes_line h]

end Sign

end TransactionRules
