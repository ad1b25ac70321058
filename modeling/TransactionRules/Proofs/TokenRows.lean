import TransactionRules.Proofs.BracketTrees
import TransactionRules.Proofs.NormalTokens
import TransactionRules.Proofs.Operators

/-!
# Rows of tokens

Tokens are read as a row of items (`Token.items?`): lexeme by lexeme, and with the trees between their
brackets. The line of the tokens is the expression that this row is (`Token.ofChars?_joined`), and the
row of a conjunction is put together from the rows of its parts (`Token.ofChars?_conjoined`).
-/

namespace TransactionRules

open Expression
open scoped Members

/-! ## Brackets of tokens and of lexemes -/

/-- The change of depth at a bracket. -/
def depthOfBracket : Option Char → Int
  | some '(' | some '[' => 1
  | some ')' | some ']' => -1
  | _ => 0

/-- The change of depth in brackets of all kinds. -/
def nestingOfBracket : Option Char → Int
  | some '(' | some '[' | some '\x7b' => 1
  | some ')' | some ']' | some '\x7d' => -1
  | _ => 0

lemma Expression.Lexeme.depthStep_eq (l : Lexeme) : l.depthStep = depthOfBracket l.bracket? := by
  cases l with
  | opening b => cases b <;> rfl
  | closing b => cases b <;> rfl
  | _ => rfl

lemma Expression.Lexeme.nestingStep_eq (l : Lexeme) :
    l.nestingStep = nestingOfBracket l.bracket? := by
  cases l with
  | opening b => cases b <;> rfl
  | closing b => cases b <;> rfl
  | _ => rfl

namespace Token

lemma depthStep_eq (t : Token) : t.depthStep = depthOfBracket t.bracket? := by
  by_cases h : ∃ c ∈ brackets, t = ⟨.other, [c]⟩
  · obtain ⟨c, hc, rfl⟩ := h
    have hall : ∀ c ∈ brackets,
        depthStep ⟨.other, [c]⟩ = depthOfBracket (bracket? ⟨.other, [c]⟩) := by decide
    exact hall c hc
  · have hother {c : Char} (hc : c ∈ brackets) : t.isOther c = false := by
      by_contra hother
      exact h ⟨c, hc, isOther_iff.1 (by simpa using hother)⟩
    have hnone : t.bracket? = none := by
      unfold bracket?
      split
      · next c hkind hchars =>
        have hnot : brackets.contains c = false := by
          by_contra hmem
          refine h ⟨c, by simpa using hmem, ?_⟩
          rw [← hkind, ← hchars]
        rw [hnot]
        rfl
      · rfl
    rw [hnone, depthStep, hother (by decide), hother (by decide), hother (by decide),
      hother (by decide)]
    rfl

/-- The change of depth in brackets of all kinds at a token. -/
def nestingStep (t : Token) : Int := nestingOfBracket t.bracket?

/-- The depth in brackets of all kinds behind tokens. -/
def nesting (ts : List Token) : Int := (ts.map nestingStep).sum

variable {ts : List Token} {ls : List Lexeme}

lemma depth_of_agrees (h : List.Forall₂ Agrees ts ls) : Lexeme.level ls = depth ts := by
  induction h with
  | nil => rfl
  | @cons t l ts ls ht h ih =>
    rw [depth_cons, ← ih, depthStep_eq, ← ht.bracket, ← Lexeme.depthStep_eq]
    simp [Lexeme.level]

lemma nesting_of_agrees (h : List.Forall₂ Agrees ts ls) : Lexeme.nesting ls = nesting ts := by
  induction h with
  | nil => rfl
  | @cons t l ts ls ht h ih =>
    simp only [Lexeme.nesting, nesting, List.map_cons, List.sum_cons] at ih ⊢
    rw [ih, nestingStep, ← ht.bracket, ← Lexeme.nestingStep_eq]

/-- The tokens of the first lexemes. -/
lemma exists_first_tokens (h : List.Forall₂ Agrees ts ls) {p : List Lexeme} (hp : p <+: ls) :
    ∃ q, q <+: ts ∧ List.Forall₂ Agrees q p := by
  have htake := List.forall₂_take p.length h
  rw [← List.prefix_iff_eq_take.1 hp] at htake
  exact ⟨ts.take p.length, List.take_prefix _ _, htake⟩

/-- The lexemes of the first tokens. -/
lemma exists_first_lexemes (h : List.Forall₂ Agrees ts ls) {q : List Token} (hq : q <+: ts) :
    ∃ p, p <+: ls ∧ List.Forall₂ Agrees q p := by
  have htake := List.forall₂_take q.length h
  rw [← List.prefix_iff_eq_take.1 hq] at htake
  exact ⟨ls.take q.length, List.take_prefix _ _, htake⟩

lemma agrees_of_mapM (h : ∀ t ∈ ts, t.Legible) (hls : ts.mapM lexeme? = some ls) :
    List.Forall₂ Agrees ts ls := by
  induction ts generalizing ls with
  | nil =>
    obtain rfl : [] = ls := by simpa using hls
    exact .nil
  | cons t ts ih =>
    obtain ⟨l, more, hl, hmore, rfl⟩ := mapM_cons_eq_some.1 hls
    exact .cons ((h t (by simp)).agrees hl) (ih (fun u hu => h u (by simp [hu])) hmore)

lemma not_formatted_of_agrees (h : List.Forall₂ Agrees ts ls) :
    ∀ l ∈ ls, ∀ sources, l ≠ .formatted sources := by
  induction h with
  | nil => simp
  | @cons t l ts ls ht h ih =>
    intro x hx
    rcases List.mem_cons.1 hx with rfl | hx
    · rintro sources rfl
      by_cases hkind : t.kind = .string
      · obtain ⟨s, hs⟩ := ht.text hkind
        cases hs
      · cases ht.notLiteral hkind
    · exact ih x hx

end Token

/-! ## Trees without formatted literals -/

namespace Expression.Tree

/-- A tree whose item does not depend on what may stand in formatted literals. -/
def Fixed (t : Tree) : Prop := ∀ accepts accepts', Item.ofTree accepts t = Item.ofTree accepts' t

/-- The trees of a state, those before open brackets among them. -/
def FixedState (st : State) : Prop :=
  (∀ t ∈ st.2, t.Fixed) ∧ ∀ entry ∈ st.1, ∀ t ∈ entry.2, Fixed t

variable {st st' : State} {l : Lexeme} {ls : List Lexeme} {ts : List Tree}

lemma ofTrees_of_fixed (h : ∀ t ∈ ts, Fixed t) (accepts accepts' : List Char → Bool) :
    Item.ofTrees accepts ts = Item.ofTrees accepts' ts := by
  induction ts with
  | nil => rw [Item.ofTrees, Item.ofTrees]
  | cons t ts ih =>
    rw [Item.ofTrees, Item.ofTrees, h t (by simp) accepts accepts', ih fun u hu => h u (by simp [hu])]

lemma fixed_leaf (hl : ∀ sources, l ≠ .formatted sources) : Fixed (.leaf l) := by
  intro accepts accepts'
  cases l with
  | formatted sources => exact absurd rfl (hl sources)
  | _ => rw [Item.ofTree, Item.ofTree] <;> simp

lemma fixed_group (b : Bracket) (h : ∀ t ∈ ts, Fixed t) : Fixed (.group b ts) := by
  intro accepts accepts'
  rw [Item.ofTree, Item.ofTree, ofTrees_of_fixed h accepts accepts']

/-- One more lexeme that is no formatted literal. -/
lemma FixedState.push (h : FixedState st) (hl : ∀ sources, l ≠ .formatted sources)
    (hst : Tree.push st l = some st') : FixedState st' := by
  obtain ⟨stack, current⟩ := st
  obtain ⟨hcurrent, hstack⟩ := h
  cases l with
  | opening b =>
    cases hst
    refine ⟨by simp, fun entry hentry => ?_⟩
    rcases List.mem_cons.1 hentry with rfl | hentry
    · exact hcurrent
    · exact hstack entry hentry
  | closing c =>
    cases stack with
    | nil => cases hst
    | cons top stack =>
      obtain ⟨b, outer⟩ := top
      simp only [Tree.push] at hst
      split_ifs at hst
      cases hst
      have houter : ∀ t ∈ outer, Fixed t := hstack (b, outer) (by simp)
      have hgroup : Fixed (.group b current.reverse) := fixed_group b (by simpa using hcurrent)
      exact ⟨by simpa using ⟨hgroup, houter⟩, fun entry hentry => hstack entry (by simp [hentry])⟩
  | formatted sources => exact absurd rfl (hl sources)
  | _ =>
    cases hst
    exact ⟨by simpa using ⟨fixed_leaf hl, hcurrent⟩, hstack⟩

lemma FixedState.foldlM (h : FixedState st) (hls : ∀ l ∈ ls, ∀ sources, l ≠ .formatted sources)
    (hst : ls.foldlM Tree.push st = some st') : FixedState st' := by
  induction ls generalizing st with
  | nil =>
    cases hst
    exact h
  | cons l ls ih =>
    obtain ⟨next, hl, hrest⟩ := Option.bind_eq_some_iff.1 hst
    exact ih (h.push (hls l (by simp)) hl) (fun x hx => hls x (by simp [hx])) hrest

/-- The items of lexemes without formatted literals do not depend on what may stand in these. -/
lemma fixed_of_ofLexemes (hls : ∀ l ∈ ls, ∀ sources, l ≠ .formatted sources)
    (h : ofLexemes ls = some ts) : ∀ t ∈ ts, Fixed t := by
  rw [ofLexemes_eq] at h
  obtain ⟨⟨stack, current⟩, hst, hfinish⟩ := Option.bind_eq_some_iff.1 h
  have hstart : FixedState ([], []) := ⟨by simp, by simp⟩
  have hfixed := hstart.foldlM hls hst
  cases stack with
  | nil =>
    cases hfinish
    simpa using hfixed.1
  | cons => cases hfinish

end Expression.Tree

lemma Expression.Item.ofTrees_eq_mapM (accepts : List Char → Bool) (ts : List Tree) :
    ofTrees accepts ts = ts.mapM (ofTree accepts) := by
  induction ts with
  | nil =>
    rw [ofTrees]
    rfl
  | cons t ts ih => rw [ofTrees, ih, List.mapM_cons]

/-! ## Rows of conjunctions -/

namespace Expression.Grammar

/-- Rows between brackets are the operands of a conjunction. -/
lemma top_conjunction {iss : List (List Item)} (hne : iss ≠ []) :
    top ([Item.leaf (.keyword .and)].intercalate (iss.map fun is => [.group (forms .round is)])) =
      (iss.mapM roundOperand).map (Expr.joined .and) := by
  have hgroup (is : List Item) : Tight 6 [.group (forms .round is)] := by simp [Tight, Item.tier]
  have htight : Tight 2 ([Item.leaf (.keyword .and)].intercalate
      (iss.map fun is => [.group (forms .round is)])) := by
    refine .intercalate (by simpa using hne) (Nat.le_refl _) fun js hjs => ?_
    obtain ⟨is, -, rfl⟩ := List.mem_map.1 hjs
    exact (hgroup is).mono (by decide)
  have hread (is : List Item) : inversion [.group (forms .round is)] = roundOperand is := by
    rw [inversion_of_tight ((hgroup is).mono (by decide)),
      comparison_of_tight ((hgroup is).mono (by decide)), arithmetic_of_tight (hgroup is)]
    cases hoperand : roundOperand is with
    | none => simp [attached, Item.isLiteral, operand, forms, hoperand]
    | some e => simp [attached, Item.isLiteral, operand, forms, hoperand, trailers]
  have hparts : (splitOn (Item.isKeyword .and) ([Item.leaf (.keyword .and)].intercalate
      (iss.map fun is => [.group (forms .round is)]))).mapM inversion = iss.mapM roundOperand := by
    have hsingle (is : List Item) :
        splitOn (Item.isKeyword .and) [.group (forms .round is)] = [[.group (forms .round is)]] := rfl
    rw [splitOn_intercalate rfl (by simpa using hne), List.flatMap_map]
    simp only [hsingle]
    rw [← List.map_eq_flatMap, List.mapM_map]
    exact congrArg (List.mapM · iss) (funext hread)
  have hor : splitOn (Item.isKeyword .or) ([Item.leaf (.keyword .and)].intercalate
      (iss.map fun is => [.group (forms .round is)])) =
        [[Item.leaf (.keyword .and)].intercalate (iss.map fun is => [.group (forms .round is)])] :=
    splitOn_eq_singleton fun i hi => Item.isKeyword_eq_false (htight i hi)
  rw [top_of_tight (htight.mono (by decide)), disjunction, hor, connected, conjunction,
    connected_eq_map, hparts]

end Expression.Grammar

/-! ## Items of tokens -/

namespace Token

variable {ts : List Token} {segs : List (List Token)}

/-- The items of tokens, of which none is a formatted literal. -/
def items? (ts : List Token) : Option (List Item) :=
  ((ts.mapM lexeme?).bind Tree.ofLexemes).bind (Item.ofTrees fun _ => false)

/-- The line of tokens is the expression that its items are, as long as its brackets are not nested
beyond the limit. -/
theorem ofChars?_joined {e : Expr} (hne : ts ≠ []) (h : ∀ t ∈ ts, t.Legible ∧ t.isOther '#' = false) :
    Expr.ofChars? (joined ts) = some e ↔
      (∀ p, p <+: ts → nesting p ≤ Line.bracketLimit) ∧ (items? ts).bind Grammar.top = some e := by
  rw [Expr.ofChars?, ofChars_joined hne h, items?]
  cases hls : ts.mapM lexeme? with
  | none => simp
  | some ls =>
    rw [Option.bind_some, Option.bind_some]
    cases hus : Tree.ofLexemes ls with
    | none => split_ifs <;> simp [hus]
    | some us =>
      have hagrees := agrees_of_mapM (fun t ht => (h t ht).1) hls
      have hfixed := Tree.fixed_of_ofLexemes (not_formatted_of_agrees hagrees) hus
      have hclosed : Lexeme.Closed 0 ls ↔ ∀ p, p <+: ts → nesting p ≤ Line.bracketLimit := by
        rw [Tree.closed_iff hus]
        constructor <;> intro hlimit p hp
        · obtain ⟨q, hq, hagrees⟩ := exists_first_lexemes hagrees hp
          rw [← nesting_of_agrees hagrees]
          exact hlimit q hq
        · obtain ⟨q, hq, hagrees⟩ := exists_first_tokens hagrees hp
          rw [nesting_of_agrees hagrees]
          exact hlimit q hq
      rw [← hclosed, Option.bind_some]
      split_ifs with hlimit
      · rw [Option.bind_some, hus, Option.bind_some, Tree.ofTrees_of_fixed hfixed _ fun _ => false,
          and_iff_right hlimit]
      · simp [hlimit]

/-- The brackets of tokens that have items match. -/
lemma nesting_of_items? {is : List Item} (h : ∀ t ∈ ts, t.Legible) (his : items? ts = some is) :
    nesting ts = 0 := by
  obtain ⟨us, hus, -⟩ := Option.bind_eq_some_iff.1 his
  obtain ⟨ls, hls, hus⟩ := Option.bind_eq_some_iff.1 hus
  rw [← nesting_of_agrees (agrees_of_mapM h hls)]
  exact (Tree.level_of_ofLexemes hus).2.2

/-! ## Nesting in conjunctions -/

lemma nesting_cons (t : Token) (ts : List Token) : nesting (t :: ts) = t.nestingStep + nesting ts := by
  simp [nesting]

lemma nesting_append (ts us : List Token) : nesting (ts ++ us) = nesting ts + nesting us := by
  simp [nesting]

lemma nesting_bracketed (ts : List Token) : nesting (bracketed ts) = nesting ts := by
  have hleft : leftBracket.nestingStep = 1 := rfl
  have hright : nesting [rightBracket] = -1 := rfl
  rw [bracketed, nesting_cons, nesting_append]
  omega

lemma nesting_bracketed_le {n : Int} (hzero : nesting ts = 0) :
    (∀ p, p <+: bracketed ts → nesting p ≤ n) ↔ ∀ p, p <+: ts → nesting p < n := by
  have hleft : leftBracket.nestingStep = 1 := rfl
  have hright : rightBracket.nestingStep = -1 := rfl
  have hnil : nesting [] = 0 := rfl
  simp only [bracketed, forall_prefix_cons, forall_prefix_append, List.prefix_nil, forall_eq,
    nesting_cons, nesting_append, hzero, hleft, hright, hnil]
  constructor
  · rintro ⟨-, h, -⟩ p hp
    have := h p hp
    omega
  · intro h
    have hpos := h [] List.nil_prefix
    rw [hnil] at hpos
    refine ⟨hpos.le, fun p hp => ?_, by omega, by omega⟩
    have := h p hp
    omega

/-- Around the parts of a conjunction there is one bracket more than within each of them. -/
lemma nesting_conjoined_le {n : Int} (hne : segs ≠ []) (h : ∀ ts ∈ segs, nesting ts = 0) :
    (∀ p, p <+: conjoined segs → nesting p ≤ n) ↔ ∀ ts ∈ segs, ∀ p, p <+: ts → nesting p < n := by
  induction segs with
  | nil => exact absurd rfl hne
  | cons ts segs ih =>
    have hts := h ts (by simp)
    cases segs with
    | nil => simpa [conjoined] using nesting_bracketed_le hts
    | cons us segs =>
      have hand : conjunction.nestingStep = 0 := rfl
      have hnil : nesting [] = 0 := rfl
      have htail := ih (by simp) fun vs hvs => h vs (by simp [hvs])
      rw [List.forall_mem_cons, ← nesting_bracketed_le hts, ← htail, conjoined_cons_cons]
      simp only [forall_prefix_append, forall_prefix_cons, nesting_append, nesting_cons,
        nesting_bracketed, hts, hand, hnil, Int.zero_add]
      refine and_congr_right fun hfirst => and_iff_right ?_
      simpa [hnil] using hfirst [] List.nil_prefix

/-! ## Characters of conjunctions -/

lemma mem_joined {c : Char} (hc : c ≠ ' ') : c ∈ joined ts ↔ ∃ t ∈ ts, c ∈ t.word := by
  constructor
  · intro h
    rcases mem_of_mem_intercalate h with h | h
    · exact absurd h hc
    · obtain ⟨word, hmem, h⟩ := List.mem_flatten.1 h
      obtain ⟨t, ht, rfl⟩ := List.mem_map.1 hmem
      exact ⟨t, ht, h⟩
  · rintro ⟨t, ht, h⟩
    exact mem_intercalate_of_mem (List.mem_map_of_mem ht) h

lemma mem_conjoined_of_mem {t : Token} (hts : ts ∈ segs) (ht : t ∈ ts) : t ∈ conjoined segs :=
  mem_intercalate_of_mem (List.mem_map_of_mem hts) (by simp [bracketed, ht])

/-- The line of a conjunction has no null character if none of its parts has one. -/
lemma noNull_conjoined :
    '\x00' ∉ joined (conjoined segs) ↔ ∀ ts ∈ segs, '\x00' ∉ joined ts := by
  simp only [mem_joined (show '\x00' ≠ ' ' by decide), not_exists, not_and]
  constructor
  · exact fun h ts hts t ht => h t (mem_conjoined_of_mem hts ht)
  · intro h t ht
    rcases mem_conjoined ht with ht | ht
    · obtain ⟨ts, hts, ht⟩ := List.mem_flatten.1 ht
      exact h ts hts t ht
    · have hframe : ∀ t ∈ frame, '\x00' ∉ t.word := by decide
      exact hframe t ht

/-! ## Items of conjunctions -/

lemma lexemes_conjoined (segs : List (List Token)) :
    (conjoined segs).mapM lexeme? = (segs.mapM (List.mapM lexeme?)).map fun lss =>
      [Lexeme.keyword .and].intercalate (lss.map Lexeme.bracketed) := by
  have hbracketed (ts : List Token) :
      (bracketed ts).mapM lexeme? = (ts.mapM lexeme?).map Lexeme.bracketed := by
    have hleft : leftBracket.lexeme? = some (.opening .round) := rfl
    have hright : rightBracket.lexeme? = some (.closing .round) := rfl
    rw [bracketed, List.mapM_cons, List.mapM_append, hleft]
    cases ts.mapM lexeme? <;> simp [Lexeme.bracketed, hright]
  have hand : conjunction.lexeme? = some (.keyword .and) := rfl
  rw [conjoined, mapM_intercalate hand, List.mapM_map]
  simp only [Function.comp_def, hbracketed]
  rw [mapM_option_map, Option.map_map]
  rfl

lemma items_groups (accepts : List Char → Bool) (tss : List (List Tree)) :
    Item.ofTrees accepts
        ([Tree.leaf (.keyword .and)].intercalate (tss.map fun ts => [.group .round ts])) =
      (tss.mapM (Item.ofTrees accepts)).map fun iss =>
        [Item.leaf (.keyword .and)].intercalate
          (iss.map fun is => [.group (Grammar.forms .round is)]) := by
  have hand : Item.ofTree accepts (.leaf (.keyword .and)) = some (.leaf (.keyword .and)) := by
    rw [Item.ofTree]
    simp
  have hgroup (ts : List Tree) : [Tree.group .round ts].mapM (Item.ofTree accepts) =
      (Item.ofTrees accepts ts).map fun is => [.group (Grammar.forms .round is)] := by
    rw [List.mapM_cons, Item.ofTree]
    cases Item.ofTrees accepts ts <;> rfl
  rw [Item.ofTrees_eq_mapM, mapM_intercalate hand, List.mapM_map]
  simp only [Function.comp_def, hgroup]
  rw [mapM_option_map, Option.map_map]
  rfl

/-- Parts between brackets have the items that they have by themselves, if none of them closes more
round and square brackets than it opens, and only the last one may leave one open. -/
theorem items?_conjoined (hne : segs ≠ []) (h : ∀ ts ∈ segs, ∀ t ∈ ts, t.Legible)
    (hlevel : ∀ ts ∈ segs, ∀ p, p <+: ts → 0 ≤ depth p) (hzero : ∀ ts ∈ segs.dropLast, depth ts = 0) :
    items? (conjoined segs) = (segs.mapM items?).map fun iss =>
      [Item.leaf (.keyword .and)].intercalate
        (iss.map fun is => [.group (Grammar.forms .round is)]) := by
  have hparts : segs.mapM items? =
      ((segs.mapM (List.mapM lexeme?)).bind (List.mapM Tree.ofLexemes)).bind
        (List.mapM (Item.ofTrees fun _ => false)) := by
    rw [mapM_bind_mapM, mapM_bind_mapM]
    rfl
  rw [items?, lexemes_conjoined, hparts]
  cases hlss : segs.mapM (List.mapM lexeme?) with
  | none => rfl
  | some lss =>
    have hall := mapM_eq_some_iff.1 hlss
    have hagrees {ts : List Token} {ls : List Lexeme} (hts : ts ∈ segs)
        (hls : ts.mapM lexeme? = some ls) : List.Forall₂ Agrees ts ls := agrees_of_mapM (h ts hts) hls
    have hends : List.Forall₂ (fun ts ls => ts.mapM lexeme? = some ls) segs.dropLast lss.dropLast := by
      rw [List.dropLast_eq_take, List.dropLast_eq_take, ← hall.length_eq]
      exact List.forall₂_take _ hall
    -- The lexemes nest as the tokens do, so the brackets around the parts stay their own.
    have hlssne : lss ≠ [] := by
      rintro rfl
      cases hall
      exact hne rfl
    have hlevels : ∀ ls ∈ lss, Lexeme.Level ls := by
      intro ls hls p hp
      obtain ⟨ts, hts, hls⟩ := exists_left_of_forall₂ hall ls hls
      obtain ⟨q, hq, hp⟩ := exists_first_tokens (hagrees hts hls) hp
      rw [depth_of_agrees hp]
      exact hlevel ts hts q hq
    have hzeros : ∀ ls ∈ lss.dropLast, Lexeme.level ls = 0 := by
      intro ls hls
      obtain ⟨ts, hts, hls⟩ := exists_left_of_forall₂ hends ls hls
      rw [depth_of_agrees (hagrees (List.dropLast_subset _ hts) hls), hzero ts hts]
    rw [Option.map_some, Option.bind_some, Tree.ofLexemes_arranged hlssne hlevels hzeros, Option.bind_some]
    cases lss.mapM Tree.ofLexemes with
    | none => rfl
    | some tss => exact items_groups _ tss

/-- The line of a conjunction is the conjunction of what its parts are between brackets, as long as one
more bracket can be opened in each of them. -/
theorem ofChars?_conjoined {e : Expr} (hne : segs ≠ [])
    (h : ∀ ts ∈ segs, ∀ t ∈ ts, t.Legible ∧ t.isOther '#' = false)
    (hlevel : ∀ ts ∈ segs, ∀ p, p <+: ts → 0 ≤ depth p)
    (hzero : ∀ ts ∈ segs.dropLast, depth ts = 0) :
    Expr.ofChars? (joined (conjoined segs)) = some e ↔
      (∀ ts ∈ segs, ∀ p, p <+: ts → nesting p < Line.bracketLimit) ∧
        ∃ es, (segs.mapM fun ts => (items? ts).bind Grammar.roundOperand) = some es ∧
          Expr.joined .and es = e := by
  have hlegible : ∀ t ∈ conjoined segs, t.Legible ∧ t.isOther '#' = false := by
    intro t ht
    rcases mem_conjoined ht with ht | ht
    · obtain ⟨ts, hts, ht⟩ := List.mem_flatten.1 ht
      exact h ts hts t ht
    · exact frame_legible t ht
  have hitems := items?_conjoined hne (fun ts hts t ht => (h ts hts t ht).1) hlevel hzero
  rw [ofChars?_joined (conjoined_ne_nil hne) hlegible, hitems, ← mapM_bind_mapM]
  cases hiss : segs.mapM items? with
  | none => simp
  | some iss =>
    have hall := mapM_eq_some_iff.1 hiss
    have hne' : iss ≠ [] := by
      rintro rfl
      cases hall
      exact hne rfl
    have hnesting : ∀ ts ∈ segs, nesting ts = 0 := by
      intro ts hts
      obtain ⟨is, -, his⟩ := exists_right_of_forall₂ hall ts hts
      exact nesting_of_items? (fun t ht => (h ts hts t ht).1) his
    rw [nesting_conjoined_le hne hnesting, Option.map_some, Option.bind_some, Option.bind_some,
      Grammar.top_conjunction hne', Option.map_eq_some_iff]

end Token

end TransactionRules
