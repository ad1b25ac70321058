import TransactionRules.Proofs.Meanings
import TransactionRules.Proofs.Phrases

/-!
# Written conditions

`Written p c ws` says that the signs `ws` write the condition `c` where only operators that bind at
least as tightly as `p` may stand without brackets. Further brackets may stand around any operand,
and a connective whose operand has the same connective needs none. The items of such signs are read
as the condition, level by level: each level of the grammar splits the row at its own operators, and
passes on a row without any of them.
-/

namespace TransactionRules

open Expression

/-- The operators of conditions, from the loosest to the tightest. -/
inductive Precedence where
  | disjunction | conjunction | negation | comparison | minus | call
deriving DecidableEq

namespace Precedence

/-- The operators that bind next tighter. -/
def next : Precedence → Precedence
  | disjunction => conjunction
  | conjunction => negation
  | negation => comparison
  | comparison => minus
  | minus => call
  | call => call

def ofConnective : Connective → Precedence
  | .and => conjunction
  | .or => disjunction

end Precedence

/-- The value of a numeral: a whole number, or the float nearest to its decimal. -/
def Expression.Numeral.value (n : Numeral) : Value :=
  if n.fraction = [] ∧ n.power = none then .int (digitsValue n.whole)
  else .float (Decimal.toFloat false n.decimal)

open Sign in
/-- `Written p c ws`: the signs `ws` write the condition `c`, with brackets around whatever is looser
than `p`. -/
inductive Written : Precedence → Condition → List Sign → Prop
  | field (name : String) (f : Field) (h : Field.ofName? name = some f) :
      Written .call (.field f) [field name f h]
  | truth (b : Bool) : Written .call (.constant (.bool b)) [truth b]
  | null : Written .call (.constant .null) [null]
  | number (n : Numeral) : Written .call (.constant n.value) [number n]
  | text (l : TextLiteral) : Written .call (.constant (.text (String.ofList l.text))) [text l]
  | bracketed {c : Condition} {ws : List Sign} (h : Written .disjunction c ws) :
      Written .call c (opening :: (ws ++ [closing]))
  | called {c d : Condition} {ws vs : List Sign} (m : TextMethod) (hc : Written .call c ws)
      (hd : Written .disjunction d vs) :
      Written .call (.call m c d) (ws ++ dot :: method m :: opening :: (vs ++ [closing]))
  | negated {c : Condition} {ws : List Sign} (h : Written .minus c ws) :
      Written .minus (.negate c) (minus :: ws)
  | chained {c : Condition} {ws : List Sign} (rest : List (Comparison × Condition × List Sign))
      (hne : rest ≠ []) (hc : Written .minus c ws) (h : ∀ r ∈ rest, Written .minus r.2.1 r.2.2) :
      Written .comparison (.chain c (rest.map fun r => (r.1, r.2.1)))
        (ws ++ rest.flatMap fun r => relation r.1 :: r.2.2)
  | inverted {c : Condition} {ws : List Sign} (h : Written .negation c ws) :
      Written .negation (.not c) (not :: ws)
  | joined (op : Connective) (ps : List (Condition × List Sign)) (hlen : 2 ≤ ps.length)
      (h : ∀ p ∈ ps, Written (.ofConnective op) p.1 p.2) :
      Written (.ofConnective op) (.joined op (ps.map Prod.fst))
        ([connective op].intercalate (ps.map Prod.snd))
  | tighter {p : Precedence} {c : Condition} {ws : List Sign} (h : Written p.next c ws) :
      Written p c ws

namespace Written

/-- What may stand without brackets among tighter operators may stand where all operators may. -/
lemma to_disjunction {p : Precedence} {c : Condition} {ws : List Sign} (h : Written p c ws) :
    Written .disjunction c ws := by
  have hconjunction (h : Written .conjunction c ws) : Written .disjunction c ws := .tighter h
  have hnegation (h : Written .negation c ws) : Written .disjunction c ws :=
    hconjunction (.tighter h)
  have hcomparison (h : Written .comparison c ws) : Written .disjunction c ws :=
    hnegation (.tighter h)
  have hminus (h : Written .minus c ws) : Written .disjunction c ws := hcomparison (.tighter h)
  cases p with
  | disjunction => exact h
  | conjunction => exact hconjunction h
  | negation => exact hnegation h
  | comparison => exact hcomparison h
  | minus => exact hminus h
  | call => exact hminus (.tighter h)

/-- What binds as tightly as a call needs no brackets anywhere. -/
lemma of_call {c : Condition} {ws : List Sign} (h : Written .call c ws) (p : Precedence) :
    Written p c ws := by
  have hminus : Written .minus c ws := .tighter h
  have hcomparison : Written .comparison c ws := .tighter hminus
  have hnegation : Written .negation c ws := .tighter hcomparison
  have hconjunction : Written .conjunction c ws := .tighter hnegation
  cases p with
  | call => exact h
  | minus => exact hminus
  | comparison => exact hcomparison
  | negation => exact hnegation
  | conjunction => exact hconjunction
  | disjunction => exact .tighter hconjunction

/-! ## Phrases -/

open Sign (Phrase)

lemma phrase_flatMap {rest : List (Comparison × Condition × List Sign)} {ws : List Sign}
    (hws : Phrase ws) (h : ∀ r ∈ rest, Phrase r.2.2) :
    Phrase (ws ++ rest.flatMap fun r => .relation r.1 :: r.2.2) := by
  induction rest generalizing ws with
  | nil => simpa using hws
  | cons r rest ih =>
    have htail := ih (.joined (w := .relation r.1) rfl hws (h r (by simp))) fun x hx =>
      h x (by simp [hx])
    simpa using htail

lemma phrase_intercalate {op : Connective} {wss : List (List Sign)} (hne : wss ≠ [])
    (h : ∀ ws ∈ wss, Phrase ws) : Phrase ([.connective op].intercalate wss) :=
  intercalate_of_append hne (fun _ _ hws hvs => .joined rfl hws hvs) h

/-- The signs of a condition are a phrase. -/
lemma phrase {p : Precedence} {c : Condition} {ws : List Sign} (h : Written p c ws) :
    Phrase ws := by
  induction h with
  | field | truth | null | number | text => exact .operand rfl
  | bracketed h ih => exact .bracketed ih
  | called m hc hd ihc ihd => exact .called m ihc ihd
  | negated h ih => exact .preceded rfl ih
  | chained rest hne hc h ihc ih => exact phrase_flatMap ihc ih
  | inverted h ih => exact .preceded rfl ih
  | joined op ps hlen h ih =>
    refine phrase_intercalate ?_ ?_
    · rintro hps
      simp [List.map_eq_nil_iff.1 hps] at hlen
    · intro ws hws
      obtain ⟨p, hp, rfl⟩ := List.mem_map.1 hws
      exact ih p hp
  | tighter h ih => exact ih

end Written

/-! ## Items -/

/-- `Grouped ws is`: the items of the signs `ws`, those between brackets as one group. -/
inductive Grouped : List Sign → List Item → Prop
  | nil : Grouped [] []
  | leaf {w : Sign} {ws : List Sign} {is : List Item} (hw : w.bracketDepth = 0)
      (h : Grouped ws is) : Grouped (w :: ws) (.leaf w.lexeme :: is)
  | group {vs ws : List Sign} {js is : List Item} (hv : Grouped vs js) (h : Grouped ws is) :
      Grouped (.opening :: (vs ++ .closing :: ws)) (.group (Grammar.forms .round js) :: is)

namespace Grouped

variable {ws vs : List Sign} {is js : List Item}

lemma append (hw : Grouped ws is) (hv : Grouped vs js) : Grouped (ws ++ vs) (is ++ js) := by
  induction hw with
  | nil => exact hv
  | leaf hw h ih => exact .leaf hw ih
  | @group us ws ks is hu h ihu ih => simpa using Grouped.group hu ih

lemma bracketed (h : Grouped ws is) :
    Grouped (.opening :: (ws ++ [.closing])) [.group (Grammar.forms .round is)] :=
  .group h .nil

lemma flatMap {qs : List ((Comparison × Condition × List Sign) × List Item)}
    (hw : Grouped ws is) (h : ∀ q ∈ qs, Grouped q.1.2.2 q.2) :
    Grouped (ws ++ (qs.map Prod.fst).flatMap fun r => .relation r.1 :: r.2.2)
      (is ++ qs.flatMap fun q => .leaf (Sign.relation q.1.1).lexeme :: q.2) := by
  refine hw.append ?_
  induction qs with
  | nil => exact .nil
  | cons q qs ih =>
    have hq := h q (by simp)
    have htail := ih fun x hx => h x (by simp [hx])
    exact .leaf rfl (hq.append htail)

lemma intercalate {op : Connective} {qs : List ((Condition × List Sign) × List Item)}
    (h : ∀ q ∈ qs, Grouped q.1.2 q.2) :
    Grouped ([.connective op].intercalate ((qs.map Prod.fst).map Prod.snd))
      ([.leaf (Sign.connective op).lexeme].intercalate (qs.map Prod.snd)) := by
  induction qs with
  | nil => exact .nil
  | cons q qs ih =>
    have hq := h q (by simp)
    have htail := ih fun x hx => h x (by simp [hx])
    cases qs with
    | nil => simpa using hq
    | cons r qs => simpa [List.intercalate_cons_cons] using hq.append (.leaf rfl htail)

lemma build_leaf {w : Sign} (hw : w.bracketDepth = 0) (stack : List (Bracket × List Tree))
    (current : List Tree) (ls : List Lexeme) :
    Tree.build stack current (w.lexeme :: ls) =
      Tree.build stack (.leaf w.lexeme :: current) ls := by
  cases w with
  | opening | closing => cases hw
  | truth b => cases b <;> cases stack <;> rfl
  | _ => cases stack <;> rfl

lemma ofTree_leaf (w : Sign) (accepts : List Char → Bool) :
    Item.ofTree accepts (.leaf w.lexeme) = some (.leaf w.lexeme) := by
  cases w with
  | truth b =>
    cases b
    · rw [Item.ofTree]
      simp [Sign.lexeme]
    · rw [Item.ofTree]
      simp [Sign.lexeme]
  | _ =>
    rw [Item.ofTree]
    simp [Sign.lexeme]

/-- Trees that are read before the others are built. -/
lemma build (h : Grouped ws is) :
    ∃ ts, (∀ stack current ls, Tree.build stack current (ws.map Sign.lexeme ++ ls) =
        Tree.build stack (ts.reverse ++ current) ls) ∧
      ∀ accepts, Item.ofTrees accepts ts = some is := by
  induction h with
  | nil => exact ⟨[], fun stack current ls => rfl, fun accepts => by rw [Item.ofTrees]⟩
  | @leaf w ws is hw h ih =>
    obtain ⟨ts, hbuild, hitems⟩ := ih
    refine ⟨.leaf w.lexeme :: ts, fun stack current ls => ?_, fun accepts => ?_⟩
    · rw [List.map_cons, List.cons_append, build_leaf hw, hbuild]
      simp
    · rw [Item.ofTrees, ofTree_leaf, hitems]
      rfl
  | @group vs ws js is hv h ihv ih =>
    obtain ⟨us, hbuildv, hitemsv⟩ := ihv
    obtain ⟨ts, hbuild, hitems⟩ := ih
    refine ⟨.group .round us :: ts, fun stack current ls => ?_, fun accepts => ?_⟩
    · have hopening (ls : List Lexeme) : Tree.build stack current (.opening .round :: ls) =
          Tree.build ((.round, current) :: stack) [] ls := by
        cases stack <;> rfl
      have hclosing (ls : List Lexeme) :
          Tree.build ((.round, current) :: stack) us.reverse (.closing .round :: ls) =
            Tree.build stack (.group .round us :: current) ls := by
        rw [Tree.build, if_pos rfl, List.reverse_reverse]
      rw [List.map_cons, List.map_append, List.map_cons, List.cons_append, List.append_assoc,
        List.cons_append]
      simp only [Sign.lexeme]
      rw [hopening, hbuildv, List.append_nil, hclosing, hbuild]
      simp
    · rw [Item.ofTrees, Item.ofTree, hitemsv, hitems]
      rfl

/-- The expression of a line is that of its items. -/
lemma ofChars?_line (h : Grouped ws is) (hne : ws ≠ [])
    (ho : Sign.openAfter Line.bracketLimit 0 ws = some 0) :
    Expr.ofChars? (Sign.line ws) = Grammar.top is := by
  obtain ⟨ts, hbuild, hitems⟩ := h.build
  have htree : Tree.ofLexemes (ws.map Sign.lexeme) = some ts := by
    have := hbuild [] [] []
    rw [List.append_nil, List.append_nil] at this
    rw [Tree.ofLexemes, this, Tree.build, List.reverse_reverse]
  rw [Expr.ofChars?, Sign.ofChars_line hne ho, Option.bind_some, htree, Option.bind_some,
    hitems, Option.bind_some]

end Grouped

/-! ## Rows of items -/

/-- The tier of a connective. -/
def Precedence.tierOf : Connective → Nat
  | .and => 2
  | .or => 1

/-- How the operands of a connective are read. -/
def Precedence.readOf : Connective → List Item → Option Expr
  | .and => Grammar.inversion
  | .or => Grammar.conjunction

open Grammar Precedence Sign in
/-- The items between connectives are read as operands of the connective. -/
structure ReadsJoined (op : Connective) (c : Condition) (is : List Item) (es : List Expr) : Prop where
  ne_nil : is ≠ []
  tight : Tight (tierOf op) is
  operands : c.Operands op es
  mapM_eq : (splitOn (Item.isKeyword (connectiveKeyword op)) is).mapM (readOf op) = some es

open Grammar in
/-- What the level of the grammar with the operators `p` makes of items. -/
def Reads : Precedence → Condition → List Item → Prop
  | .disjunction, c, is => ∃ es, ReadsJoined .or c is es
  | .conjunction, c, is => ∃ es, ReadsJoined .and c is es
  | .negation, c, is => is ≠ [] ∧ Tight 3 is ∧ ∃ e, inversion is = some e ∧ c.Denotes e
  | .comparison, c, is => is ≠ [] ∧ Tight 4 is ∧ ∃ e, comparison is = some e ∧ c.Denotes e
  | .minus, c, is =>
    is ≠ [] ∧ Tight 5 is ∧ Unary is ∧ ∃ e, arithmetic is = some e ∧ c.Denotes e
  | .call, c, is => is ≠ [] ∧ Tight 6 is ∧ ∃ e, c.Denotes e ∧
    ∀ more : List Item, (∀ i ∈ more.head?, i.isLiteral = false) →
      attached (is ++ more) = trailers e more

namespace ReadsJoined

variable {op : Connective} {c : Condition} {is : List Item} {es : List Expr}

/-- The whole row is the condition. -/
lemma connected_eq (h : ReadsJoined op c is es) :
    Grammar.connected op (Precedence.readOf op)
      (Grammar.splitOn (Item.isKeyword (Sign.connectiveKeyword op)) is) = some (.joined op es) := by
  rw [Grammar.connected_eq_map, h.mapM_eq]
  rfl

/-- A row without the connective is one operand. -/
lemma single {e : Expr} (hne : is ≠ []) (htight : Tight (Precedence.tierOf op + 1) is)
    (hread : Precedence.readOf op is = some e) (he : c.Denotes e) : ReadsJoined op c is [e] where
  ne_nil := hne
  tight := htight.mono (Nat.le_succ _)
  operands := .single he
  mapM_eq := by
    have hkeyword : ∀ i ∈ is, i.isKeyword (Sign.connectiveKeyword op) = false := by
      intro i hi
      refine Item.isKeyword_eq_false ?_
      have := htight i hi
      cases op <;> exact this
    rw [Grammar.splitOn_eq_singleton hkeyword, List.mapM_cons, hread]
    rfl

end ReadsJoined

namespace Reads

variable {p : Precedence} {c : Condition} {is : List Item}

/-- A row that is read where tighter operators stand is read where looser ones may stand. -/
lemma tighter (h : Reads p.next c is) : Reads p c is := by
  cases p with
  | call => exact h
  | minus =>
    obtain ⟨hne, htight, e, he, hattached⟩ := h
    refine ⟨hne, htight.mono (by decide), Grammar.unary_of_tight htight, e, ?_, he⟩
    rw [Grammar.arithmetic_of_tight htight, ← List.append_nil is, hattached [] (by simp),
      Grammar.trailers]
  | comparison =>
    obtain ⟨hne, htight, -, e, he, hd⟩ := h
    exact ⟨hne, htight.mono (by decide), e, by rw [Grammar.comparison_of_tight htight, he], hd⟩
  | negation =>
    obtain ⟨hne, htight, e, he, hd⟩ := h
    exact ⟨hne, htight.mono (by decide), e, by rw [Grammar.inversion_of_tight htight, he], hd⟩
  | conjunction =>
    obtain ⟨hne, htight, e, he, hd⟩ := h
    exact ⟨[e], .single hne htight he hd⟩
  | disjunction =>
    obtain ⟨es, h⟩ := h
    exact ⟨[.joined .and es], .single h.ne_nil h.tight h.connected_eq h.operands.whole⟩

/-- A row that is read where all operators may stand. -/
lemma disjunction_eq (h : Reads .disjunction c is) :
    ∃ e, Grammar.disjunction is = some e ∧ c.Denotes e := by
  obtain ⟨es, h⟩ := h
  exact ⟨.joined .or es, h.connected_eq, h.operands.whole⟩

/-! ### Operands -/

/-- An item that is an operand by itself. -/
lemma operand {i : Item} {e : Expr} (htier : i.tier = 6) (hliteral : i.isLiteral = false)
    (he : Grammar.operand i = some e) (hd : c.Denotes e) : Reads .call c [i] :=
  ⟨by simp, .cons (Nat.le_of_eq htier.symm) (by simp [Tight]), e, hd,
    fun _ _ => Grammar.attached_operand hliteral he⟩

/-- A group is read as what is between its brackets. -/
lemma bracketed (h : Reads .disjunction c is) :
    Reads .call c [.group (Grammar.forms .round is)] := by
  obtain ⟨es, hes⟩ := h
  obtain ⟨e, he, hd⟩ := disjunction_eq ⟨es, hes⟩
  refine operand rfl rfl ?_ hd
  rw [← he, ← Grammar.roundOperand_of_tight hes.tight hes.ne_nil]
  rfl

lemma called {d : Condition} {js : List Item} (m : TextMethod) (hc : Reads .call c is)
    (hd : Reads .disjunction d js) :
    Reads .call (.call m c d) (is ++ [.leaf Sign.dot.lexeme, .leaf (Sign.method m).lexeme,
      .group (Grammar.forms .round js)]) := by
  obtain ⟨hne, htight, e, he, hattached⟩ := hc
  obtain ⟨fs, hfs⟩ := hd
  obtain ⟨f, hf, hdf⟩ := disjunction_eq ⟨fs, hfs⟩
  refine ⟨by simp, htight.append ?_, .call (.attribute e m.name) [f] false, he.call m hdf,
    fun more hmore => ?_⟩
  · intro i hi
    simp only [List.mem_cons, List.not_mem_nil, or_false] at hi
    rcases hi with rfl | rfl | rfl <;> exact Nat.le_refl _
  · have harguments : (Grammar.forms .round js).arguments = some ⟨[f], false⟩ := by
      have := Grammar.arguments_of_tight hfs.tight hfs.ne_nil
      rw [hf] at this
      exact this
    rw [List.append_assoc, hattached _ (by simp [Item.isLiteral, Sign.lexeme])]
    exact Grammar.trailers_call rfl harguments

/-! ### Operators -/

lemma negated (h : Reads .minus c is) (hn : 2 * c.nesting + 1 ≤ Expr.depthLimit) :
    Reads .minus (.negate c) (.leaf Sign.minus.lexeme :: is) := by
  obtain ⟨hne, htight, hunary, e, he, hd⟩ := h
  exact ⟨by simp, .cons (Nat.le_refl _) htight, Grammar.unary_minus hunary, .prefixed .minus e,
    Grammar.arithmetic_minus hunary he (Nat.le_trans hd.depth hn), hd.negate⟩

lemma inverted (h : Reads .negation c is) (hn : 2 * c.nesting + 1 ≤ Expr.depthLimit) :
    Reads .negation (.not c) (.leaf Sign.not.lexeme :: is) := by
  obtain ⟨hne, htight, e, he, hd⟩ := h
  exact ⟨by simp, .cons (Nat.le_refl _) htight, .prefixed .not e,
    Grammar.inversion_not he (Nat.le_trans hd.depth hn), hd.not⟩

lemma tier_relation (op : Comparison) : (Item.leaf (Sign.relation op).lexeme).tier = 4 := by
  cases op <;> rfl

lemma relation?_relation (op : Comparison) :
    Grammar.relation? (.leaf (Sign.relation op).lexeme) = some op.relation := by
  cases op <;> rfl

/-- A chain of rows with relations between them. -/
lemma chained {qs : List ((Comparison × Condition × List Sign) × List Item)} (hne : qs ≠ [])
    (hc : Reads .minus c is) (h : ∀ q ∈ qs, Reads .minus q.1.2.1 q.2) :
    Reads .comparison (.chain c ((qs.map Prod.fst).map fun r => (r.1, r.2.1)))
      (is ++ qs.flatMap fun q => .leaf (Sign.relation q.1.1).lexeme :: q.2) := by
  obtain ⟨hneis, htight, -, e, he, hd⟩ := hc
  obtain ⟨rs, hrs, hread⟩ := exists_beside fun q hq => (h q hq).2.2.2
  have htights : ∀ q ∈ qs, Tight 5 q.2 := fun q hq => (h q hq).2.1
  subst hrs
  -- The operands as the grammar has them, and as their meanings are put together.
  let rows := rs.map fun r =>
    (r.1.1.1.relation, Item.leaf (Sign.relation r.1.1.1).lexeme, r.1.2)
  let parts := rs.map fun r => (r.1.1.1, r.1.1.2.1, r.2)
  have hrow : ∀ r ∈ rows, Tight 5 r.2.2 ∧ Grammar.relation? r.2.1 = some r.1 ∧ 4 = r.2.1.tier := by
    intro row hrow
    obtain ⟨r, hr, rfl⟩ := List.mem_map.1 hrow
    exact ⟨htights r.1 (List.mem_map_of_mem hr), relation?_relation _, (tier_relation _).symm⟩
  have hmapM : rows.mapM (fun r => (Grammar.arithmetic r.2.2).map (r.1, ·)) =
      some (parts.map fun r => (r.1.relation, r.2.2)) := by
    rw [List.mapM_map, List.map_map]
    refine mapM_eq_some fun r hr => ?_
    simp [(hread r hr).1]
  have hdenotes : ∀ r ∈ parts, r.2.1.Denotes r.2.2 := by
    intro part hpart
    obtain ⟨r, hr, rfl⟩ := List.mem_map.1 hpart
    exact (hread r hr).2
  have hrows : rows ≠ [] := by simpa [rows] using hne
  refine ⟨by simp [hneis], (htight.mono (by decide)).append ?_, ?_⟩
  · intro i hi
    obtain ⟨q, hq, hi⟩ := List.mem_flatMap.1 hi
    rcases List.mem_cons.1 hi with rfl | hi
    · exact Nat.le_of_eq (tier_relation _).symm
    · exact (htights q hq).mono (by decide) i hi
  · refine ⟨.chain e (parts.map fun r => (r.1.relation, r.2.2)), ?_, ?_⟩
    · have hcomparison := Grammar.comparison_chain htight he hrows hrow hmapM
      rw [List.flatMap_map] at hcomparison ⊢
      exact hcomparison
    · have hmeaning := hd.chain hdenotes
      simpa [parts, Function.comp_def] using hmeaning

lemma tierOf_eq (op : Connective) :
    Precedence.tierOf op = (Item.leaf (Sign.connective op).lexeme).tier := by
  cases op <;> rfl

lemma ofConnective_iff {op : Connective} :
    Reads (.ofConnective op) c is ↔ ∃ es, ReadsJoined op c is es := by
  cases op <;> exact Iff.rfl

/-- Rows with a connective between them. -/
lemma joined {op : Connective} {qs : List ((Condition × List Sign) × List Item)}
    (hlen : 2 ≤ qs.length) (h : ∀ q ∈ qs, Reads (.ofConnective op) q.1.1 q.2) :
    Reads (.ofConnective op) (.joined op ((qs.map Prod.fst).map Prod.fst))
      ([.leaf (Sign.connective op).lexeme].intercalate (qs.map Prod.snd)) := by
  obtain ⟨rs, hrs, hread⟩ := exists_beside fun q hq => ofConnective_iff.1 (h q hq)
  subst hrs
  rw [List.length_map] at hlen
  have hne : rs ≠ [] := List.length_pos_iff.1 (by omega)
  -- Operands that are again joined by the same connective are operands of the whole row.
  let parts := rs.map fun r => (r.1.1.1, r.2)
  have hpartsOperands : ∀ p ∈ parts, p.1.Operands op p.2 := by
    intro p hp
    obtain ⟨r, hr, rfl⟩ := List.mem_map.1 hp
    exact (hread r hr).operands
  have hoperands := Condition.Operands.joined (by simpa [parts] using hlen) hpartsOperands
  have hparts : (Grammar.splitOn (Item.isKeyword (Sign.connectiveKeyword op))
      ([.leaf (Sign.connective op).lexeme].intercalate (rs.map fun r => r.1.2))).mapM
        (Precedence.readOf op) = some (rs.flatMap Prod.snd) := by
    rw [Grammar.splitOn_intercalate, List.flatMap_map]
    · exact mapM_flatMap fun r hr => (hread r hr).mapM_eq
    · simp [Item.isKeyword, Sign.lexeme]
    · simpa using hne
  refine ofConnective_iff.2 ⟨rs.flatMap Prod.snd, ?_, ?_, ?_, ?_⟩
  · obtain ⟨r, rs, rfl⟩ := List.exists_cons_of_ne_nil hne
    have hr := (hread r (by simp)).ne_nil
    cases rs <;> simp [List.intercalate_cons_cons, hr]
  · refine .intercalate (by simpa using hne) (Nat.le_of_eq (tierOf_eq op)) fun js hjs => ?_
    obtain ⟨q, hq, rfl⟩ := List.mem_map.1 hjs
    obtain ⟨r, hr, rfl⟩ := List.mem_map.1 hq
    exact (hread r hr).tight
  · simpa [parts, Function.comp_def, List.flatMap_map] using hoperands
  · simpa [Function.comp_def] using hparts

end Reads

/-! ## Written conditions are read -/

namespace Written

/-- A numeral is read as a constant with its value. -/
lemma exists_constant (n : Numeral) :
    ∃ k, Grammar.operand (.leaf (.number n.number)) = some (.constant k) ∧
      Condition.ofConstant k = .ok n.value := by
  unfold Numeral.number Numeral.value
  split_ifs with hwhole
  · exact ⟨.int (digitsValue n.whole), rfl, rfl⟩
  · exact ⟨.float (Decimal.toFloat false n.decimal), rfl, rfl⟩

/-- The items of a written condition are read as the condition. -/
lemma reads {p : Precedence} {c : Condition} {ws : List Sign} (h : Written p c ws)
    (hn : 2 * c.nesting + 1 ≤ Expr.depthLimit) : ∃ is, Grouped ws is ∧ Reads p c is := by
  induction h with
  | field name f h => exact ⟨_, .leaf rfl .nil, .operand rfl rfl rfl (.field h)⟩
  | truth b => cases b <;> exact ⟨_, .leaf rfl .nil, .operand rfl rfl rfl (.constant rfl)⟩
  | null => exact ⟨_, .leaf rfl .nil, .operand rfl rfl rfl (.constant rfl)⟩
  | number n =>
    obtain ⟨k, hk, hvalue⟩ := exists_constant n
    exact ⟨_, .leaf rfl .nil, .operand rfl rfl hk (.constant hvalue)⟩
  | text l =>
    exact ⟨_, .leaf rfl .nil, by simp, .cons (Nat.le_refl _) (by simp [Tight]), _,
      .constant rfl, fun more hmore => Grammar.attached_text hmore⟩
  | bracketed h ih =>
    obtain ⟨is, hgrouped, hreads⟩ := ih hn
    exact ⟨_, hgrouped.bracketed, hreads.bracketed⟩
  | called m hc hd ihc ihd =>
    rw [Condition.nesting] at hn
    obtain ⟨is, hgroupedc, hreadsc⟩ := ihc (by omega)
    obtain ⟨js, hgroupedd, hreadsd⟩ := ihd (by omega)
    exact ⟨_, hgroupedc.append (.leaf rfl (.leaf rfl hgroupedd.bracketed)), hreadsc.called m hreadsd⟩
  | negated h ih =>
    rw [Condition.nesting] at hn
    obtain ⟨is, hgrouped, hreads⟩ := ih (by omega)
    exact ⟨_, .leaf rfl hgrouped, hreads.negated (by omega)⟩
  | chained rest hne hc h ihc ih =>
    rw [Condition.nesting] at hn
    obtain ⟨is, hgrouped, hreads⟩ := ihc (by omega)
    have hrest : ∀ r ∈ rest, ∃ js, Grouped r.2.2 js ∧ Reads .minus r.2.1 js := by
      intro r hr
      have hnesting : r.2.1.nesting ≤ _ := Condition.nesting_le_chainNestings
        (List.mem_map.2 ⟨r, hr, rfl⟩ : (r.1, r.2.1) ∈ rest.map fun r => (r.1, r.2.1))
      exact ih r hr (by omega)
    obtain ⟨qs, rfl, hqs⟩ := exists_beside hrest
    exact ⟨_, hgrouped.flatMap fun q hq => (hqs q hq).1,
      hreads.chained (by simpa using hne) fun q hq => (hqs q hq).2⟩
  | inverted h ih =>
    rw [Condition.nesting] at hn
    obtain ⟨is, hgrouped, hreads⟩ := ih (by omega)
    exact ⟨_, .leaf rfl hgrouped, hreads.inverted (by omega)⟩
  | joined op ps hlen h ih =>
    rw [Condition.nesting_joined] at hn
    have hparts : ∀ p ∈ ps, ∃ is, Grouped p.2 is ∧ Reads (.ofConnective op) p.1 is := by
      intro p hp
      have hnesting := Condition.nesting_le_nestings (List.mem_map_of_mem (f := Prod.fst) hp)
      exact ih p hp (by omega)
    obtain ⟨qs, rfl, hqs⟩ := exists_beside hparts
    exact ⟨_, .intercalate fun q hq => (hqs q hq).1,
      .joined (by simpa using hlen) fun q hq => (hqs q hq).2⟩
  | tighter h ih =>
    obtain ⟨is, hgrouped, hreads⟩ := ih hn
    exact ⟨is, hgrouped, hreads.tighter⟩

end Written

end TransactionRules
