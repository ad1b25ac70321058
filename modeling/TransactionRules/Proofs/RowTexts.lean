import TransactionRules.Proofs.BracketedRows

/-!
# Texts of rows

Literals that stand next to each other are one text. The marks of a row say where a literal stands and
what its text is, and the texts of the row are the runs of its marks (`runs`). Every reader of the grammar
gives an expression with these texts in this order, unless a part of the expression is of a form that only
its kind is kept of (`Grammar.Reads`). So the texts between two brackets are those of the group
(`Grammar.marked_group`).
-/

namespace TransactionRules.Expression

/-! ## Runs of marks -/

/-- The texts of marks, where neighbours are put together. `before` is a text that may go on. -/
def runsFrom : Option String → List (Option String) → List String
  | none, [] => []
  | some s, [] => [s]
  | none, some t :: ms => runsFrom (some t) ms
  | some s, some t :: ms => runsFrom (some (s ++ t)) ms
  | none, none :: ms => runsFrom none ms
  | some s, none :: ms => s :: runsFrom none ms

/-- The texts of marks. -/
def runs (ms : List (Option String)) : List String := runsFrom none ms

section

variable {ms ns : List (Option String)}

@[simp] lemma runs_nil : runs [] = [] := rfl

@[simp] lemma runs_none_cons (ms : List (Option String)) : runs (none :: ms) = runs ms := rfl

lemma runsFrom_append_none (before : Option String) (ms ns : List (Option String)) :
    runsFrom before (ms ++ none :: ns) = runsFrom before ms ++ runs ns := by
  induction ms generalizing before with
  | nil => cases before <;> rfl
  | cons m ms ih => cases before <;> cases m <;> simp [runsFrom, ih]

/-- No text goes on where no literal stands next. -/
lemma runs_append (h : ∀ m ∈ ns.head?, m = none) : runs (ms ++ ns) = runs ms ++ runs ns := by
  cases ns with
  | nil => simp
  | cons m ns =>
    obtain rfl : m = none := h m rfl
    exact runsFrom_append_none none ms ns

lemma runs_silent_append (h : ∀ m ∈ ms, m = none) : runs (ms ++ ns) = runs ns := by
  induction ms with
  | nil => rfl
  | cons m ms ih =>
    obtain rfl : m = none := h m (by simp)
    exact ih fun m hm => h m (by simp [hm])

lemma runs_bracketed (ms : List (Option String)) : runs (none :: (ms ++ [none])) = runs ms := by
  rw [runs_none_cons, runs_append (by simp)]
  simp

lemma runsFrom_some (s : String) (ss : List String) :
    runsFrom (some s) (ss.map some) = [ss.foldl (· ++ ·) s] := by
  induction ss generalizing s with
  | nil => rfl
  | cons t ss ih => exact ih (s ++ t)

/-- Literals next to each other are one text. -/
lemma runs_map_some {ss : List String} (hne : ss ≠ []) : runs (ss.map some) = [String.join ss] := by
  obtain ⟨s, ss, rfl⟩ := List.exists_cons_of_ne_nil hne
  exact (runsFrom_some s ss).trans (by simp [String.join])

end

/-! ## Texts of expressions -/

namespace Expr

mutual

/-- The texts of an expression in order, if all its parts are kept. -/
def texts? : Expr → Option (List String)
  | .name _ => some []
  | .constant (.text s) => some [s]
  | .constant _ => some []
  | .connective _ es => textsOf? es
  | .prefixed _ e => e.texts?
  | .chain e rest => do return (← e.texts?) ++ (← chainTexts? rest)
  | .call f es keywords => if keywords then none else do return (← f.texts?) ++ (← textsOf? es)
  | .attribute e _ => e.texts?
  | .other .. => none

def textsOf? : List Expr → Option (List String)
  | [] => some []
  | e :: es => do return (← e.texts?) ++ (← textsOf? es)

def chainTexts? : List (Relation × Expr) → Option (List String)
  | [] => some []
  | (_, e) :: rest => do return (← e.texts?) ++ (← chainTexts? rest)

end

variable {e : Expr} {es : List Expr} {ss : List String}

lemma kept_of_texts? (h : e.texts? = some ss) : e.Kept := by
  rintro form depth rfl
  rw [texts?] at h
  cases h

lemma texts?_ofForm (form : Form) (parts : List Expr) : (ofForm form parts).texts? = none := by
  rw [ofForm, texts?]

lemma textsOf?_cons : textsOf? (e :: es) = some ss ↔
    ∃ xs ys, e.texts? = some xs ∧ textsOf? es = some ys ∧ ss = xs ++ ys := by
  rw [textsOf?]
  simp only [Option.bind_eq_bind, Option.bind_eq_some_iff, Option.pure_def, Option.some.injEq]
  constructor
  · rintro ⟨xs, hxs, ys, hys, rfl⟩
    exact ⟨xs, ys, hxs, hys, rfl⟩
  · rintro ⟨xs, ys, hxs, hys, rfl⟩
    exact ⟨xs, hxs, ys, hys, rfl⟩

lemma textsOf?_singleton : textsOf? [e] = e.texts? := by
  rw [textsOf?, textsOf?]
  cases e.texts? <;> simp

lemma chainTexts?_eq (rest : List (Relation × Expr)) :
    chainTexts? rest = textsOf? (rest.map Prod.snd) := by
  induction rest with
  | nil => rw [List.map_nil, chainTexts?, textsOf?]
  | cons r rest ih => rw [List.map_cons, chainTexts?, textsOf?, ih]

lemma texts?_joined (op : Connective) (es : List Expr) : (joined op es).texts? = textsOf? es := by
  unfold joined
  split
  · exact textsOf?_singleton.symm
  · rw [texts?]

lemma texts?_prefixedBy (ops : List PrefixOp) (e : Expr) : (prefixedBy ops e).texts? = e.texts? := by
  unfold prefixedBy
  induction ops.take (depthLimit + 1) with
  | nil => rfl
  | cons op ops ih => rw [List.foldr_cons, texts?, ih]

end Expr

/-! ## Rows with marks -/

/-- The text that a lexeme is. -/
def Lexeme.text? : Lexeme → Option String
  | .text s => some s
  | _ => none

namespace Item

/-- The marks of an item. A group has those of its brackets and of the row between them, and an expression
or arguments that the group stands for have the texts of this row. -/
def Marked : Item → List (Option String) → Prop
  | .leaf l, ms => ms = [l.text?]
  | .group forms, ms => ∃ inner, ms = none :: (inner ++ [none]) ∧
      (∀ e ss, forms.operand = some e → e.texts? = some ss → ss = runs inner) ∧
      ∀ a ss, forms.arguments = some a → a.keywords = false →
        Expr.textsOf? a.positional = some ss → ss = runs inner

/-- The text that an item is. -/
def text? : Item → Option String
  | .leaf l => l.text?
  | .group _ => none

/-- The item is no literal and no group. -/
def Silent (i : Item) : Prop := ∃ l, i = .leaf l ∧ l.text? = none

variable {i : Item}

lemma silent_of_isKeyword {k : Keyword} (h : i.isKeyword k = true) : i.Silent := by
  unfold isKeyword at h
  split at h
  · exact ⟨_, rfl, rfl⟩
  · cases h

lemma silent_of_isPunctuation {p : Punctuation} (h : i.isPunctuation p = true) : i.Silent := by
  unfold isPunctuation at h
  split at h
  · exact ⟨_, rfl, rfl⟩
  · cases h

lemma silent_of_prefixOp? (h : (Grammar.prefixOp? i).isSome = true) : i.Silent := by
  unfold Grammar.prefixOp? at h
  split at h <;> first | exact ⟨_, rfl, rfl⟩ | cases h

lemma silent_of_relation? {r : Relation} (h : Grammar.relation? i = some r) : i.Silent := by
  unfold Grammar.relation? at h
  split at h <;> first | exact ⟨_, rfl, rfl⟩ | cases h

end Item

/-- The marks of a row are those of its items. -/
inductive Marked : List Item → List (Option String) → Prop
  | nil : Marked [] []
  | cons {i : Item} {is : List Item} {ms ns : List (Option String)} (hi : i.Marked ms)
      (h : Marked is ns) : Marked (i :: is) (ms ++ ns)

section

variable {i : Item} {is js : List Item} {l : Lexeme} {ms : List (Option String)}

lemma marked_nil : Marked [] ms ↔ ms = [] := by
  constructor
  · rintro ⟨⟩
    rfl
  · rintro rfl
    exact .nil

lemma marked_leaf : Marked (.leaf l :: is) ms ↔ ∃ ns, ms = l.text? :: ns ∧ Marked is ns := by
  constructor
  · rintro (_ | ⟨hi, h⟩)
    obtain rfl : _ = [l.text?] := hi
    exact ⟨_, rfl, h⟩
  · rintro ⟨ns, rfl, h⟩
    exact .cons (show (Item.leaf l).Marked [l.text?] from rfl) h

lemma marked_append : Marked (is ++ js) ms ↔ ∃ ks ns, ms = ks ++ ns ∧ Marked is ks ∧ Marked js ns := by
  constructor
  · intro h
    induction is generalizing ms with
    | nil => exact ⟨[], ms, rfl, .nil, h⟩
    | cons i is ih =>
      rcases h with _ | ⟨hi, h⟩
      obtain ⟨ks, ns, rfl, hks, hns⟩ := ih h
      exact ⟨_, ns, (List.append_assoc ..).symm, .cons hi hks, hns⟩
  · rintro ⟨ks, ns, rfl, hks, hns⟩
    induction hks with
    | nil => exact hns
    | cons hi _ ih =>
      rw [List.append_assoc]
      exact .cons hi ih

/-- Words and signs have no texts, and none goes on behind them. -/
lemma Marked.silent (h : Marked is ms) (hsilent : ∀ i ∈ is, i.Silent) :
    (∀ m ∈ ms, m = none) ∧ (is ≠ [] → ms ≠ []) := by
  induction h with
  | nil => simp
  | cons hi _ ih =>
    obtain ⟨l, rfl, hl⟩ := hsilent _ List.mem_cons_self
    obtain rfl : _ = [l.text?] := hi
    have hrest := (ih fun i hi => hsilent i (List.mem_cons_of_mem _ hi)).1
    simpa [hl] using hrest

end

/-! ## Parts of rows -/

/-- The row is the parts in order, with words or signs between them. -/
inductive Parts : List Item → List (List Item) → Prop
  | whole (is : List Item) : Parts is [is]
  | cut (is : List Item) {seps rest : List Item} {parts : List (List Item)} (hne : seps ≠ [])
      (hseps : ∀ i ∈ seps, i.Silent) (h : Parts rest parts) : Parts (is ++ (seps ++ rest)) (is :: parts)

namespace Parts

variable {is part : List Item} {parts : List (List Item)} {i : Item} {ms : List (Option String)}

lemma cons (i : Item) (h : Parts is (part :: parts)) : Parts (i :: is) ((i :: part) :: parts) := by
  cases h with
  | whole => exact .whole _
  | cut _ hne hseps h => exact .cut (i :: part) hne hseps h

lemma sep (hi : i.Silent) (h : Parts is parts) : Parts (i :: is) ([] :: parts) :=
  .cut [] (List.cons_ne_nil i []) (by simpa using hi) h

/-- The texts of a row are those of its parts. -/
lemma runs_eq (h : Parts is parts) (hm : Marked is ms) :
    ∃ mss, List.Forall₂ Marked parts mss ∧ runs ms = mss.flatMap runs := by
  induction h generalizing ms with
  | whole is => exact ⟨[ms], .cons hm .nil, by simp⟩
  | cut is hne hseps _ ih =>
    obtain ⟨ks, _, rfl, hks, hm⟩ := marked_append.1 hm
    obtain ⟨ls, ns, rfl, hls, hns⟩ := marked_append.1 hm
    obtain ⟨mss, hmss, hruns⟩ := ih hns
    obtain ⟨hsilent, hlsne⟩ := hls.silent hseps
    refine ⟨ks :: mss, .cons hks hmss, ?_⟩
    obtain ⟨m, ls, rfl⟩ := List.exists_cons_of_ne_nil (hlsne hne)
    rw [runs_append (by simpa using hsilent m), runs_silent_append hsilent, hruns, List.flatMap_cons]

lemma splitOn {sep : Item → Bool} (hsep : ∀ i, sep i = true → i.Silent) (is : List Item) :
    Parts is (Grammar.splitOn sep is) := by
  induction is with
  | nil => exact .whole []
  | cons i is ih =>
    rw [Grammar.splitOn]
    split_ifs with hi
    · exact .sep (hsep i hi) ih
    · obtain ⟨part, parts, hparts⟩ := List.exists_cons_of_ne_nil (Grammar.splitOn_ne_nil sep is)
      rw [hparts] at ih ⊢
      exact .cons i ih

lemma splitOutside {sep : Item → Bool} (hsep : ∀ i, sep i = true → i.Silent) (lambdas : Nat)
    (is : List Item) : Parts is (Grammar.splitOutside sep lambdas is) := by
  induction is generalizing lambdas with
  | nil => exact .whole []
  | cons i is ih =>
    rw [Grammar.splitOutside]
    split_ifs with hi
    · exact .sep (hsep i (by simpa using (Bool.and_eq_true_iff.1 hi).2)) (ih 0)
    · have htail := ih (Grammar.lambdasAfter lambdas i)
      cases hparts : Grammar.splitOutside sep (Grammar.lambdasAfter lambdas i) is with
      | nil =>
        rw [hparts] at htail
        cases htail
      | cons part parts =>
        rw [hparts] at htail
        exact .cons i htail

lemma related (is : List Item) :
    Parts is ((Grammar.related is).1 :: (Grammar.related is).2.map Prod.snd) := by
  fun_induction Grammar.related is with
  | case1 => exact .whole []
  | case2 is first rest heq ih =>
    have hwords : ∀ i ∈ [Item.leaf (.keyword .not), .leaf (.keyword .in)], i.Silent := by
      simp [Item.Silent, Lexeme.text?]
    exact .cut [] (List.cons_ne_nil _ _) hwords (by simpa [heq] using ih)
  | case3 is first rest heq ih =>
    have hwords : ∀ i ∈ [Item.leaf (.keyword .is), .leaf (.keyword .not)], i.Silent := by
      simp [Item.Silent, Lexeme.text?]
    exact .cut [] (List.cons_ne_nil _ _) hwords (by simpa [heq] using ih)
  | case4 i is _ _ first rest heq r hr ih =>
    exact .sep (Item.silent_of_relation? hr) (by simpa [heq] using ih)
  | case5 i is _ _ first rest heq hnone ih => exact .cons i (by simpa [heq] using ih)

end Parts

/-! ## Readers of the grammar -/

namespace Grammar

/-- The expressions that rows are read as have the texts of the rows. -/
def Reads (read : List Item → Option Expr) : Prop :=
  ∀ is ms e ss, Marked is ms → read is = some e → e.texts? = some ss → ss = runs ms

section

variable {read : List Item → Option Expr} {is : List Item} {ms : List (Option String)} {e : Expr}
  {ss : List String}

lemma Reads.mapM (h : Reads read) {parts : List (List Item)} {mss : List (List (Option String))}
    (hparts : List.Forall₂ Marked parts mss) {es : List Expr} (hes : parts.mapM read = some es)
    (hss : Expr.textsOf? es = some ss) : ss = mss.flatMap runs := by
  induction hparts generalizing es ss with
  | nil =>
    obtain rfl : [] = es := by simpa using hes
    rw [Expr.textsOf?] at hss
    exact (Option.some.inj hss).symm
  | cons hm _ ih =>
    obtain ⟨e, rest, he, hrest, rfl⟩ := mapM_cons_eq_some.1 hes
    obtain ⟨xs, ys, hxs, hys, rfl⟩ := Expr.textsOf?_cons.1 hss
    rw [List.flatMap_cons, h _ _ _ _ hm he hxs, ih hrest hys]

/-- Words and signs before what is read have no texts. -/
lemma Reads.dropWhile (h : Reads read) {p : Item → Bool} (hp : ∀ i, p i = true → i.Silent)
    (hm : Marked is ms) (he : read (is.dropWhile p) = some e) (hss : e.texts? = some ss) :
    ss = runs ms := by
  rw [← List.takeWhile_append_dropWhile (p := p) (l := is)] at hm
  obtain ⟨ks, ns, rfl, hks, hns⟩ := marked_append.1 hm
  have hsilent := (hks.silent fun i hi => hp i (List.mem_takeWhile_imp hi)).1
  rw [runs_silent_append hsilent]
  exact h _ _ _ _ hns he hss

/-! ## Operands -/

/-- The marks of texts are these texts. -/
lemma marks_of_texts (hm : Marked is ms) (h : ∀ i ∈ is, (Item.text? i).isSome = true) :
    ms = (is.filterMap Item.text?).map some := by
  induction hm with
  | nil => rfl
  | @cons i is ms ns hi _ ih =>
    obtain ⟨s, hs⟩ := Option.isSome_iff_exists.1 (h i (by simp))
    have hrest := ih fun j hj => h j (by simp [hj])
    cases i with
    | group forms => cases hs
    | leaf l =>
      obtain rfl : ms = [l.text?] := hi
      have hs : l.text? = some s := hs
      rw [List.filterMap_cons, Item.text?, hs, hrest]
      rfl

lemma literalOf_cases (h : literalOf is = some e) :
    (∀ i ∈ is, i.Silent) ∧ (∃ cs, e = .constant (.bytes cs)) ∨
      (∀ i ∈ is, (Item.text? i).isSome = true) ∧
        e = .constant (.text (String.join (is.filterMap Item.text?))) ∨
      ∃ form depth, e = .other form depth := by
  unfold literalOf at h
  simp only at h
  split_ifs at h with hbytes hmixed htexts
  · refine .inl ⟨fun i hi => ?_, _, (Option.some.inj h).symm⟩
    have hi := List.filterMap_length_eq_length.1 hbytes i hi
    split at hi
    · exact ⟨_, rfl, rfl⟩
    · cases hi
  · obtain rfl := Option.some.inj h
    refine .inr (.inl ⟨fun i hi => ?_, ?_⟩)
    · have hi := List.filterMap_length_eq_length.1 htexts i hi
      split at hi
      · rfl
      · cases hi
    · congr 4
      funext i
      cases i with
      | leaf l => cases l <;> rfl
      | group => rfl
  · exact .inr (.inr ⟨_, _, (Option.some.inj h).symm⟩)

/-- Literals are one text, unless a formatted one is among them. -/
lemma texts_literalOf (hne : is ≠ []) (hm : Marked is ms) (h : literalOf is = some e)
    (hss : e.texts? = some ss) : ss = runs ms := by
  rcases literalOf_cases h with ⟨hsilent, cs, rfl⟩ | ⟨htexts, rfl⟩ | ⟨form, depth, rfl⟩
  · rw [← List.append_nil ms, runs_silent_append (hm.silent hsilent).1]
    rw [Expr.texts?] at hss
    · exact (Option.some.inj hss).symm
    · simp
  · obtain ⟨i, is, rfl⟩ := List.exists_cons_of_ne_nil hne
    obtain ⟨s, hs⟩ := Option.isSome_iff_exists.1 (htexts i (by simp))
    rw [marks_of_texts hm htexts, runs_map_some (by simp [hs])]
    rw [Expr.texts?] at hss
    exact (Option.some.inj hss).symm
  · exact absurd rfl (Expr.kept_of_texts? hss form depth)

lemma texts_operand {i : Item} (hm : i.Marked ms) (h : operand i = some e) (hss : e.texts? = some ss) :
    ss = runs ms := by
  unfold operand at h
  split at h
  case h_9 =>
    obtain ⟨inner, rfl, hoperand, -⟩ := hm
    rw [runs_bracketed]
    exact hoperand e ss h hss
  case h_10 => cases h
  all_goals
    cases h
    obtain rfl : ms = [none] := hm
    rw [Expr.texts?] at hss
    · exact (Option.some.inj hss).symm
    all_goals simp

/-- What is attached to an expression comes behind it, and no literal comes first. -/
lemma texts_trailers {f : Expr} (hm : Marked is ms) (h : trailers e is = some f)
    (hss : f.texts? = some ss) :
    ∃ xs, e.texts? = some xs ∧ ss = xs ++ runs ms ∧ ∀ m ∈ ms.head?, m = none := by
  fun_induction trailers e is generalizing ms with
  | case1 =>
    cases h
    obtain rfl := marked_nil.1 hm
    exact ⟨ss, hss, by simp, by simp⟩
  | case2 e s is ih =>
    obtain ⟨_, rfl, hname⟩ := marked_leaf.1 hm
    obtain ⟨ns, rfl, hrest⟩ := marked_leaf.1 hname
    obtain ⟨xs, hxs, rfl, -⟩ := ih hrest h
    rw [Expr.texts?] at hxs
    exact ⟨xs, hxs, rfl, by simp [Lexeme.text?]⟩
  | case3 e forms is hround ih =>
    -- A call: the texts of the arguments are those between its brackets.
    obtain ⟨a, ha, hf⟩ := Option.bind_eq_some_iff.1 h
    rcases hm with _ | ⟨hgroup, hrest⟩
    obtain ⟨inner, rfl, -, harguments⟩ := hgroup
    obtain ⟨xs, hxs, rfl, hapart⟩ := ih a hrest hf
    rw [Expr.texts?] at hxs
    split_ifs at hxs with hkeywords
    obtain ⟨ys, hys, hxs⟩ := Option.bind_eq_some_iff.1 hxs
    obtain ⟨zs, hzs, hxs⟩ := Option.bind_eq_some_iff.1 hxs
    obtain rfl := harguments a zs ha (by simpa using hkeywords) hzs
    cases hxs
    refine ⟨ys, hys, ?_, by simp⟩
    rw [runs_append hapart, runs_bracketed, List.append_assoc]
  | case4 e forms is hsquare ih =>
    -- Of a subscript only its kind is kept, so it has no texts.
    obtain ⟨d, -, hf⟩ := Option.bind_eq_some_iff.1 h
    rcases hm with _ | ⟨hgroup, hrest⟩
    obtain ⟨xs, hxs, -⟩ := ih d hrest hf
    rw [Expr.texts?] at hxs
    cases hxs
  | case5 | case6 => cases h

lemma reads_attached : Reads attached := by
  intro is ms e ss hm h hss
  cases is with
  | nil => cases h
  | cons i is =>
    rw [attached] at h
    split_ifs at h with hliteral
    · obtain ⟨f, hf, htrailers⟩ := Option.bind_eq_some_iff.1 h
      rw [← List.takeWhile_append_dropWhile (p := Item.isLiteral) (l := is), ← List.cons_append] at hm
      obtain ⟨ks, ns, rfl, hks, hns⟩ := marked_append.1 hm
      obtain ⟨xs, hxs, rfl, hapart⟩ := texts_trailers hns htrailers hss
      rw [runs_append hapart, texts_literalOf (List.cons_ne_nil _ _) hks hf hxs]
    · obtain ⟨f, hf, htrailers⟩ := Option.bind_eq_some_iff.1 h
      rcases hm with _ | ⟨hi, hrest⟩
      obtain ⟨xs, hxs, rfl, hapart⟩ := texts_trailers hrest htrailers hss
      rw [runs_append hapart, texts_operand hi hf hxs]

lemma reads_primary : Reads primary := by
  intro is ms e ss hm h hss
  unfold primary at h
  split at h
  · obtain ⟨f, -, rfl⟩ := Option.map_eq_some_iff.1 h
    exact absurd rfl (Expr.kept_of_texts? hss _ _)
  · exact reads_attached _ _ _ _ hm h hss

/-! ## Operators -/

lemma texts_factor {ops : List PrefixOp} (hm : Marked is ms) (h : factor is = some (ops, e))
    (hss : e.texts? = some ss) : ss = runs ms := by
  obtain ⟨f, hprimary, heq⟩ := Option.map_eq_some_iff.1 h
  cases heq
  exact reads_primary.dropWhile (fun i => Item.silent_of_prefixOp?) hm hprimary hss

lemma operands_of_nil {started : Bool} (h : (operands started is).2 = []) :
    (operands started is).1 = is := by
  induction is generalizing started with
  | nil => rfl
  | cons i is ih =>
    rw [operands] at h ⊢
    split at h
    · simp at h
    · simp only
      rw [ih h]

/-- Binary operators are no part of what is kept. -/
lemma texts?_foldl {β : Type} {add : Expr → β → Expr} (hadd : ∀ e b, (add e b).texts? = none)
    {others : List β} (hne : others ≠ []) (e : Expr) : (others.foldl add e).texts? = none := by
  obtain ⟨front, b, rfl⟩ := List.eq_nil_or_concat others |>.resolve_left hne
  rw [List.concat_eq_append, List.foldl_append]
  exact hadd _ b

lemma reads_arithmetic : Reads arithmetic := by
  intro is ms e ss hm h hss
  obtain ⟨⟨ops, f⟩, hfirst, h⟩ := Option.bind_eq_some_iff.1 h
  have hadd (e : Expr) (o : List PrefixOp × Expr) :
      (Expr.ofForm .binary [e, .prefixedBy o.1 o.2]).texts? = none := Expr.texts?_ofForm _ _
  have hothers {others : List (List PrefixOp × Expr)} (hempty : ¬ (operands false is).2.isEmpty = true)
      (hothers : (operands false is).2.mapM (fun r => factor r.2) = some others) : others ≠ [] := by
    rintro rfl
    exact hempty (by simpa using (mapM_eq_some_iff.1 hothers).length_eq)
  split_ifs at h with hempty hpower
  -- Without an operator the row is its only operand.
  · obtain rfl := Option.some.inj h
    rw [operands_of_nil (List.isEmpty_iff.1 hempty)] at hfirst
    rw [Expr.texts?_prefixedBy] at hss
    exact texts_factor hm hfirst hss
  all_goals
    obtain ⟨others, hmapM, h⟩ := Option.bind_eq_some_iff.1 h
    have hnone := texts?_foldl hadd (hothers hempty hmapM)
    obtain rfl := Option.some.inj h
  · rw [Expr.texts?_prefixedBy, hnone] at hss
    cases hss
  · rw [hnone] at hss
    cases hss

lemma reads_comparison : Reads comparison := by
  intro is ms e ss hm h hss
  obtain ⟨mss, hmss, hruns⟩ := (Parts.related is).runs_eq hm
  obtain ⟨f, hfirst, h⟩ := Option.bind_eq_some_iff.1 h
  obtain ⟨ks, nss, hks, hnss, rfl⟩ := List.forall₂_cons_left_iff.1 hmss
  rw [hruns, List.flatMap_cons]
  split_ifs at h with hempty
  · obtain rfl := Option.some.inj h
    rw [List.isEmpty_iff.1 hempty] at hnss
    obtain rfl : nss = [] := by simpa using hnss
    simpa using reads_arithmetic _ _ _ _ hks hfirst hss
  · obtain ⟨others, hothers, h⟩ := Option.bind_eq_some_iff.1 h
    obtain rfl := Option.some.inj h
    have hrest : ((related is).2.map Prod.snd).mapM arithmetic = some (others.map Prod.snd) := by
      rw [mapM_eq_some_iff, List.forall₂_map_left_iff, List.forall₂_map_right_iff]
      refine (mapM_eq_some_iff.1 hothers).imp fun r o ho => ?_
      obtain ⟨g, hg, rfl⟩ := Option.map_eq_some_iff.1 ho
      exact hg
    rw [Expr.texts?, Expr.chainTexts?_eq] at hss
    obtain ⟨xs, hxs, hss⟩ := Option.bind_eq_some_iff.1 hss
    obtain ⟨ys, hys, hss⟩ := Option.bind_eq_some_iff.1 hss
    obtain rfl := Option.some.inj hss
    rw [reads_arithmetic _ _ _ _ hks hfirst hxs, reads_arithmetic.mapM hnss hrest hys]

lemma reads_inversion : Reads inversion := by
  intro is ms e ss hm h hss
  obtain ⟨f, hcomparison, rfl⟩ := Option.map_eq_some_iff.1 h
  rw [Expr.texts?_prefixedBy] at hss
  exact reads_comparison.dropWhile (fun i => Item.silent_of_isKeyword) hm hcomparison hss

/-- The operands of a connective are read part by part. -/
lemma Reads.operands (h : Reads read) (op : Connective) (k : Keyword) :
    Reads fun is => connected op read (splitOn (Item.isKeyword k) is) := by
  intro is ms e ss hm he hss
  obtain ⟨mss, hmss, hruns⟩ :=
    (Parts.splitOn (fun i => Item.silent_of_isKeyword (k := k)) is).runs_eq hm
  obtain ⟨es, hes, rfl⟩ := Option.map_eq_some_iff.1 ((connected_eq_map ..).symm.trans he)
  rw [Expr.texts?_joined] at hss
  rw [hruns, h.mapM hmss hes hss]

lemma reads_disjunction : Reads disjunction := (reads_inversion.operands .and .and).operands .or .or

/-! ## Expressions -/

lemma reads_expression : Reads expression := fun _ _ _ _ hm h hss =>
  reads_disjunction _ _ _ _ hm (disjunction_of_expression (Expr.kept_of_texts? hss) h) hss

lemma reads_named : Reads named := fun _ _ _ _ hm h hss =>
  reads_expression _ _ _ _ hm (expression_of_named (Expr.kept_of_texts? hss) h) hss

theorem reads_top : Reads top := fun _ _ _ _ hm h hss =>
  reads_expression _ _ _ _ hm (expression_of_top (Expr.kept_of_texts? hss) h).2 hss

theorem reads_roundOperand : Reads roundOperand := fun _ _ _ _ hm h hss =>
  reads_top _ _ _ _ hm (top_of_roundOperand (Expr.kept_of_texts? hss) h) hss

/-! ## Arguments -/

/-- Elements have the texts of the whole list, also where a comma stands behind the last one. -/
lemma runs_elements (hm : Marked is ms) {parts : List (List Item)} (h : elements is = some parts) :
    ∃ mss, List.Forall₂ Marked parts mss ∧ runs ms = mss.flatMap runs := by
  obtain ⟨mss, hmss, hruns⟩ :=
    (Parts.splitOutside (fun i => Item.silent_of_isPunctuation (p := .comma)) 0 is).runs_eq hm
  unfold elements at h
  simp only at h
  split_ifs at h with hlast hany
  -- The empty element behind the last comma is dropped, and it has no marks.
  · obtain rfl := Option.some.inj h
    obtain ⟨front, hfront⟩ : ∃ front,
        splitOutside (Item.isPunctuation .comma) 0 is = front ++ [[]] := by
      rw [← List.getLast?_eq_some_iff]
      cases hend : (splitOutside (Item.isPunctuation .comma) 0 is).getLast? with
      | none => simp [hend] at hlast
      | some last =>
        have hempty : last = [] := by simpa [hend] using (Bool.and_eq_true_iff.1 hlast).2
        rw [hempty]
    rw [hfront] at hmss
    obtain ⟨nss, ns, rfl, hnss, hns⟩ := exists_concat_of_forall₂ hmss
    obtain rfl := marked_nil.1 hns
    exact ⟨nss, by simpa [hfront] using hnss, by simpa using hruns⟩
  · obtain rfl := Option.some.inj h
    exact ⟨mss, hmss, hruns⟩

lemma reads_argument : Reads fun is => (argument? is).bind Argument.positional? := by
  intro is ms e ss hm h hss
  obtain ⟨a, ha, he⟩ := Option.bind_eq_some_iff.1 h
  unfold argument? at ha
  split at ha
  all_goals obtain ⟨f, hf, rfl⟩ := Option.map_eq_some_iff.1 ha
  · obtain rfl := Option.some.inj he
    exact absurd rfl (Expr.kept_of_texts? hss _ _)
  · cases he
  · cases he
  · obtain rfl := Option.some.inj he
    exact reads_named _ _ _ _ hm hf hss

/-- Arguments without keywords have the texts between the brackets of the call. -/
lemma texts_arguments {a : Arguments} (hm : Marked is ms) (h : arguments is = some a)
    (hkeywords : a.keywords = false) (hss : Expr.textsOf? a.positional = some ss) : ss = runs ms := by
  unfold arguments at h
  split_ifs at h with hempty
  · obtain rfl := Option.some.inj h
    obtain rfl := List.isEmpty_iff.1 hempty
    obtain rfl := marked_nil.1 hm
    rw [Expr.textsOf?] at hss
    exact (Option.some.inj hss).symm
  · split at h
    · obtain ⟨f, -, h⟩ := Option.bind_eq_some_iff.1 h
      obtain ⟨clauses, -, h⟩ := Option.bind_eq_some_iff.1 h
      obtain rfl := Option.some.inj h
      rw [Expr.textsOf?_singleton] at hss
      exact absurd rfl (Expr.kept_of_texts? hss _ _)
    · obtain ⟨parts, hparts, h⟩ := Option.bind_eq_some_iff.1 h
      obtain ⟨as, has, h⟩ := Option.bind_eq_some_iff.1 h
      obtain ⟨state, -, h⟩ := Option.bind_eq_some_iff.1 h
      obtain rfl := Option.some.inj h
      obtain ⟨mss, hmss, hruns⟩ := runs_elements hm hparts
      have hpositional : as.mapM Argument.positional? = some (as.filterMap Argument.positional?) :=
        mapM_eq_filterMap fun a ha => by
          simpa [Option.isSome_iff_ne_none] using List.any_eq_false.1 hkeywords a ha
      have hes : (parts.mapM fun part => (argument? part).bind Argument.positional?) =
          some (as.filterMap Argument.positional?) := by
        rw [← mapM_bind_mapM, has, Option.bind_some, hpositional]
      rw [hruns, reads_argument.mapM hmss hes hss]

/-! ## Groups -/

lemma texts?_squareOperand (h : squareOperand is = some e) : e.texts? = none := by
  unfold squareOperand at h
  split_ifs at h
  · obtain rfl := Option.some.inj h
    exact Expr.texts?_ofForm _ _
  · split at h
    · obtain ⟨f, -, h⟩ := Option.bind_eq_some_iff.1 h
      obtain ⟨clauses, -, h⟩ := Option.bind_eq_some_iff.1 h
      obtain rfl := Option.some.inj h
      exact Expr.texts?_ofForm _ _
    · obtain ⟨parts, -, h⟩ := Option.bind_eq_some_iff.1 h
      obtain ⟨es, -, h⟩ := Option.bind_eq_some_iff.1 h
      obtain rfl := Option.some.inj h
      exact Expr.texts?_ofForm _ _

lemma texts?_braceOperand (h : braceOperand is = some e) : e.texts? = none := by
  unfold braceOperand at h
  split_ifs at h
  · obtain rfl := Option.some.inj h
    exact Expr.texts?_ofForm _ _
  · split at h
    · obtain ⟨parts, -, h⟩ := Option.bind_eq_some_iff.1 h
      split at h
      · obtain ⟨key, -, h⟩ := Option.bind_eq_some_iff.1 h
        obtain ⟨value, -, h⟩ := Option.bind_eq_some_iff.1 h
        obtain rfl := Option.some.inj h
        exact Expr.texts?_ofForm _ _
      · obtain ⟨f, -, h⟩ := Option.bind_eq_some_iff.1 h
        obtain rfl := Option.some.inj h
        exact Expr.texts?_ofForm _ _
    · obtain ⟨parts, -, h⟩ := Option.bind_eq_some_iff.1 h
      split_ifs at h
      all_goals
        obtain ⟨es, -, h⟩ := Option.bind_eq_some_iff.1 h
        obtain rfl := Option.some.inj h
        exact Expr.texts?_ofForm _ _

/-- The texts of a group are those between its brackets. -/
theorem marked_group (hm : Marked is ms) (b : Bracket) :
    (Item.group (forms b is)).Marked (none :: (ms ++ [none])) := by
  refine ⟨ms, rfl, fun e ss he hss => ?_, fun a ss ha hkeywords hss => ?_⟩
  · cases b with
    | round => exact reads_roundOperand _ _ _ _ hm he hss
    | square =>
      rw [texts?_squareOperand he] at hss
      cases hss
    | brace =>
      rw [texts?_braceOperand he] at hss
      cases hss
  · cases b with
    | round => exact texts_arguments hm ha hkeywords hss
    | square | brace => cases ha

end

end Grammar

end TransactionRules.Expression
