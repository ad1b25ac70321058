import TransactionRules.Proofs.Precedence

/-!
# Every condition can be written

A condition made of names, literals and operators has signs that write it, with brackets around every
operand that is not a sign or a call. They open no more brackets than operators nest in the condition.
-/

namespace TransactionRules

open Expression (Numeral Connective TextLiteral Spelled EscapedAs needsEscape)

/-! ## Texts between quotes -/

namespace Expression

lemma EscapedAs.exists_of_mem {q c : Char} (hq : q = '"' ∨ q = '\'') (h : c ∈ needsEscape q) :
    ∃ e, EscapedAs c e := by
  simp only [needsEscape, List.mem_cons, List.not_mem_nil, or_false] at h
  rcases h with rfl | rfl | rfl | rfl | rfl
  · rcases hq with rfl | rfl
    · exact ⟨['"'], .letter rfl⟩
    · exact ⟨['\''], .letter rfl⟩
  · exact ⟨['\\'], .letter rfl⟩
  · exact ⟨['n'], .letter rfl⟩
  · exact ⟨['r'], .letter rfl⟩
  · exact ⟨['x', '0', '0'], .hexadecimal (by simp) (by simp; decide) rfl⟩

/-- Between either kind of quote every text can be spelled. -/
lemma Spelled.exists_of_quote {q : Char} (hq : q = '"' ∨ q = '\'') (s : List Char) :
    ∃ cs, Spelled q s cs := by
  induction s with
  | nil => exact ⟨[], .nil⟩
  | cons c s ih =>
    obtain ⟨cs, hcs⟩ := ih
    by_cases hc : c ∈ needsEscape q
    · obtain ⟨e, he⟩ := EscapedAs.exists_of_mem hq hc
      exact ⟨_, .escaped he hcs⟩
    · exact ⟨_, .plain hc hcs⟩

end Expression

/-! ## Brackets -/

namespace Sign

/-- The signs close what they open, and have at most `n` brackets open at once. -/
def Opens (n : Nat) (ws : List Sign) : Prop :=
  ∀ limit d, d + n ≤ limit → openAfter limit d ws = some d

namespace Opens

variable {n m : Nat} {ws vs : List Sign}

lemma mono (h : Opens n ws) (hm : n ≤ m) : Opens m ws := by
  intro limit d hd
  exact h limit d (by omega)

lemma singleton {w : Sign} (hw : w.bracketDepth = 0) : Opens n [w] := by
  intro limit d _
  cases w with
  | opening | closing => cases hw
  | _ => rfl

lemma append (hw : Opens n ws) (hv : Opens n vs) : Opens n (ws ++ vs) := by
  intro limit d hd
  rw [openAfter_append, hw limit d hd, Option.bind_some, hv limit d hd]

lemma cons {w : Sign} (hw : w.bracketDepth = 0) (h : Opens n ws) : Opens n (w :: ws) :=
  (singleton hw).append h

lemma bracketed (h : Opens n ws) : Opens (n + 1) (opening :: (ws ++ [closing])) := by
  intro limit d hd
  have hopening : openAfter limit d [opening] = some (d + 1) := by
    simp only [openAfter, bracketStep]
    rw [if_pos (by omega)]
    rfl
  have hinner : openAfter limit (d + 1) ws = some (d + 1) := h limit (d + 1) (by omega)
  rw [← List.singleton_append, openAfter_append, hopening, Option.bind_some, openAfter_append,
    hinner]
  rfl

lemma flatMap {α : Type} {f : α → List Sign} {xs : List α} (h : ∀ x ∈ xs, Opens n (f x)) :
    Opens n (xs.flatMap f) := by
  induction xs with
  | nil => exact fun _ _ _ => rfl
  | cons x xs ih => exact (h x (by simp)).append (ih fun y hy => h y (by simp [hy]))

lemma intercalate {w : Sign} (hw : w.bracketDepth = 0) {wss : List (List Sign)} (hne : wss ≠ [])
    (h : ∀ ws ∈ wss, Opens n ws) : Opens n ([w].intercalate wss) :=
  intercalate_of_append hne (fun _ _ hws hvs => hws.append (.cons hw hvs)) h

end Opens

/-- Signs without blanks between them. -/
lemma spaced_flatMap (ws : List Sign) : Spaced ws (ws.flatMap chars) := by
  induction ws with
  | nil => exact .nil
  | cons w ws ih => exact .sign ih

end Sign

/-! ## Conditions -/

/-- The condition is made of names, literals and operators. -/
inductive Condition.Literate : Condition → Prop
  | field (f : Field) : Literate (.field f)
  | truth (b : Bool) : Literate (.constant (.bool b))
  | null : Literate (.constant .null)
  | number (n : Numeral) : Literate (.constant n.value)
  | text (s : String) : Literate (.constant (.text s))
  | negate {c : Condition} (h : Literate c) : Literate (.negate c)
  | not {c : Condition} (h : Literate c) : Literate (.not c)
  | call {c d : Condition} (m : TextMethod) (hc : Literate c) (hd : Literate d) :
      Literate (.call m c d)
  | chain {c : Condition} {rest : List (Comparison × Condition)} (hne : rest ≠ [])
      (hc : Literate c) (h : ∀ r ∈ rest, Literate r.2) : Literate (.chain c rest)
  | joined {cs : List Condition} (op : Connective) (hlen : 2 ≤ cs.length)
      (h : ∀ c ∈ cs, Literate c) : Literate (.joined op cs)

namespace Condition.Literate

/-- Signs that write a condition where a call may stand. -/
structure Rendered (c : Condition) (ws : List Sign) : Prop where
  written : Written .call c ws
  opens : Sign.Opens c.nesting ws

namespace Rendered

variable {c d : Condition} {ws vs : List Sign}

lemma sign {w : Sign} (h : Written .call c [w]) (hw : w.bracketDepth = 0) : Rendered c [w] where
  written := h
  opens := .singleton hw

/-- What is written with an operator needs brackets. -/
lemma bracketed {n : Nat} (h : Written .disjunction c ws) (ho : Sign.Opens n ws)
    (hn : n + 1 ≤ c.nesting) : Rendered c (.opening :: (ws ++ [.closing])) where
  written := .bracketed h
  opens := ho.bracketed.mono hn

lemma call (m : TextMethod) (hc : Rendered c ws) (hd : Rendered d vs) :
    Rendered (.call m c d) (ws ++ .dot :: .method m :: .opening :: (vs ++ [.closing])) where
  written := .called m hc.written hd.written.to_disjunction
  opens := by
    have htarget : Sign.Opens (Condition.call m c d).nesting ws := hc.opens.mono (by
      rw [nesting]
      omega)
    have hargument : Sign.Opens (Condition.call m c d).nesting
        (.opening :: (vs ++ [.closing])) := hd.opens.bracketed.mono (by
      rw [nesting]
      omega)
    exact htarget.append (.cons rfl (.cons rfl hargument))

lemma chain {qs : List ((Comparison × Condition) × List Sign)} (hne : qs ≠ [])
    (hc : Rendered c ws) (h : ∀ q ∈ qs, Rendered q.1.2 q.2) :
    ∃ us, Rendered (.chain c (qs.map Prod.fst)) us := by
  let rest := qs.map fun q => (q.1.1, q.1.2, q.2)
  have hconditions : (rest.map fun r => (r.1, r.2.1)) = qs.map Prod.fst := by simp [rest]
  have hoperands : ∀ r ∈ rest, Written .minus r.2.1 r.2.2 ∧
      Sign.Opens (chainNestings (qs.map Prod.fst)) r.2.2 := by
    intro r hr
    obtain ⟨q, hq, rfl⟩ := List.mem_map.1 hr
    have hnesting := nesting_le_chainNestings (List.mem_map_of_mem (f := Prod.fst) hq)
    exact ⟨(h q hq).written.of_call .minus, (h q hq).opens.mono hnesting⟩
  have hwritten := Written.chained rest (by simpa [rest] using hne) (hc.written.of_call .minus)
    fun r hr => (hoperands r hr).1
  rw [hconditions] at hwritten
  have hnesting : (Condition.chain c (qs.map Prod.fst)).nesting =
      max c.nesting (chainNestings (qs.map Prod.fst)) + 1 := by rw [nesting]
  have hopens : Sign.Opens (max c.nesting (chainNestings (qs.map Prod.fst)))
      (ws ++ rest.flatMap fun r => .relation r.1 :: r.2.2) := by
    refine (hc.opens.mono (Nat.le_max_left ..)).append (.flatMap ?_)
    intro r hr
    exact .cons rfl ((hoperands r hr).2.mono (Nat.le_max_right ..))
  exact ⟨_, .bracketed hwritten.to_disjunction hopens (Nat.le_of_eq hnesting.symm)⟩

lemma joined {ps : List (Condition × List Sign)} (op : Connective) (hlen : 2 ≤ ps.length)
    (h : ∀ p ∈ ps, Rendered p.1 p.2) : ∃ us, Rendered (.joined op (ps.map Prod.fst)) us := by
  have hwritten := Written.joined op ps hlen fun p hp => (h p hp).written.of_call _
  have hopens : Sign.Opens (nestings (ps.map Prod.fst))
      ([.connective op].intercalate (ps.map Prod.snd)) := by
    refine .intercalate rfl ?_ ?_
    · rw [Ne, List.map_eq_nil_iff, ← List.length_eq_zero_iff]
      omega
    intro vs hvs
    obtain ⟨p, hp, rfl⟩ := List.mem_map.1 hvs
    exact (h p hp).opens.mono (nesting_le_nestings (List.mem_map_of_mem hp))
  have hnesting := nesting_joined op (ps.map Prod.fst)
  exact ⟨_, .bracketed hwritten.to_disjunction hopens (Nat.le_of_eq hnesting.symm)⟩

end Rendered

/-- By induction on the condition: operands are rendered first, and then brackets set around them. -/
lemma exists_rendered {c : Condition} (h : c.Literate) : ∃ ws, Rendered c ws := by
  induction h with
  | field f => exact ⟨_, .sign (.field f.name f (Field.ofName?_name f)) rfl⟩
  | truth b => exact ⟨_, .sign (.truth b) rfl⟩
  | null => exact ⟨_, .sign .null rfl⟩
  | number n => exact ⟨_, .sign (.number n) rfl⟩
  | text s =>
    obtain ⟨cs, hcs⟩ := Spelled.exists_of_quote (.inl rfl) s.toList
    have hliteral := Written.text ⟨'"', s.toList, cs, .inl rfl, hcs⟩
    rw [String.ofList_toList] at hliteral
    exact ⟨_, .sign hliteral rfl⟩
  | negate h ih =>
    obtain ⟨ws, hws⟩ := ih
    have hwritten := Written.negated (hws.written.of_call .minus)
    refine ⟨_, .bracketed hwritten.to_disjunction (.cons rfl hws.opens) ?_⟩
    rw [nesting]
  | not h ih =>
    obtain ⟨ws, hws⟩ := ih
    have hwritten := Written.inverted (hws.written.of_call .negation)
    refine ⟨_, .bracketed hwritten.to_disjunction (.cons rfl hws.opens) ?_⟩
    rw [nesting]
  | call m hc hd ihc ihd =>
    obtain ⟨ws, hws⟩ := ihc
    obtain ⟨vs, hvs⟩ := ihd
    exact ⟨_, .call m hws hvs⟩
  | chain hne hc h ihc ih =>
    obtain ⟨ws, hws⟩ := ihc
    obtain ⟨qs, rfl, hqs⟩ := exists_beside ih
    exact Rendered.chain (by simpa using hne) hws hqs
  | joined op hlen h ih =>
    obtain ⟨ps, rfl, hps⟩ := exists_beside ih
    exact Rendered.joined op (by simpa using hlen) hps

/-- Every condition of names, literals and operators has a text that opens no more brackets than
operators nest in it. -/
theorem exists_text {c : Condition} (h : c.Literate) :
    ∃ ws text, Written .disjunction c ws ∧ (Sign.openAfter c.nesting 0 ws).isSome ∧
      Sign.Spaced ws (String.toList text) := by
  obtain ⟨ws, hws⟩ := h.exists_rendered
  refine ⟨ws, String.ofList (ws.flatMap Sign.chars), hws.written.to_disjunction, ?_, ?_⟩
  · rw [hws.opens c.nesting 0 (by omega)]
    rfl
  · rw [String.toList_ofList]
    exact Sign.spaced_flatMap ws

end Condition.Literate

end TransactionRules
