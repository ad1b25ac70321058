import TransactionRules.Proofs.Meanings

/-!
# Expressions that evaluate alike

A comparison chain is the conjunction of the comparisons of its neighbours, a negated connective is
the other connective of the negated operands, and operands of one connective may be grouped in any
way. Both forms evaluate the same operands in the same order up to the one that decides, so they have
the same truth value, and where one of them fails the other has the same fault.
-/

namespace TransactionRules

open Expression (Expr Connective)

namespace Expression

/-- The other connective. -/
def Connective.dual : Connective → Connective
  | .and => .or
  | .or => .and

@[simp] lemma Connective.neutral_dual (op : Connective) : op.dual.neutral = !op.neutral := by
  cases op <;> rfl

namespace Expr

/-- A chain of comparisons. -/
def compared (e : Expr) (rest : List (Comparison × Expr)) : Expr :=
  .chain e (rest.map fun r => (r.1.relation, r.2))

/-- Each comparison of a chain by itself. -/
def neighbours : Expr → List (Comparison × Expr) → List Expr
  | _, [] => []
  | e, (op, f) :: rest => compared e [(op, f)] :: neighbours f rest

/-- `Nested op e es`: the expression joins the operands `es` by `op` alone, in order, with some of
them grouped again in any way. -/
inductive Nested (op : Connective) : Expr → List Expr → Prop
  | operand (e : Expr) : Nested op e [e]
  | joined (ps : List (Expr × List Expr)) (h : ∀ p ∈ ps, Nested op p.1 p.2) :
      Nested op (.connective op (ps.map Prod.fst)) (ps.flatMap Prod.snd)

end Expr

end Expression

namespace Condition

/-- The expression is one that a condition may contain. -/
def Accepted (e : Expr) : Prop := ∃ c, ofExpr e = .ok c

/-- Both expressions are accepted, and on every transaction the conditions that come of them have the
same truth value or the same fault. -/
def Alike (e f : Expr) : Prop :=
  ∃ c d, ofExpr e = .ok c ∧ ofExpr f = .ok d ∧
    ∀ t, (c.eval t).map Value.truthy = (d.eval t).map Value.truthy

/-! ## Operands -/

lemma exists_ofExprs {es : List Expr} (h : ∀ e ∈ es, Accepted e) : ∃ cs, ofExprs es = .ok cs := by
  rw [ofExprs_eq_mapM]
  exact Outcome.exists_mapM_eq_ok h

section

variable {op : Connective} {c : Condition} {cs : List Condition} {t : Transaction}

/-- Only the truth value of an operand matters. -/
lemma evalJoined_cons_truthy :
    evalJoined op (c :: cs) t = do
      if (← (c.eval t).map Value.truthy) = op.neutral then evalJoined op cs t
      else return !op.neutral := by
  rw [evalJoined_cons]
  cases c.eval t <;> rfl

lemma evalJoined_singleton : evalJoined op [c] t = (c.eval t).map Value.truthy := by
  rw [evalJoined_cons_truthy, evalJoined_nil]
  cases (c.eval t).map Value.truthy with
  | error f => rfl
  | ok b => cases b <;> cases op <;> rfl

lemma truthy_eval_joined : ((joined op cs).eval t).map Value.truthy = evalJoined op cs t := by
  rw [eval_joined]
  cases evalJoined op cs t <;> rfl

end

/-- Operands joined by a connective are a condition with the truth value of all of them together. -/
lemma exists_joined (op : Connective) {es : List Expr} {cs : List Condition}
    (h : ofExprs es = .ok cs) : ∃ c, ofExpr (.joined op es) = .ok c ∧
      ∀ t, (c.eval t).map Value.truthy = evalJoined op cs t := by
  have hconnective : ∃ c, ofExpr (.connective op es) = .ok c ∧
      ∀ t, (c.eval t).map Value.truthy = evalJoined op cs t :=
    ⟨joined op cs, by cases op <;> rw [ofExpr, h] <;> rfl, fun t => truthy_eval_joined⟩
  rcases es with _ | ⟨e, _ | ⟨f, es⟩⟩
  · exact hconnective
  · rw [ofExprs, ofExprs] at h
    obtain ⟨c, hc, h⟩ := Outcome.bind_eq_ok.1 h
    cases h
    exact ⟨c, hc, fun t => evalJoined_singleton.symm⟩
  · exact hconnective

/-! ## Chains -/

/-- Each comparison of a chain by itself. -/
def neighbours : Condition → List (Comparison × Condition) → List Condition
  | _, [] => []
  | c, (op, d) :: rest => .chain c [(op, d)] :: neighbours d rest

/-- A neighbour is evaluated again where the conjunction goes on, with the value that it had. -/
lemma evalAll_neighbours {c : Condition} {v : Value} {t : Transaction} (h : c.eval t = .ok v)
    (rest : List (Comparison × Condition)) :
    evalAll (neighbours c rest) t = evalChain v rest t := by
  induction rest generalizing c v with
  | nil => rw [neighbours, evalAll, evalChain]
  | cons r rest ih =>
    obtain ⟨op, d⟩ := r
    rw [neighbours, evalAll, evalChain, eval, h, Outcome.ok_bind, evalChain]
    cases hd : d.eval t with
    | error f => rfl
    | ok w =>
      simp only [Outcome.ok_bind]
      cases Value.compare op v w with
      | error f => rfl
      | ok b =>
        cases b with
        | false => rfl
        | true =>
          rw [← ih hd]
          simp only [Outcome.ok_bind, if_true, evalChain, Value.truthy]
          rfl

lemma truthy_eval_chain {c : Condition} {rest : List (Comparison × Condition)} (hne : rest ≠ [])
    (t : Transaction) :
    ((Condition.chain c rest).eval t).map Value.truthy = evalAll (neighbours c rest) t := by
  rw [eval]
  cases hc : c.eval t with
  | ok v =>
    rw [evalAll_neighbours hc, Outcome.ok_bind]
    cases evalChain v rest t <;> rfl
  | error f =>
    obtain ⟨⟨op, d⟩, rest, rfl⟩ := List.exists_cons_of_ne_nil hne
    rw [neighbours, evalAll, eval, hc]
    rfl

lemma comparisonOf_relation (op : Comparison) : comparisonOf op.relation = .ok op := by
  cases op <;> rfl

lemma ofExpr_compared {e : Expr} {rest : List (Comparison × Expr)} {c : Condition}
    {rest' : List (Comparison × Condition)} (he : ofExpr e = .ok c)
    (h : ofChain (rest.map fun r => (r.1.relation, r.2)) = .ok rest') :
    ofExpr (.compared e rest) = .ok (.chain c rest') := by
  rw [Expr.compared, ofExpr, he, h]
  rfl

/-- The operands of a chain are those of the comparisons of its neighbours. -/
lemma exists_ofChain {e : Expr} {c : Condition} {rest : List (Comparison × Expr)}
    (he : ofExpr e = .ok c) (h : ∀ r ∈ rest, Accepted r.2) :
    ∃ rest', ofChain (rest.map fun r => (r.1.relation, r.2)) = .ok rest' ∧
      rest'.length = rest.length ∧ ofExprs (e.neighbours rest) = .ok (neighbours c rest') := by
  induction rest generalizing e c with
  | nil => exact ⟨[], by rw [List.map_nil, ofChain], rfl, by rw [Expr.neighbours, ofExprs, neighbours]⟩
  | cons r rest ih =>
    obtain ⟨op, f⟩ := r
    obtain ⟨d, hd⟩ := h (op, f) (by simp)
    obtain ⟨rest', hrest, hlength, hneighbours⟩ := ih hd fun r hr => h r (by simp [hr])
    have hpair : ofChain [(op.relation, f)] = .ok [(op, d)] := by
      rw [ofChain, comparisonOf_relation, hd, ofChain]
      rfl
    have hfirst : ofExpr (.compared e [(op, f)]) = .ok (.chain c [(op, d)]) :=
      ofExpr_compared he hpair
    refine ⟨(op, d) :: rest', ?_, by simp [hlength], ?_⟩
    · rw [List.map_cons, ofChain, comparisonOf_relation, hd, hrest]
      rfl
    · rw [Expr.neighbours, ofExprs, hfirst, hneighbours, neighbours]
      rfl

lemma alike_neighbours {e : Expr} {rest : List (Comparison × Expr)} (hne : rest ≠ [])
    (he : Accepted e) (h : ∀ r ∈ rest, Accepted r.2) :
    Alike (.compared e rest) (.joined .and (e.neighbours rest)) := by
  obtain ⟨c, hc⟩ := he
  obtain ⟨rest', hrest, hlength, hneighbours⟩ := exists_ofChain hc h
  obtain ⟨d, hd, heval⟩ := exists_joined .and hneighbours
  have hne' : rest' ≠ [] := by
    rw [← List.length_pos_iff, hlength]
    exact List.length_pos_iff.2 hne
  refine ⟨_, d, ofExpr_compared hc hrest, hd, fun t => ?_⟩
  rw [heval, truthy_eval_chain hne']
  rfl

/-! ## Negations -/

lemma evalJoined_dual (op : Connective) (cs : List Condition) (t : Transaction) :
    evalJoined op.dual (cs.map .not) t = (evalJoined op cs t).map (!·) := by
  induction cs with
  | nil => simp [evalJoined_nil]
  | cons c cs ih =>
    rw [List.map_cons, evalJoined_cons, evalJoined_cons, eval, ih]
    cases c.eval t with
    | error f => rfl
    | ok v =>
      have htruthy (b : Bool) : (Value.bool b).truthy = b := rfl
      by_cases hv : v.truthy = op.neutral <;> simp [hv, htruthy]

lemma ofExprs_not {es : List Expr} {cs : List Condition} (h : ofExprs es = .ok cs) :
    ofExprs (es.map (.prefixed .not)) = .ok (cs.map .not) := by
  rw [ofExprs_eq_mapM] at h ⊢
  rw [Outcome.mapM_eq_ok_iff, List.forall₂_map_left_iff, List.forall₂_map_right_iff]
  refine (Outcome.mapM_eq_ok_iff.1 h).imp fun e c hc => ?_
  rw [ofExpr, hc]
  rfl

lemma alike_dual (op : Connective) {es : List Expr} (h : ∀ e ∈ es, Accepted e) :
    Alike (.prefixed .not (.joined op es)) (.joined op.dual (es.map (.prefixed .not))) := by
  obtain ⟨cs, hcs⟩ := exists_ofExprs h
  obtain ⟨c, hc, heval⟩ := exists_joined op hcs
  obtain ⟨d, hd, heval'⟩ := exists_joined op.dual (ofExprs_not hcs)
  refine ⟨.not c, d, by rw [ofExpr, hc]; rfl, hd, fun t => ?_⟩
  rw [heval', evalJoined_dual, ← heval, eval]
  cases c.eval t <;> rfl

/-! ## Groups of operands -/

/-- A grouped operand is evaluated as the operands in it. -/
lemma exists_of_nested {op : Connective} {e : Expr} {es : List Expr} (h : Expr.Nested op e es)
    (haccepted : ∀ f ∈ es, Accepted f) : ∃ c cs, ofExpr e = .ok c ∧ ofExprs es = .ok cs ∧
      ∀ t, (c.eval t).map Value.truthy = evalJoined op cs t := by
  induction h with
  | operand e =>
    obtain ⟨c, hc⟩ := haccepted e (by simp)
    exact ⟨c, [c], hc, by rw [ofExprs, ofExprs, hc]; rfl, fun t => evalJoined_singleton.symm⟩
  | joined ps h ih =>
    -- group by group, the groups before which are evaluated alike
    have hgroups : ∃ cs ds, ofExprs (ps.map Prod.fst) = .ok cs ∧
        ofExprs (ps.flatMap Prod.snd) = .ok ds ∧ ∀ t, evalJoined op cs t = evalJoined op ds t := by
      clear h
      induction ps with
      | nil => exact ⟨[], [], by simp [ofExprs], by simp [ofExprs], fun t => rfl⟩
      | cons p ps ihps =>
        obtain ⟨cs, ds, hcs, hds, heval⟩ :=
          ihps (fun q hq => ih q (List.mem_cons_of_mem p hq)) fun f hf =>
            haccepted f (List.mem_append_right _ hf)
        obtain ⟨c, es, hc, hes, hevalc⟩ :=
          ih p List.mem_cons_self fun f hf => haccepted f (List.mem_append_left _ hf)
        refine ⟨c :: cs, es ++ ds, ?_, ?_, fun t => ?_⟩
        · rw [List.map_cons, ofExprs, hc, hcs]
          rfl
        · rw [List.flatMap_cons, Operands.ofExprs_append hes hds]
        · rw [evalJoined_cons_truthy, evalJoined_append, hevalc, heval]
    obtain ⟨cs, ds, hcs, hds, heval⟩ := hgroups
    refine ⟨.joined op cs, ds, ?_, hds, fun t => ?_⟩
    · cases op <;> rw [ofExpr, hcs] <;> rfl
    · rw [truthy_eval_joined, heval]

lemma alike_flat {op : Connective} {e : Expr} {es : List Expr} (h : Expr.Nested op e es)
    (haccepted : ∀ f ∈ es, Accepted f) : Alike e (.joined op es) := by
  obtain ⟨c, cs, hc, hcs, heval⟩ := exists_of_nested h haccepted
  obtain ⟨d, hd, heval'⟩ := exists_joined op hcs
  exact ⟨c, d, hc, hd, fun t => (heval t).trans (heval' t).symm⟩

/-- Whatever accepted expressions they are made of: a comparison chain evaluates like the conjunction
of the comparisons of its neighbours, a negated connective like the other connective of its negated
operands, and nested operands of one connective like all of them in one row. -/
theorem alike_forms :
    (∀ (e : Expr) (rest : List (Comparison × Expr)), rest ≠ [] → Accepted e →
      (∀ r ∈ rest, Accepted r.2) → Alike (.compared e rest) (.joined .and (e.neighbours rest))) ∧
    (∀ es : List Expr, (∀ e ∈ es, Accepted e) →
      Alike (.prefixed .not (.joined .and es)) (.joined .or (es.map (.prefixed .not))) ∧
      Alike (.prefixed .not (.joined .or es)) (.joined .and (es.map (.prefixed .not)))) ∧
    (∀ (op : Connective) (e : Expr) (es : List Expr), Expr.Nested op e es →
      (∀ f ∈ es, Accepted f) → Alike e (.joined op es)) :=
  ⟨fun _ _ hne he h => alike_neighbours hne he h,
    fun _ h => ⟨alike_dual .and h, alike_dual .or h⟩, fun _ _ _ h haccepted => alike_flat h haccepted⟩

open Expression in
/-- Bounds on both sides of an amount, which fail for an amount that is no number, and fields that hold
by their values. -/
theorem alike_forms_amount :
    let one : Expr := .constant (.int 1)
    let amount : Expr := .name "amount"
    let merchant : Expr := .name "merchant"
    Alike (.chain one [(.lt, amount), (.le, merchant)])
      (.connective .and [.chain one [(.lt, amount)], .chain amount [(.le, merchant)]]) ∧
    Alike (.prefixed .not (.connective .and [amount, merchant]))
      (.connective .or [.prefixed .not amount, .prefixed .not merchant]) ∧
    Alike (.prefixed .not (.connective .or [amount, merchant]))
      (.connective .and [.prefixed .not amount, .prefixed .not merchant]) ∧
    Alike (.connective .or [.connective .or [merchant, amount], amount])
      (.connective .or [merchant, amount, amount]) := by
  intro one amount merchant
  have hone : Accepted one := ⟨.constant (.int 1), by rw [ofExpr]; rfl⟩
  have hamount : Accepted amount := ⟨.field .amount, ofExpr_name rfl⟩
  have hmerchant : Accepted merchant := ⟨.field .merchant, ofExpr_name rfl⟩
  have hnested : Expr.Nested .or (.connective .or [.connective .or [merchant, amount], amount])
      [merchant, amount, amount] := by
    have hinner : Expr.Nested .or (.connective .or [merchant, amount]) [merchant, amount] :=
      .joined [(merchant, [merchant]), (amount, [amount])] (by
        simp only [List.forall_mem_cons, List.not_mem_nil, false_imp_iff, implies_true, and_true]
        exact ⟨.operand _, .operand _⟩)
    refine .joined [(_, [merchant, amount]), (amount, [amount])] ?_
    simp only [List.forall_mem_cons, List.not_mem_nil, false_imp_iff, implies_true, and_true]
    exact ⟨hinner, .operand _⟩
  obtain ⟨hchains, hnegations, hgroups⟩ := alike_forms
  refine ⟨hchains one [(.lt, amount), (.le, merchant)] (by simp) hone ?_,
    (hnegations [amount, merchant] ?_).1, (hnegations [amount, merchant] ?_).2,
    hgroups .or _ _ hnested ?_⟩
  · simp [hamount, hmerchant]
  · simp [hamount, hmerchant]
  · simp [hamount, hmerchant]
  · simp [hamount, hmerchant]

end Condition

end TransactionRules
