import TransactionRules.Condition.Basic
import TransactionRules.Proofs.Operators
import TransactionRules.Proofs.Outcome

/-!
# Expressions that mean a condition

An expression denotes a condition if a condition with the same values comes of it, it has a truth
value by its form exactly if the condition does, and it is not much deeper. A connective may have its
operands on several levels, as long as the connective is the same (`Operands`): what matters is the
order in which they are evaluated.
-/

namespace TransactionRules

open Expression (Expr Connective PrefixOp Relation Constant)

/-- The value with which operands of a connective are all evaluated. -/
def Expression.Connective.neutral : Connective → Bool
  | .and => true
  | .or => false

/-- The relation that a comparison is. -/
def Comparison.relation : Comparison → Relation
  | .eq => .eq
  | .ne => .ne
  | .lt => .lt
  | .le => .le
  | .gt => .gt
  | .ge => .ge

namespace Condition

lemma ofExpr_name {name : String} {x : Field} (h : Field.ofName? name = some x) :
    ofExpr (.name name) = .ok (.field x) := by
  rw [ofExpr, h]

/-- Conditions joined by a connective. -/
def joined : Connective → List Condition → Condition
  | .and => .all
  | .or => .any

/-- Whether a condition has a truth value by its outermost form. -/
def hasTruth : Condition → Bool
  | .all _ | .any _ | .not _ | .chain .. | .call .. | .constant (.bool _) => true
  | .field _ | .negate _ | .constant _ => false

mutual

/-- The number of operators on the longest way down. -/
def nesting : Condition → Nat
  | .field _ | .constant _ => 0
  | .all cs | .any cs => nestings cs + 1
  | .not c | .negate c => c.nesting + 1
  | .chain c rest => max c.nesting (chainNestings rest) + 1
  | .call _ c d => max c.nesting d.nesting + 1

def nestings : List Condition → Nat
  | [] => 0
  | c :: cs => max c.nesting (nestings cs)

def chainNestings : List (Comparison × Condition) → Nat
  | [] => 0
  | (_, c) :: rest => max c.nesting (chainNestings rest)

end

lemma nesting_le_nestings {c : Condition} {cs : List Condition} (h : c ∈ cs) :
    c.nesting ≤ nestings cs := by
  induction h with
  | head => exact Nat.le_max_left ..
  | tail _ _ ih => exact Nat.le_trans ih (Nat.le_max_right ..)

lemma nesting_le_chainNestings {r : Comparison × Condition} {rest : List (Comparison × Condition)}
    (h : r ∈ rest) : r.2.nesting ≤ chainNestings rest := by
  induction h with
  | head => exact Nat.le_max_left ..
  | tail _ _ ih => exact Nat.le_trans ih (Nat.le_max_right ..)

lemma nesting_joined (op : Connective) (cs : List Condition) :
    (joined op cs).nesting = nestings cs + 1 := by
  cases op <;> rw [joined, nesting]

lemma hasTruth_joined (op : Connective) (cs : List Condition) : (joined op cs).hasTruth = true := by
  cases op <;> rfl

/-! ## Values of joined conditions -/

/-- The truth value of joined conditions. -/
def evalJoined : Connective → List Condition → Transaction → Except Fault Bool
  | .and => evalAll
  | .or => evalAny

variable {op : Connective} {c d : Condition} {cs ds : List Condition} {t : Transaction}

lemma eval_joined : (joined op cs).eval t = (evalJoined op cs t).map .bool := by
  cases op <;> rw [joined, eval, evalJoined]

lemma evalJoined_nil : evalJoined op [] t = .ok op.neutral := by
  cases op
  · rw [evalJoined, evalAll]; rfl
  · rw [evalJoined, evalAny]; rfl

lemma evalJoined_cons :
    evalJoined op (c :: cs) t = do
      if (← c.eval t).truthy = op.neutral then evalJoined op cs t else return !op.neutral := by
  cases op
  · rw [evalJoined, evalAll]
    rfl
  · rw [evalJoined, evalAny]
    cases hc : c.eval t with
    | error f => rfl
    | ok v => cases hv : v.truthy <;> simp [hv, Connective.neutral]

/-- Operands behind others are evaluated if those do not decide the value. -/
lemma evalJoined_append :
    evalJoined op (cs ++ ds) t = do
      if (← evalJoined op cs t) = op.neutral then evalJoined op ds t else return !op.neutral := by
  induction cs with
  | nil => simp [evalJoined_nil]
  | cons c cs ih =>
    rw [List.cons_append, evalJoined_cons, evalJoined_cons, ih]
    cases c.eval t with
    | error f => rfl
    | ok v => by_cases hv : v.truthy = op.neutral <;> simp [hv]

/-- The operands of a connective are operands of a connective of the same kind around it. -/
lemma evalJoined_joined : evalJoined op (joined op cs :: ds) t = evalJoined op (cs ++ ds) t := by
  rw [evalJoined_cons, evalJoined_append, eval_joined]
  cases evalJoined op cs t <;> rfl

lemma evalJoined_congr {c' : Condition} (h : c'.eval t = c.eval t) :
    evalJoined op (c' :: ds) t = evalJoined op (c :: ds) t := by
  rw [evalJoined_cons, evalJoined_cons, h]

/-! ## Expressions of a condition -/

/-- A condition with the values of `c` comes of the expression. -/
structure Denotes (c : Condition) (e : Expr) : Prop where
  ofExpr : ∃ c', ofExpr e = .ok c' ∧ ∀ t, c'.eval t = c.eval t
  isBoolean : isBoolean e = c.hasTruth
  depth : e.depth ≤ 2 * c.nesting + 1

namespace Denotes

variable {e f : Expr}

lemma field {name : String} {x : Field} (h : Field.ofName? name = some x) :
    Denotes (.field x) (.name name) where
  ofExpr := ⟨.field x, ofExpr_name h, fun _ => rfl⟩
  isBoolean := rfl
  depth := by simp [Expr.depth, nesting]

lemma constant {k : Constant} {v : Value} (h : ofConstant k = .ok v) :
    Denotes (.constant v) (.constant k) where
  ofExpr := ⟨.constant v, by rw [Condition.ofExpr, h]; rfl, fun _ => rfl⟩
  isBoolean := by cases k <;> cases h <;> rfl
  depth := by simp [Expr.depth, nesting]

lemma negate (h : Denotes c e) : Denotes (.negate c) (.prefixed .minus e) where
  ofExpr := by
    obtain ⟨c', hc', heval⟩ := h.ofExpr
    refine ⟨.negate c', by rw [Condition.ofExpr, hc']; rfl, fun t => ?_⟩
    rw [eval, eval, heval]
  isBoolean := rfl
  depth := by
    have := h.depth
    rw [Expr.depth, nesting]
    omega

lemma not (h : Denotes c e) : Denotes (.not c) (.prefixed .not e) where
  ofExpr := by
    obtain ⟨c', hc', heval⟩ := h.ofExpr
    refine ⟨.not c', by rw [Condition.ofExpr, hc']; rfl, fun t => ?_⟩
    rw [eval, eval, heval]
  isBoolean := rfl
  depth := by
    have := h.depth
    rw [Expr.depth, nesting]
    omega

lemma call (m : TextMethod) (hc : Denotes c e) (hd : Denotes d f) :
    Denotes (.call m c d) (.call (.attribute e m.name) [f] false) where
  ofExpr := by
    obtain ⟨c', hc', hevalc⟩ := hc.ofExpr
    obtain ⟨d', hd', hevald⟩ := hd.ofExpr
    refine ⟨.call m c' d', ?_, fun t => ?_⟩
    · simp [Condition.ofExpr, TextMethod.ofName?_name, hc', hd']
    · rw [eval, eval, hevalc, hevald]
  isBoolean := rfl
  depth := by
    have hc := hc.depth
    have hd := hd.depth
    simp only [Expr.depth, Expr.depths, nesting]
    omega

/-- The operands of a chain, each with its expression. -/
lemma ofChain_eq_ok {rest : List (Comparison × Condition × Expr)}
    (h : ∀ r ∈ rest, Denotes r.2.1 r.2.2) :
    ∃ rest', ofChain (rest.map fun r => (r.1.relation, r.2.2)) = .ok rest' ∧
      ∀ v t, evalChain v rest' t = evalChain v (rest.map fun r => (r.1, r.2.1)) t := by
  induction rest with
  | nil => exact ⟨[], rfl, fun v t => rfl⟩
  | cons r rest ih =>
    obtain ⟨rest', hrest', hevalRest⟩ := ih fun x hx => h x (by simp [hx])
    obtain ⟨c', hc', hevalc⟩ := (h r (by simp)).ofExpr
    have hrelation : comparisonOf r.1.relation = .ok r.1 := by cases r.1 <;> rfl
    refine ⟨(r.1, c') :: rest', ?_, fun v t => ?_⟩
    · rw [List.map_cons, ofChain, hrelation, hc', hrest']
      rfl
    · simp only [List.map_cons, evalChain, hevalc, hevalRest]

lemma chainDepths_le {rest : List (Comparison × Condition × Expr)}
    (h : ∀ r ∈ rest, Denotes r.2.1 r.2.2) :
    Expr.chainDepths (rest.map fun r => (r.1.relation, r.2.2)) ≤
      2 * chainNestings (rest.map fun r => (r.1, r.2.1)) + 1 := by
  induction rest with
  | nil => simp [Expr.chainDepths]
  | cons r rest ih =>
    have hrest := ih fun x hx => h x (by simp [hx])
    have hr := (h r (by simp)).depth
    simp only [List.map_cons, Expr.chainDepths, chainNestings]
    omega

lemma chain {rest : List (Comparison × Condition × Expr)} (hc : Denotes c e)
    (h : ∀ r ∈ rest, Denotes r.2.1 r.2.2) :
    Denotes (.chain c (rest.map fun r => (r.1, r.2.1)))
      (.chain e (rest.map fun r => (r.1.relation, r.2.2))) where
  ofExpr := by
    obtain ⟨c', hc', hevalc⟩ := hc.ofExpr
    obtain ⟨rest', hrest', hevalRest⟩ := ofChain_eq_ok h
    refine ⟨.chain c' rest', by rw [Condition.ofExpr, hc', hrest']; rfl, fun t => ?_⟩
    simp only [eval, hevalc, hevalRest]
  isBoolean := rfl
  depth := by
    have hc := hc.depth
    have hrest := chainDepths_le h
    rw [Expr.depth, nesting]
    omega

end Denotes

/-! ## Operands of a connective -/

lemma ofExprs_eq_mapM (es : List Expr) : ofExprs es = es.mapM ofExpr := by
  induction es with
  | nil =>
    rw [ofExprs]
    rfl
  | cons e es ih => rw [ofExprs, ih, List.mapM_cons]

/-- A condition may be read as several operands of a connective if it is joined by the same one. -/
structure Operands (op : Connective) (c : Condition) (es : List Expr) : Prop where
  ne_nil : es ≠ []
  ofExprs : ∃ cs, ofExprs es = .ok cs ∧ ∀ ds t, evalJoined op (cs ++ ds) t = evalJoined op (c :: ds) t
  depths : Expr.depths es ≤ 2 * c.nesting + 1
  whole : Denotes c (.joined op es)

namespace Operands

lemma single {e : Expr} (h : Denotes c e) : Operands op c [e] where
  ne_nil := by simp
  ofExprs := by
    obtain ⟨c', hc', heval⟩ := h.ofExpr
    refine ⟨[c'], by rw [Condition.ofExprs, Condition.ofExprs, hc']; rfl, fun ds t => ?_⟩
    exact evalJoined_congr (heval t)
  depths := by simpa [Expr.depths] using h.depth
  whole := h

lemma ofExprs_append {es fs : List Expr} {cs ds : List Condition}
    (he : Condition.ofExprs es = .ok cs) (hf : Condition.ofExprs fs = .ok ds) :
    Condition.ofExprs (es ++ fs) = .ok (cs ++ ds) := by
  rw [ofExprs_eq_mapM] at he hf ⊢
  rw [List.mapM_append, he, hf]
  rfl

lemma depths_append (es fs : List Expr) :
    Expr.depths (es ++ fs) = max (Expr.depths es) (Expr.depths fs) := by
  induction es with
  | nil => simp [Expr.depths]
  | cons e es ih => rw [List.cons_append, Expr.depths, Expr.depths, ih, Nat.max_assoc]

/-- The operands of several conditions, in order. -/
lemma ofExprs_flatMap {ps : List (Condition × List Expr)} (h : ∀ p ∈ ps, Operands op p.1 p.2) :
    ∃ cs, Condition.ofExprs (ps.flatMap Prod.snd) = .ok cs ∧
      ∀ ds t, evalJoined op (cs ++ ds) t = evalJoined op (ps.map Prod.fst ++ ds) t := by
  induction ps with
  | nil => exact ⟨[], by rw [List.flatMap_nil, Condition.ofExprs], fun ds t => rfl⟩
  | cons p ps ih =>
    obtain ⟨cs, hcs, heval⟩ := (h p (by simp)).ofExprs
    obtain ⟨rest, hrest, hevalRest⟩ := ih fun q hq => h q (by simp [hq])
    refine ⟨cs ++ rest, ?_, fun ds t => ?_⟩
    · rw [List.flatMap_cons, ofExprs_append hcs hrest]
    · rw [List.append_assoc, heval, List.map_cons, List.cons_append, evalJoined_cons,
        evalJoined_cons, hevalRest]

lemma depths_flatMap {ps : List (Condition × List Expr)} (h : ∀ p ∈ ps, Operands op p.1 p.2) :
    Expr.depths (ps.flatMap Prod.snd) ≤ 2 * nestings (ps.map Prod.fst) + 1 := by
  induction ps with
  | nil => simp [Expr.depths]
  | cons p ps ih =>
    have hp := (h p (by simp)).depths
    have hrest := ih fun q hq => h q (by simp [hq])
    rw [List.flatMap_cons, depths_append, List.map_cons, nestings]
    omega

lemma length_le {ps : List (Condition × List Expr)} (h : ∀ p ∈ ps, Operands op p.1 p.2) :
    ps.length ≤ (ps.flatMap Prod.snd).length := by
  induction ps with
  | nil => simp
  | cons p ps ih =>
    have hp := List.length_pos_iff.2 (h p (by simp)).ne_nil
    have hrest := ih fun q hq => h q (by simp [hq])
    rw [List.flatMap_cons, List.length_append, List.length_cons]
    omega

/-- Parts of a joined condition may again be joined by the same connective. -/
lemma joined {ps : List (Condition × List Expr)} (hlen : 2 ≤ ps.length)
    (h : ∀ p ∈ ps, Operands op p.1 p.2) :
    Operands op (.joined op (ps.map Prod.fst)) (ps.flatMap Prod.snd) := by
  obtain ⟨cs, hcs, heval⟩ := ofExprs_flatMap h
  have hdepths := depths_flatMap h
  have hlength := length_le h
  refine ⟨?_, ⟨cs, hcs, fun ds t => ?_⟩, ?_, ?_⟩
  · exact List.length_pos_iff.1 (by omega)
  · rw [heval, evalJoined_joined]
  · rw [nesting_joined]
    omega
  · rw [Expr.joined_eq_connective op (hlen.trans hlength)]
    refine ⟨⟨.joined op cs, ?_, fun t => ?_⟩, ?_, ?_⟩
    · cases op <;> rw [Condition.ofExpr, hcs] <;> rfl
    · have hvalues := heval [] t
      rw [List.append_nil, List.append_nil] at hvalues
      rw [eval_joined, eval_joined, hvalues]
    · rw [hasTruth_joined]
      rfl
    · rw [Expr.depth, nesting_joined]
      omega

end Operands

end Condition

end TransactionRules
