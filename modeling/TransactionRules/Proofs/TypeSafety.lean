import TransactionRules.Proofs.ConditionTexts

/-!
# Conditions go wrong in the types of their operands only

A condition may relate any fields and constants, so on a transaction it may come to a use of a value
that its type does not allow: an order between a number and a text, the sign of a text, a method of
a number. Such a use is a clash of types (`Fault.Clash`). On transactions of nulls, booleans,
numbers and texts nothing else goes wrong: every operator takes such values to such a value or
clashes (`TypeSafe`), and by induction on the expression so does a condition. That a condition gives
a truth value when nothing clashes is read off its outermost form; nothing clashes in one that only
tests for equality.
-/

namespace TransactionRules

open Expression (Expr Connective PrefixOp Relation)

/-- Nulls, booleans, numbers and texts. -/
def Value.IsScalar : Value → Prop
  | .list _ | .map _ => False
  | .null | .bool _ | .int _ | .float _ | .text _ => True

def Transaction.IsScalar (t : Transaction) : Prop := ∀ f, (t.get f).IsScalar

def ValueKind.IsNumber (k : ValueKind) : Prop := k = .bool ∨ k = .int ∨ k = .float

/-- A use that does not fit the type of its operand. Equality fits all types. -/
inductive Fault.Clash : Fault → Prop
  | order {c : Comparison} {left right : ValueKind} (hc : c ≠ .eq ∧ c ≠ .ne)
      (hnumbers : ¬ (left.IsNumber ∧ right.IsNumber)) (htexts : ¬ (left = .text ∧ right = .text)) :
      Clash (.notOrdered c left right)
  | sign {kind : ValueKind} (h : ¬ kind.IsNumber) : Clash (.notNegatable kind)
  | container {kind : ValueKind} (h : kind ≠ .text) : Clash (.notContainer kind)
  | contained {kind : ValueKind} (h : kind ≠ .text) : Clash (.notContained kind)
  | method {kind : ValueKind} {m : TextMethod} (hm : m ≠ .contains) (h : kind ≠ .text) :
      Clash (.noMethod kind m)
  | affix {m : TextMethod} {kind : ValueKind} (hm : m ≠ .contains) (h : kind ≠ .text) :
      Clash (.badAffix m kind)

lemma Fault.Clash.label {f : Fault} (h : f.Clash) :
    f.label = "TypeError" ∨ f.label = "AttributeError" := by
  cases h with
  | method => exact .inr rfl
  | order | sign | container | contained | affix => exact .inl rfl

/-- An outcome that is a value with the property `P` or a clash of types. -/
inductive TypeSafe {α : Type} (P : α → Prop) : Except Fault α → Prop
  | ok {a : α} (h : P a) : TypeSafe P (.ok a)
  | error {f : Fault} (h : f.Clash) : TypeSafe P (.error f)

namespace TypeSafe

variable {α β : Type} {P : α → Prop} {Q : β → Prop} {x : Except Fault α}

lemma bind {f : α → Except Fault β} (hx : TypeSafe P x) (hf : ∀ a, P a → TypeSafe Q (f a)) :
    TypeSafe Q (x >>= f) := by
  cases hx with
  | ok ha => exact hf _ ha
  | error h => exact .error h

lemma map {f : α → β} (hx : TypeSafe P x) (hf : ∀ a, P a → Q (f a)) : TypeSafe Q (x.map f) := by
  cases hx with
  | ok ha => exact .ok (hf _ ha)
  | error h => exact .error h

end TypeSafe

/-! ## Operators on scalars -/

namespace Value

variable {v w : Value}

lemma typeSafe_ordered {c : Comparison} (hc : c ≠ .eq ∧ c ≠ .ne) (hv : v.IsScalar)
    (hw : w.IsScalar) : TypeSafe (fun _ => True) (ordered c v w) := by
  cases v <;> cases w
  -- two numbers and two texts have an order, all other scalars clash
  all_goals first
    | exact hv.elim
    | exact hw.elim
    | exact .ok trivial
    | exact .error (.order hc (by simp [kind, ValueKind.IsNumber]) (by simp [kind]))

lemma typeSafe_compare (c : Comparison) (hv : v.IsScalar) (hw : w.IsScalar) :
    TypeSafe (fun _ => True) (compare c v w) := by
  cases c with
  | eq => exact .ok trivial
  | ne => exact .ok trivial
  | lt | le | gt | ge => exact typeSafe_ordered ⟨by decide, by decide⟩ hv hw

lemma typeSafe_negate (hv : v.IsScalar) : TypeSafe IsScalar v.negate := by
  cases v with
  | bool | int | float => exact .ok trivial
  | null | text => exact .error (.sign (by simp [kind, ValueKind.IsNumber]))
  | list | map => exact hv.elim

lemma typeSafe_contains (hv : v.IsScalar) : TypeSafe (fun _ => True) (contains v w) := by
  cases v with
  | text s =>
    cases w with
    | text => exact .ok trivial
    | null | bool | int | float | list | map => exact .error (.contained (by simp [kind]))
  | null | bool | int | float => exact .error (.container (by simp [kind]))
  | list | map => exact hv.elim

lemma typeSafe_affix {m : TextMethod} (hm : m ≠ .contains) (test : List Char → List Char → Bool) :
    TypeSafe (fun _ => True) (affix m test v w) := by
  cases v with
  | text s =>
    cases w with
    | text => exact .ok trivial
    | null | bool | int | float | list | map => exact .error (.affix hm (by simp [kind]))
  | null | bool | int | float | list | map => exact .error (.method hm (by simp [kind]))

lemma typeSafe_call (m : TextMethod) (hv : v.IsScalar) :
    TypeSafe (fun _ => True) (call m v w) := by
  cases m with
  | contains => exact typeSafe_contains hv
  | startsWith => exact typeSafe_affix (by decide) _
  | endsWith => exact typeSafe_affix (by decide) _

end Value

namespace Condition

variable {t : Transaction}

lemma isScalar_ofConstant {k : Expression.Constant} {v : Value} (h : ofConstant k = .ok v) :
    v.IsScalar := by
  cases k <;> cases h <;> trivial

lemma ofExpr_connective (op : Connective) (es : List Expr) :
    ofExpr (.connective op es) = (ofExprs es).map (joined op) := by
  cases op <;> rw [ofExpr] <;> rfl

/-- A call that is part of a condition is a text method of a target with one argument. -/
lemma ofExpr_call_eq_ok {f : Expr} {es : List Expr} {keywords : Bool} {c : Condition}
    (h : ofExpr (.call f es keywords) = .ok c) :
    ∃ target name e m d a, f = .attribute target name ∧ es = [e] ∧ ofExpr target = .ok d ∧
      ofExpr e = .ok a ∧ c = .call m d a := by
  rw [ofExpr.eq_def] at h
  dsimp only at h
  split at h
  · next target name =>
    split at h
    · cases h
    · next m _ =>
      split at h
      · next e =>
        split at h
        · cases h
        · obtain ⟨d, hd, h⟩ := Outcome.bind_eq_ok.1 h
          obtain ⟨a, ha, h⟩ := Outcome.bind_eq_ok.1 h
          cases h
          exact ⟨target, name, e, m, d, a, rfl, rfl, hd, ha, rfl⟩
      · cases h
  · cases h

/-! ## Conditions

The induction is on the expression, because the constants of a condition are scalars only when an
expression was read. -/

mutual

lemma typeSafe_eval (ht : t.IsScalar) {c : Condition} :
    (e : Expr) → ofExpr e = .ok c → TypeSafe Value.IsScalar (c.eval t)
  | .name s, h => by
    rw [ofExpr] at h
    split at h
    · next f _ =>
      cases h
      rw [eval]
      exact .ok (ht f)
    · cases h
  | .constant k, h => by
    rw [ofExpr] at h
    obtain ⟨v, hv, rfl⟩ := Outcome.map_eq_ok.1 h
    rw [eval]
    exact .ok (isScalar_ofConstant hv)
  | .connective op es, h => by
    rw [ofExpr_connective] at h
    obtain ⟨cs, hcs, rfl⟩ := Outcome.map_eq_ok.1 h
    rw [eval_joined]
    exact (typeSafe_evalJoined ht op es hcs).map fun _ _ => trivial
  | .prefixed op e, h => by
    rw [ofExpr] at h
    obtain ⟨d, hd, h⟩ := Outcome.bind_eq_ok.1 h
    have hoperand := typeSafe_eval ht e hd
    cases op with
    | not =>
      cases h
      rw [eval]
      exact hoperand.bind fun _ _ => .ok trivial
    | minus =>
      cases h
      rw [eval]
      exact hoperand.bind fun _ hv => Value.typeSafe_negate hv
    | plus =>
      cases h
      exact hoperand
    | invert => cases h
  | .chain e rest, h => by
    rw [ofExpr] at h
    obtain ⟨d, hd, h⟩ := Outcome.bind_eq_ok.1 h
    obtain ⟨ds, hds, h⟩ := Outcome.bind_eq_ok.1 h
    cases h
    rw [eval]
    refine (typeSafe_eval ht e hd).bind fun v hv => ?_
    exact (typeSafe_evalChain ht hv rest hds).bind fun _ _ => .ok trivial
  | .call (.attribute target name) [e] keywords, h => by
    obtain ⟨_, _, _, m, d, a, htarget, he, hd, ha, rfl⟩ := ofExpr_call_eq_ok h
    cases htarget
    cases he
    rw [eval]
    refine (typeSafe_eval ht target hd).bind fun v hv => ?_
    refine (typeSafe_eval ht e ha).bind fun w hw => ?_
    exact (Value.typeSafe_call m hv).bind fun _ _ => .ok trivial
  | .call (.attribute _ _) [] _, h | .call (.attribute _ _) (_ :: _ :: _) _, h => by
    obtain ⟨_, _, _, _, _, _, -, he, -⟩ := ofExpr_call_eq_ok h
    cases he
  | .attribute _ _, h => by
    rw [ofExpr] at h
    cases h
  | .other _ _, h => by
    rw [ofExpr] at h
    cases h

lemma typeSafe_evalJoined (ht : t.IsScalar) (op : Connective) {cs : List Condition} :
    (es : List Expr) → ofExprs es = .ok cs → TypeSafe (fun _ => True) (evalJoined op cs t)
  | [], h => by
    rw [ofExprs] at h
    cases h
    rw [evalJoined_nil]
    exact .ok trivial
  | e :: es, h => by
    rw [ofExprs] at h
    obtain ⟨c, hc, h⟩ := Outcome.bind_eq_ok.1 h
    obtain ⟨ds, hds, h⟩ := Outcome.bind_eq_ok.1 h
    cases h
    rw [evalJoined_cons]
    refine (typeSafe_eval ht e hc).bind fun v _ => ?_
    split
    · exact typeSafe_evalJoined ht op es hds
    · exact .ok trivial

lemma typeSafe_evalChain (ht : t.IsScalar) {v : Value} (hv : v.IsScalar)
    {rest : List (Comparison × Condition)} :
    (es : List (Relation × Expr)) → ofChain es = .ok rest →
      TypeSafe (fun _ => True) (evalChain v rest t)
  | [], h => by
    rw [ofChain] at h
    cases h
    rw [evalChain]
    exact .ok trivial
  | (r, e) :: es, h => by
    rw [ofChain] at h
    obtain ⟨op, hop, h⟩ := Outcome.bind_eq_ok.1 h
    obtain ⟨c, hc, h⟩ := Outcome.bind_eq_ok.1 h
    obtain ⟨ds, hds, h⟩ := Outcome.bind_eq_ok.1 h
    cases h
    rw [evalChain]
    refine (typeSafe_eval ht e hc).bind fun w hw => ?_
    refine (Value.typeSafe_compare op hv hw).bind fun b _ => ?_
    split
    · exact typeSafe_evalChain ht hw es hds
    · exact .ok trivial

end

/-! ## Truth values -/

lemma hasTruth_of_isBoolean {e : Expr} {c : Condition} (h : ofExpr e = .ok c)
    (he : isBoolean e = true) : c.hasTruth = true := by
  cases e with
  | connective op es =>
    rw [ofExpr_connective] at h
    obtain ⟨cs, -, rfl⟩ := Outcome.map_eq_ok.1 h
    exact hasTruth_joined op cs
  | chain e rest =>
    rw [ofExpr] at h
    obtain ⟨d, -, h⟩ := Outcome.bind_eq_ok.1 h
    obtain ⟨ds, -, h⟩ := Outcome.bind_eq_ok.1 h
    cases h
    rfl
  | call f es keywords =>
    obtain ⟨-, -, -, m, d, a, -, -, -, -, rfl⟩ := ofExpr_call_eq_ok h
    rfl
  | prefixed op e =>
    rw [isBoolean, beq_iff_eq] at he
    subst he
    rw [ofExpr] at h
    obtain ⟨d, -, h⟩ := Outcome.bind_eq_ok.1 h
    cases h
    rfl
  | constant k =>
    cases k with
    | bool b =>
      cases h
      rfl
    | null | int | float | text | bytes | imaginary | ellipsis => cases he
  | _ => cases he

lemma exists_bool_of_hasTruth {c : Condition} (hc : c.hasTruth = true) {v : Value}
    (h : c.eval t = .ok v) : ∃ b, v = .bool b := by
  cases c with
  | all cs | any cs =>
    rw [eval] at h
    obtain ⟨b, -, rfl⟩ := Outcome.map_eq_ok.1 h
    exact ⟨b, rfl⟩
  | not c =>
    rw [eval] at h
    obtain ⟨w, -, h⟩ := Outcome.bind_eq_ok.1 h
    cases h
    exact ⟨_, rfl⟩
  | chain c rest =>
    rw [eval] at h
    obtain ⟨w, -, h⟩ := Outcome.bind_eq_ok.1 h
    obtain ⟨b, -, h⟩ := Outcome.bind_eq_ok.1 h
    cases h
    exact ⟨b, rfl⟩
  | call m target argument =>
    rw [eval] at h
    obtain ⟨w, -, h⟩ := Outcome.bind_eq_ok.1 h
    obtain ⟨a, -, h⟩ := Outcome.bind_eq_ok.1 h
    obtain ⟨b, -, h⟩ := Outcome.bind_eq_ok.1 h
    cases h
    exact ⟨b, rfl⟩
  | constant w =>
    cases w with
    | bool b =>
      rw [eval] at h
      cases h
      exact ⟨b, rfl⟩
    | null | int | float | text | list | map => cases hc
  | field | negate => cases hc

/-- A normal form that is a condition was read as an expression with a truth value by its form. -/
lemma exists_expr_of_ofNormal {text : String} {c : Condition} (h : ofNormal text = .ok c) :
    ∃ e, ofExpr e = .ok c ∧ isBoolean e = true := by
  unfold ofNormal at h
  split at h
  · cases h
  · split at h
    · cases h
    · next e _ =>
      split at h
      · cases h
      · split at h
        · next he => exact ⟨e, h, he⟩
        · cases h

/-- Whatever scalars the fields of a transaction hold, a condition has a truth value on it, or ends
in a clash of types, which is an error of one of two kinds. -/
theorem bool_or_clash_of_ofNormal {text : String} {c : Condition} (h : ofNormal text = .ok c)
    {t : Transaction} (ht : t.IsScalar) :
    (∃ b, c.eval t = .ok (.bool b)) ∨
      ∃ f, c.eval t = .error f ∧ f.Clash ∧
        (f.label = "TypeError" ∨ f.label = "AttributeError") := by
  obtain ⟨e, he, hboolean⟩ := exists_expr_of_ofNormal h
  have htruth := hasTruth_of_isBoolean he hboolean
  have hsafe := typeSafe_eval ht e he
  cases hv : c.eval t with
  | ok v =>
    obtain ⟨b, rfl⟩ := exists_bool_of_hasTruth htruth hv
    exact .inl ⟨b, rfl⟩
  | error f =>
    rw [hv] at hsafe
    cases hsafe with
    | error hf => exact .inr ⟨f, rfl, hf, hf.label⟩

open Sign in
/-- A condition on a transaction whose amount is no text. -/
theorem bool_or_clash_of_method_call :
    ∃ c, ofNormal "merchant . startsWith ( amount )" = .ok c ∧
      Transaction.IsScalar { merchant := .text "Shop", amount := .int 5 } ∧
      ((∃ b, c.eval { merchant := .text "Shop", amount := .int 5 } = .ok (.bool b)) ∨
        ∃ f, c.eval { merchant := .text "Shop", amount := .int 5 } = .error f ∧ f.Clash ∧
          (f.label = "TypeError" ∨ f.label = "AttributeError")) := by
  have hwritten : Written .call (.call .startsWith (.field .merchant) (.field .amount))
      [.field "merchant" .merchant rfl, dot, method .startsWith, opening,
        .field "amount" .amount rfl, closing] :=
    .called .startsWith (.field ..) (Written.field ..).to_disjunction
  obtain ⟨c, hc, -⟩ := (hwritten.to_disjunction.ofNormal_line (by decide) (by decide)).1 rfl
  have ht : Transaction.IsScalar { merchant := .text "Shop", amount := .int 5 } := by
    intro f
    cases f <;> trivial
  exact ⟨c, hc, ht, bool_or_clash_of_ofNormal hc ht⟩

/-! ## Conditions that cannot clash -/

mutual

/-- Whether a condition only tests for equality: without order, signs and methods. -/
def isEquational : Condition → Bool
  | .field _ | .constant _ => true
  | .all cs | .any cs => areEquational cs
  | .not c => c.isEquational
  | .chain c rest => c.isEquational && isEquationalChain rest
  | .negate _ | .call .. => false

def areEquational : List Condition → Bool
  | [] => true
  | c :: cs => c.isEquational && areEquational cs

def isEquationalChain : List (Comparison × Condition) → Bool
  | [] => true
  | (op, c) :: rest => (op == .eq || op == .ne) && c.isEquational && isEquationalChain rest

end

lemma exists_compare {op : Comparison} (hop : (op == .eq || op == .ne) = true) (v w : Value) :
    ∃ b, Value.compare op v w = .ok b := by
  cases op with
  | eq | ne => exact ⟨_, rfl⟩
  | lt | le | gt | ge => cases hop

mutual

lemma exists_eval (t : Transaction) :
    (c : Condition) → c.isEquational = true → ∃ v, c.eval t = .ok v
  | .field f, _ => ⟨t.get f, by rw [eval]⟩
  | .constant v, _ => ⟨v, by rw [eval]⟩
  | .all cs, h => by
    rw [isEquational] at h
    obtain ⟨b, hb⟩ := exists_evalJoined t .and cs h
    refine ⟨.bool b, ?_⟩
    change (joined .and cs).eval t = _
    rw [eval_joined, hb, Outcome.ok_map]
  | .any cs, h => by
    rw [isEquational] at h
    obtain ⟨b, hb⟩ := exists_evalJoined t .or cs h
    refine ⟨.bool b, ?_⟩
    change (joined .or cs).eval t = _
    rw [eval_joined, hb, Outcome.ok_map]
  | .not c, h => by
    rw [isEquational] at h
    obtain ⟨v, hv⟩ := exists_eval t c h
    exact ⟨.bool !v.truthy, by rw [eval, hv]; rfl⟩
  | .chain c rest, h => by
    rw [isEquational, Bool.and_eq_true] at h
    obtain ⟨v, hv⟩ := exists_eval t c h.1
    obtain ⟨b, hb⟩ := exists_evalChain t v rest h.2
    exact ⟨.bool b, by rw [eval, hv, Outcome.ok_bind, hb]; rfl⟩

lemma exists_evalJoined (t : Transaction) (op : Connective) :
    (cs : List Condition) → areEquational cs = true → ∃ b, evalJoined op cs t = .ok b
  | [], _ => ⟨op.neutral, evalJoined_nil⟩
  | c :: cs, h => by
    rw [areEquational, Bool.and_eq_true] at h
    obtain ⟨v, hv⟩ := exists_eval t c h.1
    rw [evalJoined_cons, hv, Outcome.ok_bind]
    split
    · exact exists_evalJoined t op cs h.2
    · exact ⟨_, rfl⟩

lemma exists_evalChain (t : Transaction) (v : Value) :
    (rest : List (Comparison × Condition)) → isEquationalChain rest = true →
      ∃ b, evalChain v rest t = .ok b
  | [], _ => ⟨true, by rw [evalChain]⟩
  | (op, c) :: rest, h => by
    rw [isEquationalChain, Bool.and_eq_true, Bool.and_eq_true] at h
    obtain ⟨w, hw⟩ := exists_eval t c h.1.2
    obtain ⟨b, hb⟩ := exists_compare h.1.1 v w
    rw [evalChain, hw, Outcome.ok_bind, hb, Outcome.ok_bind]
    split
    · exact exists_evalChain t w rest h.2
    · exact ⟨false, rfl⟩

end

/-- A condition that only tests for equality has a truth value, whatever the fields hold. -/
theorem exists_bool_of_isEquational {text : String} {c : Condition} (h : ofNormal text = .ok c)
    (hc : c.isEquational = true) (t : Transaction) : ∃ b, c.eval t = .ok (.bool b) := by
  obtain ⟨e, he, hboolean⟩ := exists_expr_of_ofNormal h
  obtain ⟨v, hv⟩ := exists_eval t c hc
  obtain ⟨b, rfl⟩ := exists_bool_of_hasTruth (hasTruth_of_isBoolean he hboolean) hv
  exact ⟨b, hv⟩

end Condition

end TransactionRules
