import Mathlib.Data.Finset.Card
import TransactionRules.Proofs.Compilation

/-!
# Runs of a compiler

A compiler is asked for conditions and for rules, in any order and with any outcome. An answer says
where its predicate is filed, under the normal form of the condition (`Compiler.Files`), and what is
filed stays. No normal form is filed twice (`Compiler.WellFiled`), so the answers of a run are those
of new compilers, they share predicates where the normal forms agree, and the count is the number of
the normal forms that were asked for with success (`Compiler.serveAll_transparent`).
-/

namespace TransactionRules

namespace Compiler

/-! ## Requests and answers -/

/-- What a compiler can be asked for. -/
inductive Request where
  | condition (text : String)
  | rule (r : Rule)

/-- What a compiler answers with. -/
inductive Product where
  | predicate (p : Predicate)
  | rule (r : CompiledRule)

inductive Refusal where
  | condition (e : ConditionError)
  | rule (e : RuleError)

namespace Request

def text? : Request → Option String
  | .condition text => some text
  | .rule r => (conditionText r.condition).toOption

/-- The normal form of the condition that is asked for. -/
def normal? (q : Request) : Option String := q.text?.bind fun text => (normalForm text).toOption

end Request

namespace Product

/-- The predicate that was handed out, alone or in a rule. -/
def handed : Product → Predicate
  | .predicate p => p
  | .rule r => r.predicate

/-- An answer without the number of its predicate. -/
def unnumbered : Product → Product
  | .predicate p => .predicate ⟨0, p.condition⟩
  | .rule r => .rule { r with predicate := ⟨0, r.predicate.condition⟩ }

end Product

/-- The compiler after a request, and its answer. -/
def serve (c : Compiler) : Request → Compiler × Except Refusal Product
  | .condition text =>
    match c.compile text with
    | .error e => (c, .error (.condition e))
    | .ok (c', p, _) => (c', .ok (.predicate p))
  | .rule r =>
    match c.compileRule r with
    | .error e => (c, .error (.rule e))
    | .ok (c', compiled, _) => (c', .ok (.rule compiled))

/-- The compiler after requests in order, and its answers. -/
def serveAll (c : Compiler) : List Request → Compiler × List (Except Refusal Product)
  | [] => (c, [])
  | q :: rest =>
    let (c', answer) := c.serve q
    let (c', answers) := c'.serveAll rest
    (c', answer :: answers)

/-- The normal form of a request that was answered with a predicate. -/
def servedForm? : Request × Except Refusal Product → Option String
  | (q, .ok _) => q.normal?
  | (_, .error _) => none

/-! ## What a compiler has on file -/

def forms (c : Compiler) : List String := c.entries.map Prod.fst

/-- What is on file was compiled from its normal form, once, and was counted. -/
structure WellFiled (c : Compiler) : Prop where
  sound : c.Sound
  nodup : c.forms.Nodup
  count : c.compileCount = c.size

variable {c c' : Compiler} {normal normal' : String} {p p' : Predicate}

lemma wellFiled_new : ({} : Compiler).WellFiled := ⟨sound_new, List.nodup_nil, rfl⟩

lemma Files.mono (h : c.Files normal p) (hc : c.entries <+: c'.entries) : c'.Files normal p := by
  obtain ⟨later, hlater⟩ := hc
  unfold Files at h ⊢
  rw [← hlater, List.getElem?_append_left (List.getElem?_eq_some_iff.1 h).1, h]

/-- Predicates are numbered by their normal forms. -/
lemma WellFiled.number_eq_iff (h : c.WellFiled) (hp : c.Files normal p) (hp' : c.Files normal' p') :
    p.number = p'.number ↔ normal = normal' := by
  have hform : c.forms[p.number]? = some normal := by simp [forms, show _ = _ from hp]
  have hform' : c.forms[p'.number]? = some normal' := by simp [forms, show _ = _ from hp']
  constructor
  · intro heq
    rw [← heq, hform, Option.some.injEq] at hform'
    exact hform'
  · rintro rfl
    have hlt := (List.getElem?_eq_some_iff.1 hform).1
    exact (List.getElem?_inj hlt h.nodup).1 (hform.trans hform'.symm)

/-! ## Single requests -/

lemma lookup?_eq_none (h : c.lookup? normal = none) : normal ∉ c.forms := by
  unfold lookup? at h
  split at h
  · next hi =>
    intro hmem
    obtain ⟨entry, hentry, rfl⟩ := List.mem_map.1 hmem
    simpa using List.findIdx?_eq_none_iff.1 hi entry hentry
  · next i hi =>
    obtain ⟨hlt, -⟩ := List.findIdx?_eq_some_iff_getElem.1 hi
    simp [List.getElem?_eq_getElem hlt] at h

/-- A condition is answered from the file; a normal form that is not on file goes to its end. -/
lemma compile_cases {text : String} {events : List Event} (h : c.compile text = .ok (c', p, events)) :
    ∃ normal, normalForm text = .ok normal ∧ c'.Files normal p ∧
      (c' = c ∨ normal ∉ c.forms ∧ Condition.ofNormal normal = .ok p.condition ∧
        c' = ⟨c.entries ++ [(normal, p.condition)], c.compileCount + 1⟩) := by
  unfold compile at h
  split at h
  · cases h
  · next normal hnormal =>
    refine ⟨normal, hnormal, ?_⟩
    split at h
    · next known hknown =>
      cases h
      exact ⟨lookup?_eq_some hknown, .inl rfl⟩
    · next hnone =>
      obtain ⟨condition, hcondition, hfiled⟩ := Outcome.bind_eq_ok.1 h
      cases hfiled
      refine ⟨?_, .inr ⟨lookup?_eq_none hnone, hcondition, rfl⟩⟩
      simp [Files, size]

lemma compileRule_cases {r : Rule} {compiled : CompiledRule} {events : List Event}
    (h : c.compileRule r = .ok (c', compiled, events)) :
    compiled.name = r.name ∧ ∃ text, conditionText r.condition = .ok text ∧
      c.compile text = .ok (c', compiled.predicate, events) := by
  unfold compileRule at h
  split_ifs at h
  split at h
  · cases h
  · split at h
    · cases h
    · next text htext =>
      split at h
      · cases h
      · next hcompile =>
        cases h
        exact ⟨rfl, text, htext, hcompile⟩

/-- An answer comes from compiling the text of the request. -/
lemma serve_eq_ok {q : Request} {product : Product} (h : c.serve q = (c', .ok product)) :
    ∃ text events, q.text? = some text ∧ c.compile text = .ok (c', product.handed, events) := by
  cases q with
  | condition text =>
    simp only [serve] at h
    split at h
    · cases h
    · next hcompile =>
      cases h
      exact ⟨text, _, rfl, hcompile⟩
  | rule r =>
    simp only [serve] at h
    split at h
    · cases h
    · next hrule =>
      cases h
      obtain ⟨-, text, htext, hcompile⟩ := compileRule_cases hrule
      exact ⟨text, _, by simp [Request.text?, htext, Except.toOption], hcompile⟩

lemma serve_eq_error {q : Request} {e : Refusal} (h : (c.serve q).2 = .error e) :
    (c.serve q).1 = c := by
  cases q <;> simp only [serve] at h ⊢ <;> split at h <;> simp_all

/-- A request is answered as by any other compiler, apart from the number of the predicate. -/
lemma Sound.serve_eq (h : c.Sound) (h' : c'.Sound) (q : Request) :
    (c.serve q).2.map Product.unnumbered = (c'.serve q).2.map Product.unnumbered := by
  cases q with
  | condition text =>
    cases htext : Condition.ofText text with
    | error e => simp [serve, h.compile_of_error htext, h'.compile_of_error htext]
    | ok condition =>
      obtain ⟨_, p, _, hp, rfl, -⟩ := h.compile_of_ok htext
      obtain ⟨_, p', _, hp', hcondition, -⟩ := h'.compile_of_ok htext
      simp [serve, hp, hp', Product.unnumbered, hcondition]
  | rule r =>
    cases hr : r.compiled with
    | error e => simp [serve, h.compileRule_of_error hr, h'.compileRule_of_error hr]
    | ok compiled =>
      obtain ⟨_, known, _, hknown, rfl, -⟩ := h.compileRule_of_ok hr
      obtain ⟨_, fresh, _, hfresh, hsame, -⟩ := h'.compileRule_of_ok hr
      have hname : known.name = fresh.name :=
        (compileRule_cases hknown).1.trans (compileRule_cases hfresh).1.symm
      simp only [serve, hknown, hfresh, Outcome.ok_map, Product.unnumbered]
      have hnamed : ∀ x : CompiledRule,
          { x with predicate := ⟨0, x.predicate.condition⟩ } = { x.anonymous with name := x.name } :=
        fun _ => rfl
      rw [hnamed, hnamed, hsame, hname]

lemma WellFiled.compile {text : String} {events : List Event} (h : c.WellFiled)
    (hc : c.compile text = .ok (c', p, events)) :
    c'.WellFiled ∧ c.entries <+: c'.entries ∧
      ∃ normal, normalForm text = .ok normal ∧ c'.Files normal p ∧
        c'.forms.toFinset = insert normal c.forms.toFinset := by
  obtain ⟨normal, hnormal, hfiles, rfl | ⟨hnew, hcondition, rfl⟩⟩ := compile_cases hc
  · have hmem : normal ∈ c'.forms := List.mem_map_of_mem (List.mem_of_getElem? hfiles)
    refine ⟨h, List.prefix_rfl, normal, hnormal, hfiles, ?_⟩
    rw [Finset.insert_eq_of_mem (List.mem_toFinset.2 hmem)]
  · refine ⟨⟨h.sound.add _ hcondition, ?_, ?_⟩, List.prefix_append _ _, normal, hnormal, hfiles, ?_⟩
    · rw [show (⟨c.entries ++ [(normal, p.condition)], _⟩ : Compiler).forms = c.forms ++ [normal] by
        simp [forms]]
      exact h.nodup.append (List.nodup_singleton _) (List.disjoint_singleton.2 hnew)
    · simp [size, h.count]
    · simp [forms, List.toFinset_append, Finset.union_comm]

/-- What requests with their answers leave on file: the forms that were there, and those that were
asked for with success. -/
structure Served (c c' : Compiler) (answered : List (Request × Except Refusal Product)) : Prop where
  wellFiled : c'.WellFiled
  keeps : c.entries <+: c'.entries
  files : ∀ q product, (q, .ok product) ∈ answered →
    ∃ normal, q.normal? = some normal ∧ c'.Files normal product.handed
  forms : c'.forms.toFinset = c.forms.toFinset ∪ (answered.filterMap servedForm?).toFinset

/-- One request is served from a well kept file, which stays well kept. -/
lemma WellFiled.serve (h : c.WellFiled) (q : Request) :
    c.Served (c.serve q).1 [(q, (c.serve q).2)] := by
  cases hanswer : (c.serve q).2 with
  | error e =>
    rw [serve_eq_error hanswer]
    exact ⟨h, List.prefix_rfl, by simp, by simp [List.filterMap_cons, servedForm?]⟩
  | ok product =>
    obtain ⟨text, events, htext, hcompile⟩ := serve_eq_ok (Prod.ext rfl hanswer)
    obtain ⟨hfiled, hkeeps, normal, hnormal, hfiles, hforms⟩ := h.compile hcompile
    have hform : q.normal? = some normal := by simp [Request.normal?, htext, hnormal, Except.toOption]
    refine ⟨hfiled, hkeeps, ?_, ?_⟩
    · intro q' product' hmem
      cases List.mem_singleton.1 hmem
      exact ⟨normal, hform, hfiles⟩
    · rw [hforms]
      simp [servedForm?, hform, Finset.union_comm]

lemma Served.append {c'' : Compiler} {before after : List (Request × Except Refusal Product)}
    (h : c.Served c' before) (h' : c'.Served c'' after) : c.Served c'' (before ++ after) where
  wellFiled := h'.wellFiled
  keeps := h.keeps.trans h'.keeps
  files := by
    intro q product hmem
    rcases List.mem_append.1 hmem with hmem | hmem
    · obtain ⟨normal, hnormal, hfiles⟩ := h.files q product hmem
      exact ⟨normal, hnormal, hfiles.mono h'.keeps⟩
    · exact h'.files q product hmem
  forms := by
    rw [h'.forms, h.forms, List.filterMap_append, List.toFinset_append, Finset.union_assoc]

/-! ## Runs -/

lemma WellFiled.serveAll (h : c.WellFiled) (requests : List Request) :
    c.Served (c.serveAll requests).1 (requests.zip (c.serveAll requests).2) := by
  induction requests generalizing c with
  | nil => exact ⟨h, List.prefix_rfl, by simp, by simp [Compiler.serveAll]⟩
  | cons q rest ih =>
    have hq := h.serve q
    exact hq.append (ih hq.wellFiled)

/-- The answers of a run are those of compilers without a past. -/
lemma WellFiled.answers (h : c.WellFiled) (requests : List Request) :
    (c.serveAll requests).2.map (Except.map Product.unnumbered) =
      requests.map fun q => (Compiler.serve {} q).2.map Product.unnumbered := by
  induction requests generalizing c with
  | nil => rfl
  | cons q rest ih =>
    rw [List.map_cons, ← ih (h.serve q).wellFiled, ← h.sound.serve_eq sound_new]
    rfl

/-- A run answers every request as a new compiler would, with one predicate for each normal form. The
count of the compiled conditions, which is the number of the predicates, is that of the normal forms
that were asked for with success, and a request that is refused leaves the compiler as it is. -/
theorem serveAll_transparent (requests : List Request) :
    let c := (serveAll {} requests).1
    let answers := (serveAll {} requests).2
    answers.map (Except.map Product.unnumbered) =
        requests.map (fun q => (serve {} q).2.map Product.unnumbered) ∧
      (∀ (i j : Nat) (q q' : Request) (product product' : Product),
        requests[i]? = some q → answers[i]? = some (.ok product) →
        requests[j]? = some q' → answers[j]? = some (.ok product') →
        (product.handed.number = product'.handed.number ↔ q.normal? = q'.normal?)) ∧
      c.compileCount = c.size ∧
      c.size = ((requests.zip answers).filterMap servedForm?).toFinset.card ∧
      ∀ q e, (c.serve q).2 = .error e → (c.serve q).1 = c := by
  have hserved := wellFiled_new.serveAll requests
  refine ⟨wellFiled_new.answers requests, ?_, hserved.wellFiled.count, ?_,
    fun q e => serve_eq_error⟩
  · intro i j q q' product product' hq hanswer hq' hanswer'
    have hmem : ∀ (k : Nat) (q : Request) (product : Product), requests[k]? = some q →
        (serveAll {} requests).2[k]? = some (.ok product) →
        (q, .ok product) ∈ requests.zip (serveAll {} requests).2 := by
      intro k q product hq hanswer
      exact List.mem_of_getElem? (List.getElem?_zip_eq_some.2 ⟨hq, hanswer⟩)
    obtain ⟨normal, hnormal, hfiles⟩ := hserved.files q product (hmem i q product hq hanswer)
    obtain ⟨normal', hnormal', hfiles'⟩ := hserved.files q' product' (hmem j q' product' hq' hanswer')
    rw [hserved.wellFiled.number_eq_iff hfiles hfiles', hnormal, hnormal', Option.some.injEq]
  · have hforms := hserved.forms
    rw [show ({} : Compiler).forms = [] from rfl, List.toFinset_nil, Finset.empty_union] at hforms
    rw [← hforms, List.toFinset_card_of_nodup hserved.wellFiled.nodup, forms, List.length_map, size]

end Compiler

end TransactionRules
