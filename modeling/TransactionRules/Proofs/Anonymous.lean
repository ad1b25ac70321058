import TransactionRules.Proofs.RuleOrder
import TransactionRules.Proofs.Sessions

/-!
# What classification reads of a plan

The names of rules and the numbers of their predicates are for readers and for sharing; no category
depends on them. So two plans that agree once both are left out (`Plan.anonymous`) classify every
batch alike. An engine makes such plans of any two lists that have the same rules in order.
-/

namespace TransactionRules

def Clause.anonymous (c : Clause) : Clause := { c with name := "", rule := c.rule.anonymous }

def Program.anonymous (p : Program) : Program :=
  { p with clauses := p.clauses.map Clause.anonymous }

def Plan.anonymous : Plan → Plan
  | .program p => .program p.anonymous
  | .ordered rules => .ordered (rules.map CompiledRule.anonymous)

namespace Session

def anonymous (s : Session) : Session := { s with program := s.program.anonymous }

@[simp] lemma anonymous_anonymous (s : Session) : s.anonymous.anonymous = s.anonymous := by
  simp [anonymous, Program.anonymous, Clause.anonymous, Function.comp_def]

@[simp] lemma fact?_anonymous (s : Session) (handle : Int) :
    s.anonymous.fact? handle = s.fact? handle := rfl

@[simp] lemma isSettled_anonymous (s : Session) (order : Nat) (handle : Int) :
    s.anonymous.isSettled order handle = s.isSettled order handle := rfl

@[simp] lemma bound_anonymous (s : Session) : s.anonymous.bound = s.bound := by
  simp [bound, anonymous, Program.anonymous, Program.size]

lemma matchClause_anonymous (t : Transaction) (handle : Int) (s : Session) (c : Clause) :
    (matchClause t handle s c).anonymous = matchClause t handle s.anonymous c.anonymous := by
  have horder : c.anonymous.order = c.order := rfl
  have hrule : c.anonymous.rule = c.rule.anonymous := rfl
  unfold matchClause
  rw [isSettled_anonymous, horder, hrule, CompiledRule.holds_anonymous]
  split_ifs <;> rfl

lemma matchFact_anonymous (s : Session) (t : Transaction) (handle : Int) :
    (s.matchFact t handle).anonymous = s.anonymous.matchFact t handle := by
  have hfold (clauses : List Clause) (s : Session) :
      (clauses.foldl (matchClause t handle) s).anonymous =
        (clauses.map Clause.anonymous).foldl (matchClause t handle) s.anonymous := by
    induction clauses generalizing s with
    | nil => rfl
    | cons c clauses ih =>
      rw [List.foldl_cons, ih, matchClause_anonymous, List.map_cons, List.foldl_cons]
  exact hfold s.program.clauses s

lemma addAll_anonymous (s : Session) (pool : Pool) (batch : List Nat) :
    (s.addAll pool batch).anonymous = s.anonymous.addAll pool batch := by
  induction batch generalizing s with
  | nil => rfl
  | cons position rest ih =>
    have hadd : (add pool s position).anonymous = add pool s.anonymous position :=
      matchFact_anonymous _ _ _
    exact (ih _).trans (congrArg (addAll · pool rest) hadd)

lemma popped_anonymous (s : Session) (a : Activation) (rest : List Activation) :
    (s.popped a rest).anonymous = s.anonymous.popped a rest := rfl

lemma settled_anonymous (s : Session) (a : Activation) (t : Transaction) :
    (s.settled a t).anonymous = s.anonymous.settled a t :=
  matchFact_anonymous _ _ _

end Session

namespace Firings

/-- Firings without the names of rules and without what is reported. -/
def anonymous (f : Firings) : Firings := { f with session := f.session.anonymous, events := [] }

end Firings

namespace Session

lemma firing?_anonymous (s : Session) (pool : Pool) (a : Activation) :
    s.anonymous.firing? pool a =
      (s.firing? pool a).map fun (c, position) => (c.anonymous, position) := by
  have hclause : s.anonymous.program.clauses[a.order]? =
      s.program.clauses[a.order]?.map Clause.anonymous := by
    simp [anonymous, Program.anonymous]
  unfold firing?
  rw [hclause, fact?_anonymous]
  cases s.program.clauses[a.order]? with
  | none => rfl
  | some c =>
    have hholds (t : Transaction) : c.anonymous.rule.holds t = c.rule.holds t := rfl
    cases s.fact? a.handle with
    | none => rfl
    | some position =>
      simp only [Option.map_some, hholds]
      split_ifs <;> rfl

lemma step_anonymous (f : Firings) (a : Activation) (rest : List Activation) :
    (step f a rest).anonymous = (step f.anonymous a rest).anonymous := by
  have hfiring := firing?_anonymous f.session f.pool a
  cases h : f.session.firing? f.pool a with
  | none =>
    rw [h] at hfiring
    obtain ⟨_, hstep⟩ := step_of_none h rest
    obtain ⟨_, hstep'⟩ := step_of_none (f := f.anonymous) hfiring rest
    rw [hstep, hstep']
    simp only [Firings.anonymous, popped_anonymous, anonymous_anonymous]
  | some fires =>
    obtain ⟨c, position⟩ := fires
    rw [h] at hfiring
    obtain ⟨_, hstep⟩ := step_of_some h rest
    obtain ⟨_, hstep'⟩ := step_of_some (f := f.anonymous) hfiring rest
    rw [hstep, hstep']
    simp only [Firings.anonymous, settled_anonymous, popped_anonymous, anonymous_anonymous]
    rfl

lemma run_anonymous (fuel : Nat) {f g : Firings} (h : f.anonymous = g.anonymous) :
    (run fuel f).anonymous = (run fuel g).anonymous := by
  induction fuel generalizing f g with
  | zero => exact h
  | succ fuel ih =>
    have hsame : f.session.agenda = g.session.agenda := congrArg (·.session.agenda) h
    cases hagenda : g.session.agenda with
    | nil => rwa [run_of_nil hagenda, run_of_nil (hsame.trans hagenda)]
    | cons a rest =>
      rw [run_of_cons hagenda, run_of_cons (hsame.trans hagenda)]
      exact ih (by rw [step_anonymous f, step_anonymous g, h])

end Session

lemma Engine.chain_anonymous {p q : Program} (h : p.anonymous = q.anonymous) (pool : Pool)
    (batch : List Nat) :
    ∃ firings firings', chain p pool batch = .ok firings ∧ chain q pool batch = .ok firings' ∧
      firings.pool = firings'.pool := by
  obtain ⟨firings, hp, hpool, -⟩ := Session.chain_eq p pool batch
  obtain ⟨firings', hq, hpool', -⟩ := Session.chain_eq q pool batch
  refine ⟨firings, firings', hp, hq, ?_⟩
  have hloaded : (Session.loaded p pool batch).anonymous = (Session.loaded q pool batch).anonymous := by
    unfold Session.loaded
    rw [Session.addAll_anonymous, Session.addAll_anonymous]
    exact congrArg (fun p => (Session.ofProgram p).addAll pool batch) h
  have hbound : (Session.loaded p pool batch).bound = (Session.loaded q pool batch).bound := by
    rw [← Session.bound_anonymous, hloaded, Session.bound_anonymous]
  have hstart : (⟨Session.loaded p pool batch, pool, [], []⟩ : Firings).anonymous =
      (⟨Session.loaded q pool batch, pool, [], []⟩ : Firings).anonymous := by
    simp only [Firings.anonymous, hloaded]
  rw [hpool, hpool', hbound]
  exact congrArg (·.pool) (Session.run_anonymous _ hstart)

lemma FirstMatch.apply_anonymous {rules rules' : List CompiledRule}
    (h : rules.map CompiledRule.anonymous = rules'.map CompiledRule.anonymous) (pool : Pool)
    (batch : List Nat) : (apply rules pool batch).1 = (apply rules' pool batch).1 := by
  have hrule (rules : List CompiledRule) (t : Transaction) :
      (rule? rules t).map CompiledRule.categoryName =
        (rule? (rules.map CompiledRule.anonymous) t).map CompiledRule.categoryName := by
    simp [rule?, List.find?_map, Function.comp_def]
  induction batch generalizing pool with
  | nil => rfl
  | cons position rest ih =>
    have hcategory : (rule? rules (pool.get position)).map CompiledRule.categoryName =
        (rule? rules' (pool.get position)).map CompiledRule.categoryName := by
      rw [hrule, h, ← hrule]
    simp only [apply]
    cases hr : rule? rules (pool.get position) <;> cases hr' : rule? rules' (pool.get position) <;>
      simp_all

namespace Engine

/-- What an engine makes of rules in strict order. -/
def planOf (e : Engine) (customer : String) (rules : List CompiledRule) : Plan :=
  match e with
  | .forwardChaining => .program ⟨customer, rules.zipIdx.map fun (r, i) =>
    ⟨s!"{customer}-{r.name.plain}", r.priority, i, r⟩⟩
  | .firstMatch => .ordered rules

lemma plan_of_pairwise (e : Engine) (customer : String) {rules : List CompiledRule}
    (h : ∀ r ∈ rules, r.row.Typed) (hordered : rules.Pairwise CompiledRule.Precedes) :
    e.plan customer rules = .ok (e.planOf customer rules) := by
  have hin := CompiledRule.inOrder_of_pairwise (fun r hr => CompiledRule.ranked_of_typed (h r hr)) hordered
  cases e with
  | forwardChaining => simp only [plan, planOf, Program.ofRules, hin]; rfl
  | firstMatch => simp only [plan, planOf, hin]; rfl

lemma planOf_anonymous (e : Engine) (customer : String) {rules rules' : List CompiledRule}
    (h : rules.map CompiledRule.anonymous = rules'.map CompiledRule.anonymous) :
    (e.planOf customer rules).anonymous = (e.planOf customer rules').anonymous := by
  cases e with
  | forwardChaining =>
    have hclauses (rules : List CompiledRule) :
        (rules.zipIdx.map fun (r, i) => Clause.anonymous ⟨s!"{customer}-{r.name.plain}", r.priority, i, r⟩) =
          (rules.map CompiledRule.anonymous).zipIdx.map fun (r, i) => ⟨"", r.priority, i, r⟩ := by
      rw [List.zipIdx_map, List.map_map]
      rfl
    simp only [planOf, Plan.anonymous, Program.anonymous, List.map_map, Function.comp_def, hclauses, h]
  | firstMatch => exact congrArg Plan.ordered h

/-- Plans that agree but for names classify every batch alike. -/
theorem apply_planOf {e : Engine} {set set' : RuleSet} {customer : String}
    {rules rules' : List CompiledRule} (hset : set.plan = e.planOf customer rules)
    (hset' : set'.plan = e.planOf customer rules')
    (h : rules.map CompiledRule.anonymous = rules'.map CompiledRule.anonymous) (pool : Pool)
    (batch : List Nat) :
    ∃ after, (e.apply set pool batch).map (·.1) = .ok after ∧
      (e.apply set' pool batch).map (·.1) = .ok after := by
  have hplan := planOf_anonymous e customer h
  cases e with
  | forwardChaining =>
    obtain ⟨firings, firings', hp, hq, hpool⟩ :=
      chain_anonymous (Plan.program.inj hplan) pool batch
    refine ⟨firings.pool, ?_, ?_⟩
    · simp only [apply, hset, planOf, hp, Outcome.ok_map]
    · simp only [apply, hset', planOf, hq, Outcome.ok_map, hpool]
  | firstMatch =>
    refine ⟨(FirstMatch.apply rules pool batch).1, ?_, ?_⟩
    · simp only [apply, hset, planOf, Outcome.ok_map]
    · simp only [apply, hset', planOf, Outcome.ok_map, FirstMatch.apply_anonymous h]

end Engine

end TransactionRules
