import TransactionRules.Rule.Shelf
import TransactionRules.Proofs.CacheRequests

/-!
# Listing the rules of a customer

Whoever asks a cache for the rules of a customer gets them as last read, and the cache reads them
only if it never did. Here a cache stands over a shelf, whose rules may be edited at any time, and
every read of the shelf is written down. The snapshots of the cache are the last entries of this log
(`CachedShelf.Inv`), whatever became of the requests that read them, and the lists that were handed
out belong to those who hold them.
-/

namespace TransactionRules

/-! ## Shelves -/

/-- A change of a shelf. -/
inductive ShelfChange where
  | put (customer : String) (rules : List Rule)
  | add (customer : String) (r : Rule)
  | remove (customer : String) (index : Nat)
  | reorder (customer : String) (order : List Nat)
  | edit (customer : String) (index : Nat) (e : RuleEdit)

namespace ShelfChange

def apply (c : ShelfChange) (s : RuleShelf) : RuleShelf :=
  match c with
  | .put customer rules => s.put customer rules
  | .add customer r => s.add customer r
  | .remove customer index => s.remove customer index
  | .reorder customer order => s.reorder customer order
  | .edit customer index e => s.edit customer index e

/-- A change reads nothing. -/
lemma reads_apply (c : ShelfChange) (s : RuleShelf) : (c.apply s).reads = s.reads := by
  cases c with
  | put customer rules => rfl
  | add customer r => rfl
  | remove customer index => rfl
  | reorder customer order => rfl
  | edit customer index e =>
    change (s.edit customer index e).reads = s.reads
    unfold RuleShelf.edit
    split <;> rfl

end ShelfChange

/-! ## Snapshots -/

namespace RuleSetCache

variable {ρ : Type}

lemma snapshots_rebuild (c : RuleSetCache ρ) (compiler : Compiler) (customer fingerprint : String)
    (active : List Rule) :
    (c.rebuild compiler customer fingerprint active).cache.snapshots = c.snapshots := by
  unfold rebuild
  simp only
  split
  · rfl
  · split <;> rfl

/-- A request remembers what was read for it, also where it fails or builds nothing. -/
lemma snapshots_get (c : RuleSetCache ρ) (compiler : Compiler) (view : ρ → Rule) (customer : String)
    (stored : List ρ) :
    (c.get compiler view customer stored).cache.snapshots = put customer stored c.snapshots := by
  unfold get
  simp only
  split
  · rfl
  · split
    · split_ifs
      · rfl
      · exact snapshots_rebuild ..
    · exact snapshots_rebuild ..

end RuleSetCache

/-! ## Runs -/

/-- A shelf of rules and a cache over it. Rules are named by their places on the shelf. -/
structure CachedShelf where
  shelf : RuleShelf
  cache : RuleSetCache Nat
  compiler : Compiler
  /-- What the reads of the shelf gave, the last read first. -/
  log : List (String × List Nat) := []
  /-- The lists that were handed out, as those who hold them have left them. -/
  handed : List (List Nat) := []

namespace CachedShelf

inductive Step where
  | change (c : ShelfChange)
  /-- The rule set of a customer is requested. -/
  | get (customer : String)
  /-- The rules of a customer are listed. -/
  | rules (customer : String)
  | peek (customer : String)
  /-- Whoever holds a list changes it. -/
  | scribble (place : Nat) (names : List Nat)

inductive Answer where
  | done
  | set (result : Except RuleError RuleSet)
  | entry (set : Option RuleSet)
  | list (names : List Nat)

/-- A new cache over a shelf. -/
def new (e : Engine) (compiler : Compiler) (shelf : RuleShelf) : CachedShelf where
  shelf := shelf
  cache := { engine := e }
  compiler := compiler

/-- Reads the rules of a customer. -/
def read (s : CachedShelf) (customer : String) : CachedShelf × List Nat :=
  let (shelf, names) := s.shelf.read customer
  ({ s with shelf := shelf, log := (customer, names) :: s.log }, names)

/-- The rules of a customer as last read; they are read if they never were. -/
def list (s : CachedShelf) (customer : String) : CachedShelf × List Nat :=
  match s.cache.snapshot? customer with
  | some names => (s, names)
  | none =>
    let (s, names) := s.read customer
    ({ s with cache := s.cache.remember customer names }, names)

def step (s : CachedShelf) : Step → CachedShelf × Answer
  | .change c => ({ s with shelf := c.apply s.shelf }, .done)
  | .get customer =>
    let (s, names) := s.read customer
    let a := s.cache.get s.compiler s.shelf.view customer names
    ({ s with cache := a.cache, compiler := a.compiler }, .set a.result)
  | .rules customer =>
    let (s, names) := s.list customer
    ({ s with handed := s.handed ++ [names] }, .list names)
  | .peek customer => (s, .entry (s.cache.peek? customer))
  | .scribble place names => ({ s with handed := s.handed.set place names }, .done)

def after (s : CachedShelf) (steps : List Step) : CachedShelf :=
  steps.foldl (fun s x => (s.step x).1) s

/-- What the steps of a run are answered with. -/
def answers (s : CachedShelf) : List Step → List Answer
  | [] => []
  | x :: rest => (s.step x).2 :: (s.step x).1.answers rest

/-- What the last read for a customer gave. -/
def lastRead? (s : CachedShelf) (customer : String) : Option (List Nat) := s.log.lookup customer

/-- What a step may read: a request reads its customer once, and a listing does if nobody has read
for the customer before. -/
def due (s : CachedShelf) : Step → List (String × List Nat)
  | .get customer => [(customer, s.shelf.names customer)]
  | .rules customer => if (s.lastRead? customer).isSome then [] else [(customer, s.shelf.names customer)]
  | _ => []

/-- The cache remembers the last read for each customer, and every read since the start is in the
log. -/
structure Inv (start : Nat) (s : CachedShelf) : Prop where
  snapshot : ∀ customer, s.cache.snapshot? customer = s.lastRead? customer
  reads : s.shelf.reads = start + s.log.length

variable {s : CachedShelf} {start : Nat}

lemma inv_new (e : Engine) (compiler : Compiler) (shelf : RuleShelf) :
    (new e compiler shelf).Inv shelf.reads := ⟨fun _ => rfl, rfl⟩

/-- Remembering what was read keeps the snapshots up to date. -/
lemma Inv.lookup_put (h : s.Inv start) (customer other : String) :
    (RuleSetCache.put customer (s.shelf.names customer) s.cache.snapshots).lookup other =
      (s.read customer).1.lastRead? other := by
  have hlog : (s.read customer).1.lastRead? other =
      ((customer, s.shelf.names customer) :: s.log).lookup other := rfl
  rw [hlog]
  by_cases hother : other = customer
  · subst hother
    rw [RuleSetCache.lookup_put_self, List.lookup_cons_self]
  · rw [RuleSetCache.lookup_put_of_ne hother, List.lookup_cons, beq_false_of_ne hother]
    exact h.snapshot other

lemma Inv.reads_read (h : s.Inv start) (customer : String) :
    (s.read customer).1.shelf.reads = start + (s.read customer).1.log.length := by
  have hread : (s.read customer).1.shelf.reads = s.shelf.reads + 1 := rfl
  rw [hread, h.reads]
  rfl

/-- Rules are listed as last read, and what is read for it is what is due. -/
lemma Inv.list (h : s.Inv start) (customer : String) :
    (s.list customer).1.Inv start ∧
      (s.list customer).1.lastRead? customer = some (s.list customer).2 ∧
      (s.list customer).1.log = s.due (.rules customer) ++ s.log ∧
      (s.list customer).1.handed = s.handed := by
  have hsnapshot := h.snapshot customer
  cases hlast : s.lastRead? customer with
  | some names =>
    rw [hlast] at hsnapshot
    have hlist : s.list customer = (s, names) := by simp only [CachedShelf.list, hsnapshot]
    have hdue : s.due (.rules customer) = [] := by simp [due, hlast]
    rw [hlist, hdue]
    exact ⟨h, hlast, rfl, rfl⟩
  | none =>
    rw [hlast] at hsnapshot
    have hdue : s.due (.rules customer) = [(customer, s.shelf.names customer)] := by
      simp [due, hlast]
    rw [hdue, CachedShelf.list, hsnapshot]
    exact ⟨⟨h.lookup_put customer, h.reads_read customer⟩, List.lookup_cons_self, rfl, rfl⟩

lemma Inv.step (h : s.Inv start) (x : Step) :
    (s.step x).1.Inv start ∧ (s.step x).1.log = s.due x ++ s.log := by
  cases x with
  | change c => exact ⟨⟨h.snapshot, (c.reads_apply s.shelf).trans h.reads⟩, rfl⟩
  | get customer =>
    refine ⟨⟨fun other => ?_, h.reads_read customer⟩, rfl⟩
    have hsnapshots := (s.read customer).1.cache.snapshots_get (s.read customer).1.compiler
      (s.read customer).1.shelf.view customer (s.read customer).2
    exact (congrArg (List.lookup other) hsnapshots).trans (h.lookup_put customer other)
  | rules customer =>
    obtain ⟨hinv, -, hlog, -⟩ := h.list customer
    exact ⟨⟨hinv.snapshot, hinv.reads⟩, hlog⟩
  | peek customer => exact ⟨h, rfl⟩
  | scribble place names => exact ⟨⟨h.snapshot, h.reads⟩, rfl⟩

lemma Inv.after (h : s.Inv start) (steps : List Step) : (s.after steps).Inv start := by
  induction steps generalizing s with
  | nil => exact h
  | cons x rest ih => exact ih (h.step x).1

/-! ## Lists in other hands -/

/-- The same shelf and cache where the lists that were handed out look otherwise. -/
def withHanded (s : CachedShelf) (handed : List (List Nat)) : CachedShelf := { s with handed := handed }

lemma step_withHanded (s : CachedShelf) (handed : List (List Nat)) (x : Step) :
    ((s.withHanded handed).step x).2 = (s.step x).2 ∧
      ∃ later, ((s.withHanded handed).step x).1 = (s.step x).1.withHanded later := by
  cases x with
  | change c => exact ⟨rfl, handed, rfl⟩
  | get customer => exact ⟨rfl, handed, rfl⟩
  | rules customer =>
    have hlist : (s.withHanded handed).list customer =
        ((s.list customer).1.withHanded handed, (s.list customer).2) := by
      have hcache : (s.withHanded handed).cache = s.cache := rfl
      unfold list
      rw [hcache]
      split <;> rfl
    simp only [step, hlist]
    exact ⟨trivial, handed ++ [(s.list customer).2], rfl⟩
  | peek customer => exact ⟨rfl, handed, rfl⟩
  | scribble place names => exact ⟨rfl, handed.set place names, rfl⟩

/-- No answer depends on lists that were handed out. -/
lemma answers_withHanded (s : CachedShelf) (handed : List (List Nat)) (steps : List Step) :
    (s.withHanded handed).answers steps = s.answers steps := by
  induction steps generalizing s handed with
  | nil => rfl
  | cons x rest ih =>
    obtain ⟨hanswer, later, hstep⟩ := s.step_withHanded handed x
    rw [answers, hanswer, hstep, ih, answers]

/-- In every run of a new cache, the rules of a customer are listed as the last read for the customer
gave them, in a list of its own. A request reads its customer once, whether it is answered from the
cache, with a new set or with an error; a listing reads only if nothing was read for the customer
before; nothing else reads. What others do to the lists that they hold changes no later answer. -/
theorem lists_last_read (e : Engine) (compiler : Compiler) (shelf : RuleShelf) (steps : List Step)
    (customer : String) :
    let s := (new e compiler shelf).after steps
    let listed := s.step (.rules customer)
    (∃ names, listed.2 = .list names ∧ listed.1.lastRead? customer = some names ∧
      listed.1.handed = s.handed ++ [names]) ∧
    (∀ x, (s.step x).1.log = s.due x ++ s.log) ∧
    s.shelf.reads = shelf.reads + s.log.length ∧
    ∀ place names later, (s.step (.scribble place names)).1.answers later = s.answers later := by
  intro s listed
  have hinv : s.Inv shelf.reads := (inv_new e compiler shelf).after steps
  obtain ⟨-, hlast, -, hhanded⟩ := hinv.list customer
  refine ⟨⟨(s.list customer).2, rfl, hlast, ?_⟩, fun x => (hinv.step x).2, hinv.reads, ?_⟩
  · exact congrArg (· ++ [(s.list customer).2]) hhanded
  · intro place names later
    exact s.answers_withHanded (s.handed.set place names) later

end CachedShelf

end TransactionRules
