import TransactionRules.CommandLine.App
import TransactionRules.Proofs.RefusedWrites
import TransactionRules.Proofs.Reports

/-!
# The work of commands

The work of a command is a sequence of steps on the classifier, which ends with the first that fails.
Followed through it are what outlasts a work however it ends (`Preserves`), or if it fails
(`PreservesOnError`), what a work gives (`Ensures`), and that it does not fail (`Succeeds`). A batch
that fails before its report changes no stored row, and its report does not fail on transactions that
can be printed.
-/

namespace TransactionRules.App

/-! ## Work step by step -/

namespace Work

variable {α β : Type} {motive : Classifier → Prop}

/-- Whether a property of the classifier outlasts a work, however the work ends. -/
def Preserves (motive : Classifier → Prop) (w : Work α) : Prop :=
  ∀ state, motive state.1 → motive (w.run.run state).2.1

namespace Preserves

lemma bind {w : Work α} {next : α → Work β} (h : Preserves motive w)
    (hnext : ∀ a, Preserves motive (next a)) : Preserves motive (w >>= next) := by
  intro state start
  have first := h state start
  rw [Outcome.run_bind]
  split
  · next a between heq => exact hnext a between (by rwa [heq] at first)
  · next e between heq => rwa [heq] at first

lemma pure (a : α) : Preserves motive (Pure.pure a) := fun _ start => start

lemma get : Preserves motive (MonadState.get : Work _) := fun _ start => start

lemma ofExcept (r : Except CommandError α) : Preserves motive (Work.ofExcept r) :=
  fun _ start => start

lemma print (p : Printed) : Preserves motive (Work.print p) := fun _ start => start

lemma engineName : Preserves motive Work.engineName := fun _ start => start

lemma forM_print (ps : List Printed) : Preserves motive (ps.forM Work.print) := by
  induction ps with
  | nil => exact .pure _
  | cons p rest ih => exact .bind (.print p) fun _ => ih

lemma classifier {op : Classifier → Classifier × List Event × Except CommandError α}
    (h : ∀ c, motive c → motive (op c).1) : Preserves motive (Work.classifier op) :=
  fun state start => h state.1 start

lemma store {op : Store → Store × Except StoreError α}
    (h : ∀ c s, motive c → motive { c with store := s }) : Preserves motive (Work.store op) :=
  .classifier fun c start => h c (op c.store).1 start

lemma saving {op : Store → Store × Pool × Except StoreError Unit}
    (h : ∀ c s, motive c → motive { c with store := s }) : Preserves motive (Work.saving op) :=
  .store h

end Preserves

/-- Whether a property of the classifier outlasts a work that fails. -/
def PreservesOnError (motive : Classifier → Prop) (w : Work α) : Prop :=
  ∀ state e, (w.run.run state).1 = .error e → motive state.1 → motive (w.run.run state).2.1

lemma Preserves.onError {w : Work α} (h : Preserves motive w) : PreservesOnError motive w :=
  fun state _ _ start => h state start

lemma PreservesOnError.bind {w : Work α} {next : α → Work β} (h : Preserves motive w)
    (hnext : ∀ a, PreservesOnError motive (next a)) : PreservesOnError motive (w >>= next) := by
  intro state e failed start
  have first := h state start
  rw [Outcome.run_bind] at failed ⊢
  split at failed
  · next a between heq => exact hnext a between e failed (by rwa [heq] at first)
  · next e between heq => rwa [heq] at first

/-- A saving ends as the operation on the store does. -/
lemma saving_outcome (op : Store → Store × Pool × Except StoreError Unit)
    (state : Classifier × List Printed × List Event) :
    ((saving op).run.run state).1 =
      ((op state.1.store).2.2.map fun () => (op state.1.store).2.1).mapError .store := rfl

lemma PreservesOnError.saving {op : Store → Store × Pool × Except StoreError Unit} {db : Database}
    (h : ∀ s e, (op s).2.2 = .error e → (op s).1.database = s.database) :
    PreservesOnError (fun c => c.store.database = db) (saving op) := by
  intro state e failed start
  rw [saving_outcome] at failed
  cases hr : (op state.1.store).2.2 with
  | ok _ =>
    rw [hr] at failed
    cases failed
  | error e => exact (h state.1.store e hr).trans start

/-- What a work gives if it succeeds. -/
def Ensures (motive : Classifier → Prop) (w : Work α) (post : α → Prop) : Prop :=
  ∀ state a, (w.run.run state).1 = .ok a → motive state.1 → post a

namespace Ensures

variable {post : Pool → Prop}

lemma bind {w : Work α} {next : α → Work β} {between : α → Prop} {after : β → Prop}
    (h : Ensures motive w between) (hw : Preserves motive w)
    (hnext : ∀ a, between a → Ensures motive (next a) after) :
    Ensures motive (w >>= next) after := by
  intro state b done start
  rw [Outcome.run_bind] at done
  have first := h state
  have kept := hw state start
  split at done
  · next a state' heq =>
    rw [heq] at first kept
    exact hnext a (first a rfl start) state' b done kept
  · cases done

lemma pure {pool : Pool} (h : post pool) : Ensures motive (Pure.pure pool) post := by
  intro state after done _
  cases done
  exact h

lemma classifying {op : Classifier → Classifier × Pool × List Event × Except ClassifierError Unit}
    (h : ∀ c, motive c → post (op c).2.1) : Ensures motive (Work.classifying op) post := by
  intro state pool done start
  have hdone : (((op state.1).2.2.2.map fun () => (op state.1).2.1).mapError
      CommandError.classifier) = .ok pool := done
  obtain ⟨-, -, rfl⟩ := Outcome.map_eq_ok.1 (Outcome.mapError_eq_ok.1 hdone)
  exact h state.1 start

lemma saving {op : Store → Store × Pool × Except StoreError Unit}
    (h : ∀ s, post (op s).2.1) : Ensures motive (Work.saving op) post := by
  intro state pool done _
  rw [saving_outcome] at done
  obtain ⟨-, -, rfl⟩ := Outcome.map_eq_ok.1 (Outcome.mapError_eq_ok.1 done)
  exact h state.1.store

end Ensures

/-- Whether a work succeeds whatever the classifier is. -/
def Succeeds (w : Work α) : Prop := ∀ state, ∃ a, (w.run.run state).1 = .ok a

namespace Succeeds

lemma bind {w : Work α} {next : α → Work β} (h : Succeeds w)
    (hnext : ∀ a, Succeeds (next a)) : Succeeds (w >>= next) := by
  intro state
  obtain ⟨a, ha⟩ := h state
  rw [Outcome.run_bind]
  split
  · next a' state' heq => exact hnext a' state'
  · next heq =>
    rw [heq] at ha
    cases ha

lemma ofExcept {r : Except CommandError α} (h : ∃ a, r = .ok a) : Succeeds (Work.ofExcept r) :=
  fun _ => h

lemma engineName : Succeeds Work.engineName := fun _ => ⟨_, rfl⟩

lemma print (p : Printed) : Succeeds (Work.print p) := fun _ => ⟨(), rfl⟩

lemma forM_print (ps : List Printed) : Succeeds (ps.forM Work.print) := by
  induction ps with
  | nil => exact fun _ => ⟨(), rfl⟩
  | cons p rest ih => exact .bind (.print p) fun _ => ih

end Succeeds

/-! ## Commands -/

/-- The part of a batch command before its report. -/
def handled (around : Surroundings) (customer : String) (path : Path) (save : Bool) : Work Pool := do
  let pool ← ofExcept (transactionsOf around.files path)
  let batch := List.range pool.length
  let pool ← classifying (·.classifyBatch around pool batch customer)
  if save then saving (·.saveTransactions pool batch) else pure pool

/-- The report of a batch command. -/
def reported (customer : String) (pool : Pool) : Work Unit := do
  let summary : Summary := ⟨customer, ← engineName, pool⟩
  print (← ofExcept ((Report.transactions pool s!"Batch for {customer}").mapError .print))
  (← ofExcept ((Report.summary summary).mapError .print)).forM print

lemma classifyBatch_eq (around : Surroundings) (customer : String) (path : Path) (save : Bool) :
    classifyBatch around customer path save =
      handled around customer path save >>= reported customer := by
  cases save <;> simp only [classifyBatch, handled, bind_assoc, if_true, Bool.false_eq_true, if_false]
    <;> rfl

lemma preserves_reported (customer : String) (pool : Pool) :
    Preserves motive (reported customer pool) :=
  .bind .engineName fun _ => .bind (.ofExcept _) fun _ => .bind (.print _) fun _ =>
    .bind (.ofExcept _) fun _ => .forM_print _

/-- Every command keeps the labels of the cached sets. -/
lemma preserves_labelled (around : Surroundings) (command : Command) :
    Preserves Classifier.Labelled (ofCommand around command) := by
  cases command with
  | initDb seed =>
    refine .bind (.store fun _ _ hc => hc) fun _ => .bind .get fun state =>
      .bind (.print _) fun _ => ?_
    split
    · exact .bind (.ofExcept _) fun _ => .bind (.classifier fun c hc => hc) fun _ => .print _
    · exact .pure _
  | rules customer =>
    exact .bind (.classifier fun c hc => (c.keeps_rulesFor around customer).labelled hc) fun _ =>
      .bind (.ofExcept _) fun _ => .print _
  | classify customer t save =>
    have report (pool : Pool) : Preserves Classifier.Labelled (do
        let title := s!"Classified with {← engineName}"
        print (← ofExcept ((Report.transactions pool title).mapError .print))) :=
      .bind .engineName fun _ => .bind (.ofExcept _) fun _ => .print _
    refine .bind (.classifier fun c hc => (c.keeps_classify around [t] 0 customer).labelled hc)
      fun pool => ?_
    cases save
    · exact .bind (.pure _) report
    · exact .bind (.saving fun _ _ hc => hc) report
  | classifyBatch customer path save =>
    rw [ofCommand, classifyBatch_eq]
    refine .bind (.bind (.ofExcept _) fun pool => .bind (.classifier fun c hc => ?_) fun pool => ?_)
      fun _ => preserves_reported _ _
    · exact (c.keeps_classifyBatch around pool _ customer).1.labelled hc
    · split
      · exact .saving fun _ _ hc => hc
      · exact .pure _

/-! ## Batches -/

/-- A batch command that fails before its report changes no stored row. -/
lemma preservesOnError_handled (around : Surroundings) (customer : String) (path : Path) (save : Bool)
    (db : Database) :
    PreservesOnError (fun c => c.store.database = db) (handled around customer path save) := by
  refine .bind (.ofExcept _) fun pool => .bind (.classifier fun c hc => ?_) fun pool' => ?_
  · exact (c.keeps_classifyBatch around pool _ customer).1.database.trans hc
  · cases save
    · exact (Preserves.pure _).onError
    · exact .saving fun s e refused => (Store.saveTransactions_error refused).1

/-- The transactions of a file have no category. -/
lemma category_of_transactionsOf {fs : Files} {path : Path} {pool : Pool}
    (h : transactionsOf fs path = .ok pool) : ∀ t ∈ pool, t.category = .null := by
  obtain ⟨text, -, h⟩ := Outcome.bind_eq_ok.1 h
  obtain ⟨entries, -, h⟩ := Outcome.bind_eq_ok.1 h
  obtain ⟨items, -, h⟩ := Outcome.bind_eq_ok.1 (Outcome.mapError_eq_ok.1 h)
  intro t ht
  obtain ⟨entry, -, h⟩ := Outcome.exists_of_mem_mapM h ht
  obtain ⟨id, -, h⟩ := Outcome.bind_eq_ok.1 h
  obtain ⟨merchant, -, h⟩ := Outcome.bind_eq_ok.1 h
  obtain ⟨other, -, h⟩ := Outcome.bind_eq_ok.1 h
  obtain ⟨merchantType, -, h⟩ := Outcome.bind_eq_ok.1 h
  obtain ⟨amount, -, h⟩ := Outcome.bind_eq_ok.1 h
  obtain ⟨location, -, h⟩ := Outcome.bind_eq_ok.1 h
  rw [← Except.ok.inj h]

/-- Saving changes nothing of a pool but its ids. -/
lemma printable_saveTransactions {pool : Pool} (h : pool.Printable) (s : Store) (batch : List Nat) :
    (s.saveTransactions pool batch).2.1.Printable := by
  unfold Store.saveTransactions
  split
  · next ids written =>
    clear written
    generalize batch.zip ids = entries
    simp only
    induction entries generalizing pool with
    | nil => exact h
    | cons entry rest ih => exact ih (Pool.printable_setId h entry.1 entry.2)
  · exact h

/-- A batch of transactions that can be reported on can be reported on when it is saved. -/
lemma ensures_handled {around : Surroundings} {path : Path}
    (hfile : ∀ pool, transactionsOf around.files path = .ok pool → ∀ t ∈ pool, t.Printable)
    (customer : String) (save : Bool) :
    Ensures Classifier.Labelled (handled around customer path save) Pool.Printable := by
  have read : Ensures Classifier.Labelled (Work.ofExcept (transactionsOf around.files path))
      Pool.Printable := by
    intro state pool done _ t ht
    have hcategory : t.category = .null := category_of_transactionsOf done t ht
    exact ⟨hfile pool done t ht, hcategory ▸ Value.isLabel_null⟩
  refine read.bind (.ofExcept _) fun pool hpool => ?_
  have kept (c : Classifier) := c.keeps_classifyBatch around pool (List.range pool.length) customer
  have classified : Ensures Classifier.Labelled
      (classifying (·.classifyBatch around pool (List.range pool.length) customer))
      Pool.Printable :=
    .classifying fun c labelled => ((kept c).2 labelled).printable hpool
  refine classified.bind (.classifier fun c labelled => (kept c).1.labelled labelled)
    fun after hafter => ?_
  cases save
  · exact .pure hafter
  · exact .saving fun s => printable_saveTransactions hafter s _

/-- The report on transactions that can be reported on does not fail. -/
lemma succeeds_reported {pool : Pool} (h : pool.Printable) (customer : String) :
    Succeeds (reported customer pool) := by
  obtain ⟨table, htable⟩ := Report.exists_transactions h s!"Batch for {customer}"
  refine .bind .engineName fun engine => ?_
  obtain ⟨printed, hprinted⟩ := Report.exists_summary (s := ⟨customer, engine, pool⟩) h
  refine .bind (.ofExcept ⟨table, by rw [htable]; rfl⟩) fun _ => .bind (.print _) fun _ => ?_
  exact .bind (.ofExcept ⟨printed, by rw [hprinted]; rfl⟩) fun _ => .forM_print _

/-- A batch command that fails although its transactions can be reported on changes no stored row. -/
lemma classifyBatch_error {around : Surroundings} {path : Path}
    (hfile : ∀ pool, transactionsOf around.files path = .ok pool → ∀ t ∈ pool, t.Printable)
    (customer : String) (save : Bool) {state : Classifier × List Printed × List Event}
    {e : CommandError} (labelled : state.1.Labelled)
    (failed : ((classifyBatch around customer path save).run.run state).1 = .error e) :
    ((classifyBatch around customer path save).run.run state).2.1.store.database =
      state.1.store.database := by
  rw [classifyBatch_eq, Outcome.run_bind] at failed ⊢
  have kept := preservesOnError_handled around customer path save state.1.store.database state
  have printable := ensures_handled hfile customer save state
  split at failed
  · next pool between heq =>
    rw [heq] at printable
    obtain ⟨_, done⟩ := succeeds_reported (printable pool rfl labelled) customer between
    rw [done] at failed
    cases failed
  · next e' between heq =>
    rw [heq] at kept
    exact kept e' rfl rfl

end Work

end TransactionRules.App
