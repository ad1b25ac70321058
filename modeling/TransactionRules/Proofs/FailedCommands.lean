import TransactionRules.Proofs.CommandWork

/-!
# Commands that fail

A batch command that ends with a failure has not changed the database, whatever failed: its words, the
preparation, the file, the classification or the saving. There is one exception. The batch is saved
before its report is made, so the rows are there when the report finds a field that it cannot print.
That what is printed can also be laid out is taken for granted.
-/

namespace TransactionRules.App

/-- What the application has stored, or would find before its first command. -/
def stored (app : App) : Database :=
  match app.classifier with
  | some c => c.store.database
  | none => app.found

def Labelled (app : App) : Prop := ∀ c, app.classifier = some c → c.Labelled

/-- What the preparation of a command leaves alone. -/
structure Keeps (app app' : App) : Prop where
  stored : app'.stored = app.stored
  labelled : app.Labelled → app'.Labelled

variable {app : App}

lemma keeps_of_classifier {app' : App} (hclassifier : app'.classifier = app.classifier)
    (hfound : app'.found = app.found) : app.Keeps app' := by
  constructor
  · unfold App.stored
    rw [hclassifier, hfound]
  · intro labelled c hc
    exact labelled c (hclassifier ▸ hc)

lemma keeps_setupLogging (app : App) (verbose : Bool) (settings : Value) :
    app.Keeps (app.setupLogging verbose settings).1 := by
  unfold setupLogging
  simp only
  split <;> exact keeps_of_classifier rfl rfl

lemma Keeps.trans {app' app'' : App} (h : app.Keeps app') (h' : app'.Keeps app'') :
    app.Keeps app'' :=
  ⟨h'.stored.trans h.stored, h'.labelled ∘ h.labelled⟩

/-- The classifier that is made has the rows that were found, and no sets yet. -/
lemma keeps_setupClassifier (hnone : app.classifier = none) (clock : Clock) (engine : Option Engine)
    (settings : Value) : app.Keeps (app.setupClassifier clock engine settings).1 := by
  unfold setupClassifier
  split
  · exact keeps_of_classifier rfl rfl
  · next path _ =>
    split
    · exact keeps_of_classifier rfl rfl
    · next files store hstore =>
      have hfound : store.database = app.found := by
        obtain ⟨folder, -, hstore⟩ := Outcome.bind_eq_ok.1 hstore
        rw [← (Prod.mk.inj (Except.ok.inj hstore)).2]
      simp only
      split
      · exact keeps_of_classifier rfl rfl
      · constructor
        · simp only [App.stored, hnone]
          exact hfound
        · intro _ c hc cache hcache customer set hset
          obtain rfl := Option.some.inj hc
          obtain rfl := Option.some.inj hcache
          cases hset

lemma keeps_prepare (app : App) (clock : Clock) (engine : Option Engine) (verbose : Bool) :
    app.Keeps (app.prepare clock engine verbose).1 := by
  unfold prepare
  split
  · exact keeps_of_classifier rfl rfl
  · next settings _ =>
    have hlogging := app.keeps_setupLogging verbose settings
    have hsame : (app.setupLogging verbose settings).1.classifier = app.classifier := by
      unfold setupLogging
      simp only
      split <;> rfl
    split
    · next heq => rwa [heq] at hlogging
    · next app' heq =>
      rw [heq] at hlogging hsame
      split
      · exact hlogging
      · next hnone =>
        exact hlogging.trans (keeps_setupClassifier (by simpa using hnone) clock engine settings)

/-- Programs that come from new ones by command lines, between which the files and the stored rows
may be edited. -/
inductive Reached : App → Prop
  | start (around : Surroundings) (logging : Logging) (registry : Registry) (found : Database) :
      Reached { around := around, logging := logging, registry := registry, found := found }
  | run {app : App} (h : Reached app) (clock : Clock) (words : List String) :
      Reached (app.run clock words).1
  | edit {app : App} (h : Reached app) (around : Surroundings) (store : Store → Store) :
      Reached { app with
        around := around
        classifier := app.classifier.map fun c => { c with store := store c.store } }

/-- What a command leaves, and how it ends, is what its work does. -/
lemma carryOut_spec {c : Classifier} (h : app.classifier = some c) (clock : Clock) (verbose : Bool)
    (command : Command) :
    (app.carryOut clock verbose command).1.classifier =
        some ((Work.ofCommand app.around command).run.run (c, [], [])).2.1 ∧
      ((app.carryOut clock verbose command).2.2.status ≠ 0 →
        ∃ e, ((Work.ofCommand app.around command).run.run (c, [], [])).1 = .error e) := by
  unfold carryOut
  rw [h]
  simp only
  generalize (Work.ofCommand app.around command).run.run (c, [], []) = outcome
  obtain ⟨r, c', printed, events⟩ := outcome
  cases r with
  | ok _ => exact ⟨rfl, fun failed => absurd rfl failed⟩
  | error e => exact ⟨rfl, fun _ => ⟨e, rfl⟩⟩

lemma labelled_carryOut (h : app.Labelled) (clock : Clock) (verbose : Bool) (command : Command) :
    (app.carryOut clock verbose command).1.Labelled := by
  cases hc : app.classifier with
  | none => rwa [show app.carryOut clock verbose command = (app, [], .done) by simp [carryOut, hc]]
  | some c =>
    intro c' hc'
    rw [(carryOut_spec hc clock verbose command).1] at hc'
    obtain rfl := Option.some.inj hc'
    exact Work.preserves_labelled app.around command (c, [], []) (h c hc)

lemma Reached.labelled (h : app.Reached) : app.Labelled := by
  induction h with
  | start around logging registry found => exact fun c hc => nomatch hc
  | @run app _ clock words ih =>
    unfold App.run
    split
    · exact ih
    · exact ih
    · next i _ =>
      have hprepare := app.keeps_prepare clock i.engine i.verbose
      split
      · next heq =>
        rw [heq] at hprepare
        exact hprepare.labelled ih
      · next app' heq =>
        rw [heq] at hprepare
        split
        · exact hprepare.labelled ih
        · exact hprepare.labelled ih
        · exact labelled_carryOut (hprepare.labelled ih) clock i.verbose _
  | edit _ around store ih =>
    intro c hc
    obtain ⟨c', hc', rfl⟩ := Option.map_eq_some_iff.1 hc
    exact ih c' hc'

/-- A batch that fails although its transactions can be printed leaves the database as it was. -/
lemma stored_carryOut (h : app.Labelled) {path : Path}
    (printable : ∀ pool, Work.transactionsOf app.around.files path = .ok pool →
      ∀ t ∈ pool, t.Printable)
    {clock : Clock} {verbose save : Bool} {customer : String}
    (failed : (app.carryOut clock verbose (.classifyBatch customer path save)).2.2.status ≠ 0) :
    (app.carryOut clock verbose (.classifyBatch customer path save)).1.stored = app.stored := by
  cases hc : app.classifier with
  | none => simp [carryOut, hc]
  | some c =>
    obtain ⟨hclassifier, herror⟩ :=
      carryOut_spec hc clock verbose (.classifyBatch customer path save)
    obtain ⟨e, he⟩ := herror failed
    simp only [stored, hclassifier, hc]
    exact Work.classifyBatch_error printable customer save (h c hc) he

/-- The transactions of the file that a command line names for a batch, if it is a batch. -/
def NamesBatch (app : App) (clock : Clock) (words : List String) (pool : Pool) : Prop :=
  ∃ i customer path save, Invocation.ofWords words = .ok i ∧
    let files := (app.prepare clock i.engine i.verbose).1.around.files
    Command.ofWords files i.command i.words = .ok (.classifyBatch customer path save) ∧
      Work.transactionsOf files path = .ok pool

/-- The words behind the name of the batch command ask for a batch, if for anything. -/
lemma exists_batch {fs : Files} {words : List String} {command : Command}
    (h : Command.ofWords fs "classify-batch" words = .ok command) :
    ∃ customer path save, command = .classifyBatch customer path save := by
  obtain ⟨a, -, h⟩ := Outcome.bind_eq_ok.1 h
  split_ifs at h
  · cases h
  · replace h : Command.ofArguments fs "classify-batch" a = .ok command := Outcome.mapError_eq_ok.1 h
    unfold Command.ofArguments at h
    split at h
    · next other _ => exact absurd other (by decide)
    · next other _ => exact absurd other (by decide)
    · next other _ => exact absurd other (by decide)
    · next customer file _ _ =>
      obtain ⟨path, -, h⟩ := Outcome.bind_eq_ok.1 h
      exact ⟨customer, path, a.has "save", (Except.ok.inj h).symm⟩
    · split at h <;> cases h

/-- A program with an engine, whose database has the tables and no rows, beside a file. -/
def prepared (text : String) : App :=
  let files : Files := { files := [(["b.json"], text)] }
  let registry : Registry := ⟨[(.text "forward_chaining", .engine .forwardChaining)]⟩
  let app : App := { around := { files := files }, registry := registry, found := default }
  (app.run ⟨"", ""⟩ ["init-db", "--no-seed"]).1

lemma reached_prepared (text : String) : (prepared text).Reached := .run (.start _ _ _ _) _ _

def batchWords : List String := ["classify-batch", "demo", "b.json", "--save"]

end TransactionRules.App
