import TransactionRules.Proofs.RefusedWrites
import TransactionRules.Proofs.SavedBatches
import TransactionRules.Proofs.StoredRules

/-!
# Saved transactions

Saving a transaction puts one row into the table: under the id that the transaction has, or under an
id that no table before ever had. No table on the way to this one has a row above the greatest id
that was given (`Store.Leads`), so a new id is new to all of them. The row can be read back, it is
the only one of its id, and saving the transaction again puts the same row into the same place.
-/

namespace TransactionRules

/-! ## Rows of a table -/

namespace Table

variable {α : Type}

/-- An id has the row that is found under it, and no other. -/
lemma filter_rows_eq (t : Table α) (id : Int) :
    t.rows.filter (·.1 == id) = (t.get? id).toList.map (id, ·) := by
  have hrows : ∀ rows : List (Int × α), rows.Pairwise (·.1 < ·.1) →
      rows.filter (·.1 == id) = (rows.lookup id).toList.map (id, ·) := by
    intro rows hrows
    induction rows with
    | nil => rfl
    | cons r rest ih =>
      obtain ⟨above, hrest⟩ := List.pairwise_cons.mp hrows
      obtain ⟨key, a⟩ := r
      by_cases hkey : key = id
      · subst hkey
        have hnone : rest.filter (·.1 == key) = [] := by
          refine List.filter_eq_nil_iff.mpr fun r hr same => ?_
          have := above r hr
          have := beq_iff_eq.mp same
          omega
        rw [List.filter_cons_of_pos (by simp), hnone, List.lookup_cons_self]
        rfl
      · rw [List.filter_cons_of_neg (by simp [hkey]), ih hrest, List.lookup_cons,
          beq_false_of_ne (Ne.symm hkey)]
  exact hrows t.rows t.ordered

/-- The rows of other ids stay where they are. -/
lemma filter_rows_put (t : Table α) (id : Int) (a : α) :
    (t.put id a).rows.filter (·.1 != id) = t.rows.filter (·.1 != id) := by
  have hplace : ∀ rows : List (Int × α),
      (place id a rows).filter (·.1 != id) = rows.filter (·.1 != id) := by
    intro rows
    induction rows with
    | nil => simp [place]
    | cons r rest ih =>
      rw [place]
      split_ifs with hlt heq
      · simp
      · subst heq
        simp
      · rw [List.filter_cons, List.filter_cons, ih]
  exact hplace t.rows

lemma place_place (id : Int) (a : α) (rows : List (Int × α)) :
    place id a (place id a rows) = place id a rows := by
  induction rows with
  | nil => simp [place]
  | cons r rest ih =>
    rw [place]
    split_ifs with hlt heq
    · simp [place]
    · simp [place]
    · rw [place, if_neg hlt, if_neg heq, ih]

/-- Putting a row where it is changes nothing. -/
lemma put_put (t : Table α) (id : Int) (a : α) : (t.put id a).put id a = t.put id a := by
  simp only [put, Table.mk.injEq]
  exact ⟨place_place id a t.rows, by omega⟩

end Table

lemma Database.putTransaction_putTransaction (db : Database) (id : Int) (row : TransactionRow) :
    (db.putTransaction id row).putTransaction id row = db.putTransaction id row := by
  simp [putTransaction, Table.put_put]

lemma Pool.setId_setId (pool : Pool) (position : Nat) (id : Value) :
    (pool.setId position id).setId position id = pool.setId position id := by
  refine List.ext_getElem? fun i => ?_
  rcases eq_or_ne position i with rfl | other
  · simp [setId, Function.comp_def]
  · simp [setId, other]

/-! ## Greatest ids -/

namespace Change

variable {α β : Type}

/-- Whatever a change does, the greatest id of a transaction does not go down. -/
def Climbs (act : Change α) : Prop :=
  ∀ db, db.transactions.last ≤ (act.result db).2.transactions.last

lemma Climbs.bind {act : Change α} {next : α → Change β} (first : act.Climbs)
    (rest : ∀ a, (next a).Climbs) : (act >>= next).Climbs := by
  intro db
  have hfirst := first db
  rw [result_bind]
  rcases hact : act.result db with ⟨_ | a, between⟩ <;> rw [hact] at hfirst
  · exact hfirst
  · exact hfirst.trans (rest a between)

lemma climbs_ofExcept (r : Except StoreError α) : (ofExcept r).Climbs := fun _ => le_rfl

lemma climbs_pure (a : α) : (pure a : Change α).Climbs := fun _ => le_rfl

lemma climbs_get : (get : Change Database).Climbs := fun _ => le_rfl

lemma climbs_put (id : Int) (row : TransactionRow) :
    (modify (·.putTransaction id row) : Change PUnit).Climbs := fun _ => le_max_left ..

lemma climbs_bindTransaction (first : Nat) (t : Transaction) : (bindTransaction first t).Climbs :=
  (climbs_ofExcept _).bind fun _ => (climbs_ofExcept _).bind fun _ =>
    (climbs_ofExcept _).bind fun _ => (climbs_ofExcept _).bind fun _ =>
      (climbs_ofExcept _).bind fun _ => climbs_pure _

lemma climbs_insertTransaction (t : Transaction) : (insertTransaction t).Climbs := by
  refine (climbs_ofExcept _).bind fun cell => (climbs_bindTransaction 2 t).bind fun row => ?_
  have hput (id : Int) : (do
      modify (·.putTransaction id row)
      return (.int id : Value) : Change Value).Climbs :=
    (climbs_put id row).bind fun _ => climbs_pure _
  cases cell with
  | null => exact climbs_get.bind fun db => (climbs_ofExcept _).bind hput
  | int n => exact (climbs_ofExcept _).bind hput
  | real x => exact (climbs_ofExcept _).bind hput
  | text s => exact (climbs_ofExcept _).bind hput

lemma climbs_saveTransaction (t : Transaction) : (saveTransaction t).Climbs := by
  refine climbs_get.bind fun db => (climbs_ofExcept _).bind fun _ => ?_
  split_ifs
  · exact climbs_insertTransaction t
  · refine (climbs_bindTransaction 1 t).bind fun row => (climbs_ofExcept _).bind fun cell => ?_
    refine climbs_get.bind fun db => ?_
    split
    · exact (climbs_put _ row).bind fun _ => climbs_pure _
    · exact climbs_insertTransaction t

lemma climbs_mapM {γ : Type} {f : γ → Change α} (h : ∀ x, (f x).Climbs) (xs : List γ) :
    (xs.mapM f).Climbs := by
  induction xs with
  | nil =>
    rw [List.mapM_nil]
    exact climbs_pure _
  | cons x rest ih =>
    rw [List.mapM_cons]
    exact (h x).bind fun _ => ih.bind fun _ => climbs_pure _

/-! ## What saving does -/

/-- Where a transaction gets an id, saving puts its row there. -/
lemma result_saveTransaction {t : Transaction} {row : TransactionRow} {db : Database} {n : Int}
    (bound : ∀ first db, (bindTransaction first t).result db = (.ok row, db)) (rowId : t.id.IsRowId)
    (created : db.created) (gets : Gets db.transactions t n) :
    (saveTransaction t).result db = (.ok (.int n), db.putTransaction n row) := by
  rcases gets with given | ⟨null, fresh⟩
  · have word : Cell.isWord n := by
      rcases rowId with null | ⟨m, hm, word⟩
      · cases given.symm.trans null
      · cases given.symm.trans hm
        exact word
    cases there : db.transactions.contains n <;>
      simp [saveTransaction, insertTransaction, Database.check, created, given, Value.isNull,
        Cell.bind, word, bound, Option.filter, there, Except.map]
  · simp [saveTransaction, insertTransaction, Database.check, created, null, Value.isNull,
      Cell.bind, bound, fresh, Except.map]

end Change

namespace Store

/-! ## Stores on the way -/

variable {s s' : Store}

/-- The stores that a store may come to: transactions are saved, alone or in a batch, carried out or
refused, rows are removed, and whatever else is done leaves the transactions as they are. -/
inductive Leads (s : Store) : Store → Prop
  | refl : Leads s s
  | save {s' : Store} (pool : Pool) (position : Nat) :
      Leads s s' → Leads s (s'.saveTransaction pool position).1
  | saveBatch {s' : Store} (pool : Pool) (batch : List Nat) :
      Leads s s' → Leads s (s'.saveTransactions pool batch).1
  | remove {s' s'' : Store} (id : Int) : Leads s s' →
      s''.database.transactions = s'.database.transactions.erase id → Leads s s''
  | other {s' s'' : Store} : Leads s s' →
      s''.database.transactions = s'.database.transactions → Leads s s''

lemma last_le_write {α : Type} {act : Change α} (climbs : act.Climbs) (s : Store) :
    s.database.transactions.last ≤ (s.write act).1.database.transactions.last := by
  rcases written : s.write act with ⟨after, e | a⟩
  · rw [database_of_write_error written]
  · have ran := (write_ok written).2
    have climbed := climbs s.database
    rwa [ran] at climbed

lemma saveTransaction_fst (s : Store) (pool : Pool) (position : Nat) :
    (s.saveTransaction pool position).1 =
      (s.write (Change.saveTransaction (pool.get position))).1 := by
  rw [saveTransaction]
  split
  · next written => rw [written]
  · next written => rw [written]

lemma saveTransactions_fst (s : Store) (pool : Pool) (batch : List Nat) :
    (s.saveTransactions pool batch).1 =
      (s.write (batch.mapM fun p => Change.saveTransaction (pool.get p))).1 := by
  rw [saveTransactions]
  split
  · next written => rw [written]
  · next written => rw [written]

/-- On no way does the greatest id go down, whatever is removed. -/
theorem Leads.last_le (h : s.Leads s') :
    s.database.transactions.last ≤ s'.database.transactions.last := by
  induction h with
  | refl => exact le_rfl
  | @save s' pool position _ ih =>
    rw [saveTransaction_fst]
    exact ih.trans (last_le_write (Change.climbs_saveTransaction _) s')
  | @saveBatch s' pool batch _ ih =>
    rw [saveTransactions_fst]
    exact ih.trans (last_le_write (Change.climbs_mapM (fun _ => Change.climbs_saveTransaction _) _) s')
  | remove id _ same ih => exact same ▸ ih
  | other _ same ih => exact same ▸ ih

/-- A new id is one that no store on the way has a row under. -/
lemma Leads.get?_fresh (h : s.Leads s') {n : Int}
    (fresh : s'.database.transactions.fresh? = some n) :
    s.database.transactions.get? n = none := by
  refine Option.eq_none_iff_forall_ne_some.mpr fun row there => ?_
  have below : n ≤ s.database.transactions.last := Table.le_last_of_get? there
  have above : s'.database.transactions.last < n := (Table.fresh?_eq_some fresh).1
  have climbed := h.last_le
  omega

/-! ## One transaction -/

/-- What saving a transaction of a pool comes to if its id is `n` then. -/
structure SavedUnder (s s' : Store) (pool pool' : Pool) (position : Nat) (n : Int) : Prop where
  /-- The transaction has the id, and nothing else of the pool is changed. -/
  object : pool' = pool.setId position (.int n)
  /-- It had the id before, or had none and gets one that no row ever had. -/
  origin : (pool.get position).id = .int n ∨ (pool.get position).id = .null ∧
    ∀ earlier : Store, earlier.Leads s → earlier.database.transactions.get? n = none
  readable : ∃ t, (s'.transaction? (pool'.get position).id).2 = .ok (some t) ∧
    t.Alike (pool'.get position)
  single : (s'.database.transactions.rows.filter (·.1 == n)).length = 1
  others : s'.database.transactions.rows.filter (·.1 != n) =
    s.database.transactions.rows.filter (·.1 != n)
  rest : s'.database = { s.database with transactions := s'.database.transactions }
  /-- Saving it again changes neither the store nor the pool. -/
  again : s'.saveTransaction pool' position = (s', pool', .ok ())

lemma defect_write {α : Type} (s : Store) (act : Change α) : (s.write act).1.defect = s.defect := by
  rw [write]
  split
  · next refused => rw [connect_error refused]
  · next opened =>
    have same := (connect_ok opened).2
    dsimp only
    split <;> exact same

/-- A transaction that is saved was given an id, in a store that has its tables. -/
lemma saveTransaction_gets {pool pool' : Pool} {position : Nat}
    (storable : (pool.get position).Storable)
    (saved : s.saveTransaction pool position = (s', pool', .ok ())) :
    s.defect = none ∧ s.database.created ∧
      ∃ n, Change.Gets s.database.transactions (pool.get position) n := by
  rw [saveTransaction] at saved
  split at saved
  · next after id written =>
    obtain ⟨sound, ran⟩ := write_ok written
    obtain ⟨created, n, -, -, gets, -⟩ := Change.saveTransaction_ok storable ran
    have same := defect_write s (Change.saveTransaction (pool.get position))
    rw [written] at same
    exact ⟨same.symm.trans sound, created, n, gets⟩
  · cases saved

/-- Where a transaction gets an id, its row is put there, whatever was there. -/
lemma saveTransaction_of_gets {pool : Pool} {position : Nat} {row : TransactionRow} {n : Int}
    (bound : ∀ first db, (Change.bindTransaction first (pool.get position)).result db = (.ok row, db))
    (rowId : (pool.get position).id.IsRowId) (sound : s.defect = none)
    (created : s.database.created)
    (gets : Change.Gets s.database.transactions (pool.get position) n) :
    s.saveTransaction pool position =
      ({ s with isOpen := true, database := s.database.putTransaction n row },
        pool.setId position (.int n), .ok ()) := by
  rw [saveTransaction, write_of_sound sound, Change.result_atomically,
    Change.result_saveTransaction bound rowId created gets]

lemma isWord_of_gets {t : Transaction} {n : Int} (reached : s.database.transactions.Reached)
    (rowId : t.id.IsRowId) (gets : Change.Gets s.database.transactions t n) : Cell.isWord n := by
  obtain given | ⟨-, fresh⟩ := gets
  · obtain null | ⟨m, hm, word⟩ := rowId
    · cases given.symm.trans null
    · cases given.symm.trans hm
      exact word
  · have := reached.last_nonneg
    obtain ⟨above, bound⟩ := Table.fresh?_eq_some fresh
    simp only [Cell.isWord, Bool.and_eq_true, decide_eq_true_eq]
    unfold Table.greatestId at bound
    omega

/-- Saving a transaction puts its row under the id that it has, or under one that no row ever had,
where it is the only row and can be read back; all else stays, and saving it again changes nothing.
It is refused only by a store without tables, or if no new id is left. -/
theorem saveTransaction_upserts {pool : Pool} {position : Nat}
    (reached : s.database.transactions.Reached) (inRange : position < pool.length)
    (storable : (pool.get position).Storable) :
    ((s.saveTransaction pool position).2.2 = .ok () ↔
      s.defect = none ∧ s.database.created ∧
        ((pool.get position).id = .null → s.database.transactions.last < Table.greatestId)) ∧
    ∀ s' pool', s.saveTransaction pool position = (s', pool', .ok ()) →
      ∃ n, SavedUnder s s' pool pool' position n := by
  obtain ⟨row, kept, bound⟩ := Change.result_bindTransaction storable
  refine ⟨⟨fun ok => ?_, fun ⟨sound, created, room⟩ => ?_⟩, fun s' pool' saved => ?_⟩
  · obtain ⟨sound, created, n, gets⟩ :=
      saveTransaction_gets storable (Prod.ext rfl (Prod.ext rfl ok))
    refine ⟨sound, created, fun null => ?_⟩
    obtain given | ⟨-, fresh⟩ := gets
    · cases given.symm.trans null
    · obtain ⟨above, bound⟩ := Table.fresh?_eq_some fresh
      omega
  · have gets : ∃ n, Change.Gets s.database.transactions (pool.get position) n := by
      obtain null | ⟨n, given, -⟩ := storable.id
      · exact ⟨_, .inr ⟨null, if_pos (room null)⟩⟩
      · exact ⟨n, .inl given⟩
    obtain ⟨n, gets⟩ := gets
    rw [saveTransaction_of_gets bound storable.id sound created gets]
  · obtain ⟨sound, created, n, gets⟩ := saveTransaction_gets storable saved
    have word := isWord_of_gets reached storable.id gets
    have done := saveTransaction_of_gets bound storable.id sound created gets
    rw [saved] at done
    obtain ⟨rfl, rfl⟩ : s' = _ ∧ pool' = _ := by simpa using done
    have object := Pool.get_setId_self (.int n) inRange
    have there := Table.get?_put_self s.database.transactions n row
    refine ⟨n, rfl, ?_, ⟨row.toTransaction n, ?_, ?_⟩, ?_, Table.filter_rows_put .., rfl, ?_⟩
    · exact gets.imp_right fun ⟨null, fresh⟩ => ⟨null, fun _ leads => leads.get?_fresh fresh⟩
    · rw [object]
      exact transaction?_of_get? sound created word there
    · rw [object]
      exact kept n
    · dsimp only [Database.putTransaction]
      rw [Table.filter_rows_eq, there]
      rfl
    · have given : ((pool.setId position (.int n)).get position).id = .int n := by rw [object]
      have bound' : ∀ first db,
          (Change.bindTransaction first ((pool.setId position (.int n)).get position)).result db =
            (.ok row, db) := by
        rw [object]
        exact bound
      refine (saveTransaction_of_gets bound' (.inr ⟨n, given, word⟩) ?_ ?_ (.inl given)).trans ?_
      · exact sound
      · exact created
      · rw [Pool.setId_setId, Database.putTransaction_putTransaction]

/-- A transaction without an id gets the one behind the id that another named. -/
theorem saveTransaction_upserts_behind_named :
    let start : Store := { path := "store.db", database := { created := true } }
    let pool : Pool := [{ merchant := .text "a", id := .int 5 }, { merchant := .text "b" }]
    let pool' : Pool :=
      [{ merchant := .text "a", id := .int 5 }, { merchant := .text "b", id := .int 6 }]
    let s := (start.saveTransaction pool 0).1
    s.database.transactions.Reached ∧ (pool.get 1).Storable ∧
      ∃ s', s.saveTransaction pool 1 = (s', pool', .ok ()) ∧ SavedUnder s s' pool pool' 1 6 := by
  intro start pool pool' s
  have reached : s.database.transactions.Reached := .put 5 _ .empty
  have storable : (pool.get 1).Storable :=
    ⟨.inr ⟨"b", rfl⟩, .inl rfl, .inl rfl, .inl rfl, .inl rfl, .inl rfl⟩
  have saved : s.saveTransaction pool 1 = ((s.saveTransaction pool 1).1, pool', .ok ()) := rfl
  obtain ⟨n, under⟩ := (saveTransaction_upserts reached (by decide) storable).2 _ _ saved
  have six : n = 6 := by
    have := under.object
    simpa [pool, pool', Pool.setId, eq_comm] using this
  exact ⟨reached, storable, _, saved, six ▸ under⟩

end Store
end TransactionRules
