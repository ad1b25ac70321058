import TransactionRules.Proofs.Changes
import TransactionRules.Proofs.Fingerprint
import TransactionRules.Proofs.WholeFloats
import TransactionRules.Store.Archive
import TransactionRules.Store.Transactions

/-!
# Saved batches

Saving a batch puts one row for each transaction, in the order of the batch: under the id that the
transaction has, or under the least id above all that were ever given. Whether all of the batch can
be read back is whether no two of these ids are the same, and they are the same only where a
transaction names the id that one without an id got before it.
-/

namespace TransactionRules

/-! ## What the columns keep -/

lemma Exact.order_self {x : Exact} (h : x ≠ .nan) : x.order x = some .eq := by
  rcases x with _ | negative | ⟨m, e⟩
  · exact absurd rfl h
  · cases negative <;> rfl
  · simp [order, compareScaled]

namespace Value

/-- What a column of texts gives back as it is. -/
def IsColumnText (v : Value) : Prop := v = .null ∨ ∃ s, v = .text s

/-- What a column of reals gives back as it is. -/
def IsColumnReal (v : Value) : Prop := v = .null ∨ ∃ x, v = .float x ∧ Exact.ofFloat x ≠ .nan

/-- What names a row that there may be. -/
def IsRowId (v : Value) : Prop := v = .null ∨ ∃ n, v = .int n ∧ Cell.isWord n

lemma equal_float {x y : Float} (same : Exact.ofFloat x = Exact.ofFloat y)
    (number : Exact.ofFloat y ≠ .nan) : equal (.float x) (.float y) = true := by
  simp [equal, quantity?, same, Exact.order_self number]

end Value

namespace Cell

lemma bind_columnText {v : Value} (h : v.IsColumnText) :
    ∃ c, (∀ position, bind position v = .ok c) ∧ (ofText? c.asText?).equal v = true := by
  obtain rfl | ⟨s, rfl⟩ := h
  · exact ⟨.null, fun _ => rfl, rfl⟩
  · exact ⟨.text s, fun _ => rfl, by simp [ofText?]⟩

lemma bind_columnReal {v : Value} (h : v.IsColumnReal) :
    ∃ c, (∀ position, bind position v = .ok c) ∧ c.asReal.toValue.equal v = true := by
  obtain rfl | ⟨x, rfl, number⟩ := h
  · exact ⟨.null, fun _ => rfl, rfl⟩
  · obtain ⟨y, kept, same⟩ := asReal_real x
    refine ⟨.real x, fun _ => ?_, ?_⟩
    · rw [bind]
      split
      · next nan => exact absurd nan number
      · rfl
    · rw [kept]
      exact Value.equal_float same number

end Cell

namespace Transaction

/-- Whether the columns give each field back as it is. -/
structure Storable (t : Transaction) : Prop where
  merchant : t.merchant.IsColumnText
  merchantType : t.merchantType.IsColumnText
  amount : t.amount.IsColumnReal
  location : t.location.IsColumnText
  category : t.category.IsColumnText
  id : t.id.IsRowId

/-- Two transactions with equal values in each field. -/
def Alike (t u : Transaction) : Prop := ∀ f, (t.get f).equal (u.get f) = true

end Transaction

/-- Whether a row has what a transaction has, whatever the id. -/
def TransactionRow.Keeps (row : TransactionRow) (t : Transaction) : Prop :=
  ∀ n, (row.toTransaction n).Alike { t with id := .int n }

namespace Change

lemma result_bindTransaction {t : Transaction} (h : t.Storable) :
    ∃ row : TransactionRow, row.Keeps t ∧
      ∀ first db, (bindTransaction first t).result db = (.ok row, db) := by
  obtain ⟨merchant, bindMerchant, keptMerchant⟩ := Cell.bind_columnText h.merchant
  obtain ⟨merchantType, bindType, keptType⟩ := Cell.bind_columnText h.merchantType
  obtain ⟨amount, bindAmount, keptAmount⟩ := Cell.bind_columnReal h.amount
  obtain ⟨location, bindLocation, keptLocation⟩ := Cell.bind_columnText h.location
  obtain ⟨category, bindCategory, keptCategory⟩ := Cell.bind_columnText h.category
  refine ⟨.ofCells merchant merchantType amount location category, fun n f => ?_, fun _ _ => ?_⟩
  · cases f with
    | merchant => exact keptMerchant
    | merchantType => exact keptType
    | amount => exact keptAmount
    | location => exact keptLocation
    | category => exact keptCategory
    | id => simp [Transaction.get, TransactionRow.toTransaction]
  · simp [bindTransaction, bindMerchant, bindType, bindAmount, bindLocation, bindCategory,
      Except.map]

/-- The id that a transaction gets in a table: its own, or a new one. -/
def Gets (table : Table TransactionRow) (t : Transaction) (n : Int) : Prop :=
  t.id = .int n ∨ t.id = .null ∧ table.fresh? = some n

/-- Saving puts one row into the table and gives its id. -/
theorem saveTransaction_ok {t : Transaction} (h : t.Storable) {db after : Database} {id : Value}
    (saved : (saveTransaction t).result db = (.ok id, after)) :
    db.created ∧ ∃ n row, id = .int n ∧ Gets db.transactions t n ∧ row.Keeps t ∧
      after = db.putTransaction n row := by
  obtain ⟨row, kept, bound⟩ := result_bindTransaction h
  have created : db.created = true := by
    by_contra missing
    simp [saveTransaction, Database.check, missing] at saved
  refine ⟨created, ?_⟩
  obtain null | ⟨n, given, word⟩ := h.id
  · cases fresh : db.transactions.fresh? with
    | none =>
      simp [saveTransaction, insertTransaction, Database.check, created, null, Value.isNull,
        Cell.bind, bound, fresh] at saved
    | some n =>
      simp [saveTransaction, insertTransaction, Database.check, created, null, Value.isNull,
        Cell.bind, bound, fresh, Except.map] at saved
      exact ⟨n, row, saved.1.symm, .inr ⟨null, fresh⟩, kept, saved.2.symm⟩
  · simp only [saveTransaction, insertTransaction, Database.check, created, given, Value.isNull,
      Cell.bind, bound, word, result_bind, result_get, result_ofExcept, if_true, if_false,
      Bool.false_eq_true, Cell.asId?_int] at saved
    -- updating a row that is there and adding one come to the same
    have put : Value.int n = id ∧ db.putTransaction n row = after := by
      split at saved
      · next m there =>
        obtain rfl := Option.some.inj (Option.eq_some_of_filter_eq_some there)
        simpa [Except.map] using saved
      · simpa [Except.map, bound] using saved
    exact ⟨n, row, put.1.symm, .inl given, kept, put.2.symm⟩

end Change

/-! ## Tables that rows were put into -/

namespace Table

variable {α : Type}

/-- The tables that there may be. -/
inductive Reached : Table α → Prop
  | empty : Reached {}
  | put {t : Table α} (id : Int) (a : α) : Reached t → Reached (t.put id a)
  | erase {t : Table α} (id : Int) : Reached t → Reached (t.erase id)
  | ofRows (last : Int) (rows : List (Int × α)) : Reached (ofRows last rows)

lemma last_put (t : Table α) (id : Int) (a : α) : (t.put id a).last = max t.last id := rfl

lemma last_le_foldl_put (rows : List (Int × α)) (t : Table α) :
    t.last ≤ (rows.foldl (fun t (id, row) => t.put id row) t).last := by
  induction rows generalizing t with
  | nil => exact Int.le_refl _
  | cons r rest ih => exact Int.le_trans (Int.le_max_left ..) (ih (t.put r.1 r.2))

lemma Reached.last_nonneg {t : Table α} (h : t.Reached) : 0 ≤ t.last := by
  induction h with
  | empty => exact Int.le_refl 0
  | put id a _ ih => exact Int.le_trans ih (Int.le_max_left ..)
  | erase id _ ih => exact ih
  | ofRows last rows => exact Int.le_trans (last_le_foldl_put rows default) (Int.le_max_left ..)

end Table

/-- Transactions that were saved one after the other in a table, each with the id it got. -/
inductive Saves : Table TransactionRow → List (Transaction × Int) → Table TransactionRow → Prop
  | nil (table : Table TransactionRow) : Saves table [] table
  | cons {table after : Table TransactionRow} {t : Transaction} {n : Int} {row : TransactionRow}
      {rest : List (Transaction × Int)} (gets : Change.Gets table t n) (kept : row.Keeps t)
      (others : Saves (table.put n row) rest after) : Saves table ((t, n) :: rest) after

namespace Saves

variable {table after : Table TransactionRow} {entries : List (Transaction × Int)}

/-- An id is a transaction's own, or above all ids of the table before. -/
lemma origin (h : Saves table entries after) {t : Transaction} {n : Int} (ht : (t, n) ∈ entries) :
    t.id = .int n ∨ t.id = .null ∧ table.last < n ∧ n ≤ Table.greatestId := by
  induction h with
  | nil => cases ht
  | @cons table after t' n' row rest gets kept others ih =>
    obtain first | later := List.mem_cons.mp ht
    · cases first
      exact gets.imp_right fun ⟨null, fresh⟩ => ⟨null, Table.fresh?_eq_some fresh⟩
    · refine (ih later).imp_right fun ⟨null, above, bound⟩ => ⟨null, ?_, bound⟩
      rw [Table.last_put] at above
      omega

lemma isWord (h : Saves table entries after) (start : 0 ≤ table.last) {t : Transaction} {n : Int}
    (ht : (t, n) ∈ entries) (rowId : t.id.IsRowId) : Cell.isWord n := by
  obtain own | ⟨-, above, bound⟩ := h.origin ht
  · obtain null | ⟨m, given, word⟩ := rowId
    · simp [own] at null
    · cases own.symm.trans given
      exact word
  · simp only [Cell.isWord, Bool.and_eq_true, decide_eq_true_eq]
    unfold Table.greatestId at bound
    omega

/-- The rows of other ids stay. -/
lemma get?_of_not_mem (h : Saves table entries after) {n : Int}
    (other : n ∉ entries.map (·.2)) : after.get? n = table.get? n := by
  induction h with
  | nil => rfl
  | cons gets kept others ih =>
    obtain ⟨ne, rest⟩ := not_or.mp (mt List.mem_cons.mpr other)
    rw [ih rest, Table.get?_put_of_ne _ _ ne]

/-- Where no id is given twice, each transaction has its row. -/
lemma get?_of_nodup (h : Saves table entries after) (distinct : (entries.map (·.2)).Nodup)
    {t : Transaction} {n : Int} (ht : (t, n) ∈ entries) :
    ∃ row : TransactionRow, after.get? n = some row ∧ row.Keeps t := by
  induction h with
  | nil => cases ht
  | @cons table after t' n' row rest gets kept others ih =>
    obtain ⟨new, distinct⟩ := List.nodup_cons.mp distinct
    obtain first | later := List.mem_cons.mp ht
    · cases first
      exact ⟨row, by rw [others.get?_of_not_mem new, Table.get?_put_self], kept⟩
    · exact ih distinct later

/-- An id is given twice only if a transaction names the id that one without an id got before. -/
theorem nodup_iff (h : Saves table entries after)
    (distinct : entries.Pairwise fun a b => a.1.id = .null ∨ a.1.id ≠ b.1.id) :
    (entries.map (·.2)).Nodup ↔
      entries.Pairwise fun a b => a.1.id = .null → b.1.id ≠ .int a.2 := by
  induction h with
  | nil => simp
  | @cons table after t n row rest gets kept others ih =>
    obtain ⟨apart, distinct⟩ := List.pairwise_cons.mp distinct
    rw [List.map_cons, List.nodup_cons, List.pairwise_cons, ih distinct]
    refine and_congr_left' ?_
    have step : ∀ b ∈ rest, n ≠ b.2 ↔ (t.id = .null → b.1.id ≠ .int n) := by
      rintro ⟨u, m⟩ hu
      obtain own | ⟨null, above, -⟩ := others.origin hu
      · obtain given | ⟨null, -⟩ := gets
        · have : n ≠ m := by
            simpa [given, own] using apart _ hu
          simp [given, this]
        · simp [null, own, eq_comm]
      · rw [Table.last_put] at above
        simp only [null, ne_eq, reduceCtorEq, not_false_eq_true, implies_true, iff_true]
        omega
    rw [← forall₂_congr step, ← List.forall_mem_map (P := fun m => n ≠ m), List.forall_mem_ne]

end Saves

/-! ## Pools -/

namespace Pool

@[simp] lemma length_setId (pool : Pool) (i : Nat) (id : Value) :
    (pool.setId i id).length = pool.length := by
  simp [setId]

lemma get_setId_of_ne (pool : Pool) {i j : Nat} (id : Value) (h : i ≠ j) :
    (pool.setId i id).get j = pool.get j := by
  simp [setId, get, List.getD_eq_getElem?_getD, h]

lemma get_setId_self {pool : Pool} {i : Nat} (id : Value) (h : i < pool.length) :
    (pool.setId i id).get i = { pool.get i with id := id } := by
  simp [setId, get, List.getD_eq_getElem?_getD, h]

/-- A pool in which some transactions got ids. -/
def setIds (pool : Pool) (entries : List (Nat × Value)) : Pool :=
  entries.foldl (fun pool (position, id) => pool.setId position id) pool

lemma get_setIds_of_not_mem {pool : Pool} {entries : List (Nat × Value)} {i : Nat}
    (h : i ∉ entries.map (·.1)) : (pool.setIds entries).get i = pool.get i := by
  induction entries generalizing pool with
  | nil => rfl
  | cons e rest ih =>
    obtain ⟨ne, others⟩ := not_or.mp (mt List.mem_cons.mpr h)
    exact (ih others).trans (get_setId_of_ne pool e.2 (Ne.symm ne))

lemma get_setIds {pool : Pool} {entries : List (Nat × Value)}
    (distinct : (entries.map (·.1)).Nodup) (inRange : ∀ e ∈ entries, e.1 < pool.length)
    {i : Nat} {id : Value} (h : (i, id) ∈ entries) :
    (pool.setIds entries).get i = { pool.get i with id := id } := by
  induction entries generalizing pool with
  | nil => cases h
  | cons e rest ih =>
    obtain ⟨new, distinct⟩ := List.nodup_cons.mp distinct
    obtain ⟨first, inRest⟩ := List.forall_mem_cons.mp inRange
    obtain rfl | later := List.mem_cons.mp h
    · exact (get_setIds_of_not_mem new).trans (get_setId_self id first)
    · have ne : e.1 ≠ i := fun eq => new (List.mem_map.mpr ⟨_, later, eq.symm⟩)
      refine (ih distinct (by simpa using inRest) later).trans ?_
      rw [get_setId_of_ne pool e.2 ne]

end Pool

namespace Store

/-- The transactions of a pool with ids that they got. -/
def given (pool : Pool) (entries : List (Nat × Int)) : List (Transaction × Int) :=
  entries.map fun (position, id) => (pool.get position, id)

/-- A run of saving, step by step. -/
lemma result_saveTransactions {pool : Pool} {batch : List Nat}
    (storable : ∀ p ∈ batch, (pool.get p).Storable) {db after : Database} {ids : List Value}
    (saved : (batch.mapM fun p => Change.saveTransaction (pool.get p)).result db =
      (.ok ids, after)) :
    ∃ entries : List (Nat × Int), entries.map (·.1) = batch ∧ entries.map (Value.int ·.2) = ids ∧
      Saves db.transactions (given pool entries) after.transactions ∧
      after.created = db.created ∧ (batch ≠ [] → db.created) := by
  induction batch generalizing db ids with
  | nil =>
    rw [List.mapM_nil, Change.result_pure] at saved
    cases saved
    exact ⟨[], rfl, rfl, .nil _, rfl, fun h => absurd rfl h⟩
  | cons p rest ih =>
    rw [List.mapM_cons] at saved
    obtain ⟨id, between, first, saved⟩ := Change.result_bind_ok saved
    obtain ⟨later, db', others, saved⟩ := Change.result_bind_ok saved
    cases saved
    obtain ⟨hp, hrest⟩ := List.forall_mem_cons.mp storable
    obtain ⟨created, n, row, rfl, gets, kept, rfl⟩ := Change.saveTransaction_ok hp first
    obtain ⟨entries, rfl, rfl, saves, same, -⟩ := ih hrest others
    exact ⟨(p, n) :: entries, rfl, rfl, .cons gets kept saves, same, fun _ => created⟩

/-- What saving a batch comes to: each transaction got an id, and its row was put under it. -/
structure SavedAs (s s' : Store) (pool pool' : Pool) (entries : List (Nat × Int)) : Prop where
  got : ∀ e ∈ entries, pool'.get e.1 = { pool.get e.1 with id := .int e.2 }
  saves : Saves s.database.transactions (given pool entries) s'.database.transactions
  sound : s'.defect = none
  created : entries ≠ [] → s'.database.created

lemma saveTransactions_ok {s s' : Store} {pool pool' : Pool} {batch : List Nat}
    (distinct : batch.Nodup) (inRange : ∀ p ∈ batch, p < pool.length)
    (storable : ∀ p ∈ batch, (pool.get p).Storable)
    (saved : s.saveTransactions pool batch = (s', pool', .ok ())) :
    ∃ entries, entries.map (·.1) = batch ∧ SavedAs s s' pool pool' entries := by
  rw [saveTransactions] at saved
  split at saved
  · next after ids written =>
    obtain ⟨rfl, rfl⟩ : after = s' ∧ pool.setIds (batch.zip ids) = pool' := by
      simpa [Pool.setIds] using saved
    obtain ⟨sound, ran⟩ := write_ok written
    obtain ⟨entries, rfl, rfl, saves, same, created⟩ := result_saveTransactions storable ran
    refine ⟨entries, rfl, fun e he => ?_, saves, sound, fun nonempty =>
      same.trans (created (mt List.map_eq_nil_iff.mp nonempty))⟩
    rw [List.zip_map']
    refine Pool.get_setIds ?_ ?_ (List.mem_map_of_mem he)
    · simpa [List.map_map, Function.comp_def] using distinct
    · exact List.forall_mem_map.mpr fun e he => inRange _ (List.mem_map_of_mem he)
  · simp at saved

/-- Whether each transaction of a batch can be read back by its id, and no two have one id. -/
structure HasWhole (s : Store) (pool : Pool) (batch : List Nat) : Prop where
  distinct : (batch.map fun p => (pool.get p).id).Nodup
  readable : ∀ p ∈ batch, ∃ t, (s.transaction? (pool.get p).id).2 = .ok (some t) ∧
    t.Alike (pool.get p)

/-- A stored row is read by its id. -/
lemma transaction?_of_get? {s : Store} {n : Int} {row : TransactionRow} (sound : s.defect = none)
    (created : s.database.created) (word : Cell.isWord n)
    (h : s.database.transactions.get? n = some row) :
    (s.transaction? (.int n)).2 = .ok (some (row.toTransaction n)) := by
  simp [transaction?, read, connect, sound, Database.check, created, Cell.bind, word, h]

/-- A batch can be read back whole where no id was given twice. -/
lemma SavedAs.hasWhole_iff {s s' : Store} {pool pool' : Pool} {entries : List (Nat × Int)}
    (h : SavedAs s s' pool pool' entries) (reached : s.database.transactions.Reached)
    (storable : ∀ e ∈ entries, (pool.get e.1).Storable) :
    s'.HasWhole pool' (entries.map (·.1)) ↔ ((given pool entries).map (·.2)).Nodup := by
  have ids : (entries.map (·.1)).map (fun p => (pool'.get p).id) =
      ((given pool entries).map (·.2)).map Value.int := by
    rw [given, List.map_map, List.map_map, List.map_map]
    exact List.map_congr_left fun e he => congrArg Transaction.id (h.got e he)
  constructor
  · intro whole
    exact (ids ▸ whole.distinct).of_map
  · intro nodup
    refine ⟨ids ▸ nodup.map fun _ _ => Value.int.inj, List.forall_mem_map.mpr fun e he => ?_⟩
    have mem : (pool.get e.1, e.2) ∈ given pool entries := List.mem_map_of_mem he
    have word := h.saves.isWord reached.last_nonneg mem (storable e he).id
    obtain ⟨row, there, kept⟩ := h.saves.get?_of_nodup nodup mem
    rw [h.got e he]
    exact ⟨_, transaction?_of_get? h.sound (h.created (List.ne_nil_of_mem he)) word there, kept e.2⟩

/-- A saved batch can be read back whole if and only if none of its transactions has the id that one
without an id, earlier in the batch, got. -/
theorem saveTransactions_whole_iff {s s' : Store} {pool pool' : Pool} {batch : List Nat}
    (reached : s.database.transactions.Reached) (distinct : batch.Nodup)
    (inRange : ∀ p ∈ batch, p < pool.length) (storable : ∀ p ∈ batch, (pool.get p).Storable)
    (apart : batch.Pairwise fun p q =>
      (pool.get p).id = .null ∨ (pool.get p).id ≠ (pool.get q).id)
    (saved : s.saveTransactions pool batch = (s', pool', .ok ())) :
    s'.HasWhole pool' batch ↔
      batch.Pairwise fun p q => (pool.get p).id = .null → (pool.get q).id ≠ (pool'.get p).id := by
  obtain ⟨entries, rfl, as⟩ := saveTransactions_ok distinct inRange storable saved
  have apart : (given pool entries).Pairwise fun a b => a.1.id = .null ∨ a.1.id ≠ b.1.id := by
    simpa [given, List.pairwise_map] using apart
  rw [as.hasWhole_iff reached fun e he => storable e.1 (List.mem_map_of_mem he),
    as.saves.nodup_iff apart, given, List.pairwise_map, List.pairwise_map]
  exact List.Pairwise.iff_of_mem fun he _ => by rw [as.got _ he]

/-- The transaction that names an id before another gets a new one: both can be read back. -/
theorem saveTransactions_whole_iff_named_first :
    let s : Store := { path := "store.db", database := { created := true } }
    let pool : Pool := [{ merchant := .text "a", id := .int 1 }, { merchant := .text "b" }]
    let pool' : Pool :=
      [{ merchant := .text "a", id := .int 1 }, { merchant := .text "b", id := .int 2 }]
    ∃ s', s.saveTransactions pool [0, 1] = (s', pool', .ok ()) ∧ s'.HasWhole pool' [0, 1] := by
  intro s pool pool'
  have saved : s.saveTransactions pool [0, 1] =
      ((s.saveTransactions pool [0, 1]).1, pool', .ok ()) := rfl
  refine ⟨_, saved, (saveTransactions_whole_iff .empty ?_ ?_ ?_ ?_ saved).mpr ?_⟩
  · decide
  · decide
  · simp only [List.forall_mem_cons, List.not_mem_nil, false_imp_iff, implies_true, and_true]
    exact ⟨⟨.inr ⟨"a", rfl⟩, .inl rfl, .inl rfl, .inl rfl, .inl rfl, .inr ⟨1, rfl, rfl⟩⟩,
      ⟨.inr ⟨"b", rfl⟩, .inl rfl, .inl rfl, .inl rfl, .inl rfl, .inl rfl⟩⟩
  · simp [pool, Pool.get]
  · simp [pool, Pool.get]

/-- The transaction that names an id after another got it as a new one overwrites the other. -/
theorem saveTransactions_overwrites :
    let s : Store := { path := "store.db", database := { created := true } }
    let pool : Pool := [{ merchant := .text "a" }, { merchant := .text "b", id := .int 1 }]
    let pool' : Pool :=
      [{ merchant := .text "a", id := .int 1 }, { merchant := .text "b", id := .int 1 }]
    s.database.transactions.Reached ∧ (∀ p ∈ [0, 1], (pool.get p).Storable) ∧
      [0, 1].Pairwise (fun p q => (pool.get p).id = .null ∨ (pool.get p).id ≠ (pool.get q).id) ∧
      ∃ s', s.saveTransactions pool [0, 1] = (s', pool', .ok ()) ∧ ¬ s'.HasWhole pool' [0, 1] := by
  intro s pool pool'
  have saved : s.saveTransactions pool [0, 1] =
      ((s.saveTransactions pool [0, 1]).1, pool', .ok ()) := rfl
  refine ⟨.empty, ?_, by simp [pool, Pool.get], _, saved, fun whole => ?_⟩
  · simp only [List.forall_mem_cons, List.not_mem_nil, false_imp_iff, implies_true, and_true]
    exact ⟨⟨.inr ⟨"a", rfl⟩, .inl rfl, .inl rfl, .inl rfl, .inl rfl, .inl rfl⟩,
      ⟨.inr ⟨"b", rfl⟩, .inl rfl, .inl rfl, .inl rfl, .inl rfl, .inr ⟨1, rfl, rfl⟩⟩⟩
  · simpa [pool', Pool.get] using whole.distinct

end Store

end TransactionRules
