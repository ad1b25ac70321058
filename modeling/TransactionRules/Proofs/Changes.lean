import TransactionRules.Proofs.Outcome
import TransactionRules.Store.Basic

/-!
# Changes step by step

What a change gives and leaves, one lemma for each way to make one, and what a store makes of it: a
change that is refused leaves the database as it was.
-/

namespace TransactionRules

/-- A new id is above all that were given, and one that a row can have. -/
lemma Table.fresh?_eq_some {α : Type} {t : Table α} {n : Int} (h : t.fresh? = some n) :
    t.last < n ∧ n ≤ greatestId := by
  rw [fresh?] at h
  split at h
  · cases h
    omega
  · cases h

namespace Change

variable {α β : Type}

@[simp] lemma result_pure (a : α) (db : Database) :
    (pure a : Change α).result db = (.ok a, db) := rfl

@[simp] lemma result_throw (e : StoreError) (db : Database) :
    (throw e : Change α).result db = (.error e, db) := rfl

@[simp] lemma result_get (db : Database) : (get : Change Database).result db = (.ok db, db) := rfl

@[simp] lemma result_set (after db : Database) :
    (set after : Change PUnit).result db = (.ok ⟨⟩, after) := rfl

@[simp] lemma result_modify (f : Database → Database) (db : Database) :
    (modify f : Change PUnit).result db = (.ok ⟨⟩, f db) := rfl

@[simp] lemma result_ofExcept (r : Except StoreError α) (db : Database) :
    (ofExcept r).result db = (r, db) := rfl

lemma ofExcept_ok {r : Except StoreError α} {db after : Database} {a : α}
    (h : (ofExcept r).result db = (.ok a, after)) : r = .ok a ∧ db = after := by
  rw [result_ofExcept] at h
  exact Prod.mk.inj h

@[simp] lemma result_bind (act : Change α) (next : α → Change β) (db : Database) :
    (act >>= next).result db =
      match act.result db with
      | (.ok a, db) => (next a).result db
      | (.error e, db) => (.error e, db) := by
  rw [result, Outcome.run_bind, result]
  rcases act.run.run db with ⟨_ | a, db⟩ <;> rfl

@[simp] lemma result_map (f : α → β) (act : Change α) (db : Database) :
    (f <$> act).result db = ((act.result db).1.map f, (act.result db).2) := by
  rw [map_eq_pure_bind, result_bind]
  rcases act.result db with ⟨_ | a, db⟩ <;> rfl

/-- What a change that succeeds did before its last part. -/
lemma result_bind_ok {act : Change α} {next : α → Change β} {db after : Database} {b : β}
    (h : (act >>= next).result db = (.ok b, after)) :
    ∃ a between, act.result db = (.ok a, between) ∧ (next a).result between = (.ok b, after) :=
  Outcome.run_bind_ok h

/-- Where a change that is refused came to its end: in its first part, or behind it. -/
lemma result_bind_error {act : Change α} {next : α → Change β} {db after : Database}
    {e : StoreError} (h : (act >>= next).result db = (.error e, after)) :
    act.result db = (.error e, after) ∨
      ∃ a between, act.result db = (.ok a, between) ∧
        (next a).result between = (.error e, after) := by
  rw [result_bind] at h
  split at h
  · next a between ha => exact .inr ⟨a, between, ha, h⟩
  · next e' between he =>
    cases h
    exact .inl he

lemma atomically_ok {act : Change α} {db after : Database} {a : α}
    (h : act.atomically.result db = (.ok a, after)) : act.result db = (.ok a, after) := by
  change (match act.result db with
    | (.ok a, after) => (.ok a, after)
    | (.error e, _) => (.error e, db) : Except StoreError α × Database) = (.ok a, after) at h
  split at h
  · next eq => rw [eq, h]
  · cases h

lemma atomically_error {act : Change α} {db after : Database} {e : StoreError}
    (h : act.atomically.result db = (.error e, after)) :
    ∃ left, act.result db = (.error e, left) := by
  change (match act.result db with
    | (.ok a, after) => (.ok a, after)
    | (.error e, _) => (.error e, db) : Except StoreError α × Database) = (.error e, after) at h
  split at h
  · cases h
  · next e' left eq =>
    cases h
    exact ⟨left, eq⟩

@[simp] lemma result_atomically (act : Change α) (db : Database) :
    act.atomically.result db =
      match act.result db with
      | (.ok a, after) => (.ok a, after)
      | (.error e, _) => (.error e, db) := rfl

end Change

namespace Store

variable {α : Type} {s s' : Store}

lemma connect_error {e : StoreError} (h : s.connect = (s', .error e)) : s' = s := by
  rw [connect] at h
  split at h <;> cases h
  rfl

lemma connect_ok (h : s.connect = (s', .ok ())) :
    s'.database = s.database ∧ s'.defect = s.defect := by
  rw [connect] at h
  split at h <;> cases h
  exact ⟨rfl, rfl⟩

/-- A statement that changes nothing, does. -/
@[simp] theorem database_read (s : Store) (query : Database → Except StoreError α) :
    (s.read query).1.database = s.database := by
  rw [read]
  split
  · next refused => rw [connect_error refused]
  · next opened => split <;> exact (connect_ok opened).1

lemma read_ok {query : Database → Except StoreError α} {a : α} (h : (s.read query).2 = .ok a) :
    query s.database = .ok a := by
  rw [read] at h
  split at h
  · cases h
  · next opened =>
    split at h
    · cases h
    · rwa [← (connect_ok opened).1]

/-- A store without a defect answers from its database. -/
lemma read_of_sound (sound : s.defect = none) (query : Database → Except StoreError α) :
    s.read query = ({ s with isOpen := true }, query s.database) := by
  simp only [read, connect, sound]

/-- A store without a defect carries out changes, or refuses them, as its database does. -/
lemma write_of_sound (sound : s.defect = none) (act : Change α) :
    s.write act =
      ({ s with isOpen := true, database := (act.atomically.result s.database).2 },
        (act.atomically.result s.database).1) := by
  simp only [write, connect, sound]

/-- A store without a defect refuses what its database refuses. -/
lemma write_error_of_sound (sound : s.defect = none) {act : Change α} {e : StoreError}
    (h : (s.write act).2 = .error e) : ∃ left, act.result s.database = (.error e, left) := by
  rw [write_of_sound sound] at h
  exact Change.atomically_error (Prod.ext h rfl)

/-- A change that is refused leaves the database as it was. -/
theorem database_of_write_error {act : Change α} {e : StoreError}
    (h : s.write act = (s', .error e)) : s'.database = s.database := by
  rw [write] at h
  split at h
  · next refused =>
    cases h
    rw [connect_error refused]
  · next opened =>
    have same := (connect_ok opened).1
    dsimp only at h
    split at h
    · cases h
      exact same
    · cases h
      exact same
    · obtain ⟨rfl, failed⟩ := Prod.mk.inj h
      exact (Change.atomically_of_error failed).trans same

/-- A store that carried a change out has no defect, and has what the change leaves. -/
theorem write_ok {act : Change α} {a : α} (h : s.write act = (s', .ok a)) :
    s'.defect = none ∧ act.result s.database = (.ok a, s'.database) := by
  rw [write] at h
  split at h
  · cases h
  · next opened =>
    have same := (connect_ok opened).1
    dsimp only at h
    split at h
    · cases h
    · cases h
    · next sound _ =>
      obtain ⟨rfl, done⟩ := Prod.mk.inj h
      refine ⟨Option.eq_none_iff_forall_ne_some.mpr fun e defect => sound e a defect done, ?_⟩
      rw [← same]
      exact Change.atomically_ok (Prod.ext done rfl)

end Store

end TransactionRules
