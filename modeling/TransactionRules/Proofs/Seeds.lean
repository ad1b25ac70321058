import TransactionRules.Proofs.Fingerprint
import TransactionRules.Proofs.MissingCategories
import TransactionRules.Store.Seed

/-!
# Seeding twice

Each entry of a plan is looked for among the rows that are there when its turn comes, those of the
entries before it included, and is added behind them if it is not found. So a customer gets at most
one rule of each name, and a plan that was carried out has nothing to add the second time.
-/

namespace TransactionRules

/-! ## Rows at the end of a table -/

namespace Table

variable {α : Type} {id : Int}

lemma place_of_lt {rows : List (Int × α)} (h : ∀ r ∈ rows, r.1 < id) (a : α) :
    place id a rows = rows ++ [(id, a)] := by
  induction rows with
  | nil => rfl
  | cons r rest ih =>
    have hr : r.1 < id := h r List.mem_cons_self
    have hrest := ih fun q hq => h q (List.mem_cons_of_mem r hq)
    rw [place, if_neg hr.not_gt, if_neg hr.ne', hrest, List.cons_append]

/-- A row under a new id is the last one. -/
lemma rows_put_fresh {t : Table α} (h : t.fresh? = some id) (a : α) :
    (t.put id a).rows = t.rows ++ [(id, a)] :=
  place_of_lt (fun r hr => (t.bounded r hr).trans_lt (fresh?_eq_some h).1) a

end Table

namespace Database

/-- How many rules of a name a customer has. -/
def rulesNamed (db : Database) (customer name : String) : Nat :=
  db.rules.rows.countP fun (_, row) => row.customer == customer && row.name == name

/-- What seeding does to a database that is given rules for some customers, each under a name: rows are
added behind those that were there, `n` of them rules, and a name is added for a customer once, unless
the customer has a rule of that name. -/
structure Seeded (before after : Database) (named : List (String × String)) (n : Nat) : Prop where
  created : after.created = before.created
  categories : before.categories.rows <+: after.categories.rows
  rules : before.rules.rows <+: after.rules.rows
  count : after.rules.rows.length = before.rules.rows.length + n
  transactions : after.transactions = before.transactions
  rulesNamed customer name : after.rulesNamed customer name =
    if (customer, name) ∈ named then max 1 (before.rulesNamed customer name)
    else before.rulesNamed customer name

/-- A category of a name is there. -/
def HasCategory (db : Database) (name : String) : Prop := ∃ r ∈ db.categories.rows, r.2.name = name

namespace Seeded

variable {db db' db'' : Database} {named named' : List (String × String)} {m n : Nat}

lemma refl (db : Database) : Seeded db db [] 0 where
  created := rfl
  categories := List.prefix_refl _
  rules := List.prefix_refl _
  count := rfl
  transactions := rfl
  rulesNamed _ _ := rfl

lemma trans (h : Seeded db db' named m) (h' : Seeded db' db'' named' n) :
    Seeded db db'' (named ++ named') (m + n) where
  created := h'.created.trans h.created
  categories := h.categories.trans h'.categories
  rules := h.rules.trans h'.rules
  count := by rw [h'.count, h.count, Nat.add_assoc]
  transactions := h'.transactions.trans h.transactions
  rulesNamed customer name := by
    rw [h'.rulesNamed, h.rulesNamed]
    by_cases hfirst : (customer, name) ∈ named <;> by_cases hlater : (customer, name) ∈ named' <;>
      simp [hfirst, hlater]

/-- A rule that a customer has under its name need not be added. -/
lemma found {customer name : String} (h : db.rulesNamed customer name ≠ 0) :
    Seeded db db [(customer, name)] 0 := by
  refine { refl db with rulesNamed := fun customer' name' => ?_ }
  split_ifs with hmem
  · obtain ⟨rfl, rfl⟩ := Prod.mk.inj (List.mem_singleton.1 hmem)
    omega
  · rfl

lemma putCategory {id : Int} (hid : db.categories.fresh? = some id) (row : CategoryRow) :
    Seeded db { db with categories := db.categories.put id row } [] 0 :=
  { refl db with categories := ⟨_, (Table.rows_put_fresh hid row).symm⟩ }

lemma putRule {id : Int} (hid : db.rules.fresh? = some id) {row : RuleRow}
    (hnew : db.rulesNamed row.customer row.name = 0) :
    Seeded db { db with rules := db.rules.put id row } [(row.customer, row.name)] 1 := by
  have hrows := Table.rows_put_fresh hid row
  refine { refl db with
    rules := ⟨_, hrows.symm⟩
    count := by rw [hrows, List.length_append, List.length_singleton]
    rulesNamed := fun customer name => ?_ }
  rw [Database.rulesNamed, hrows, List.countP_append, List.countP_singleton, ← Database.rulesNamed]
  by_cases hrow : row.customer = customer ∧ row.name = name
  · obtain ⟨rfl, rfl⟩ := hrow
    simp [hnew]
  · have hother : ¬ (customer = row.customer ∧ name = row.name) := fun h => hrow ⟨h.1.symm, h.2.symm⟩
    simp [hrow, hother]

lemma rulesNamed_ne_zero (h : Seeded db db' named n) {p : String × String} (hp : p ∈ named) :
    db'.rulesNamed p.1 p.2 ≠ 0 := by
  rw [h.rulesNamed, if_pos hp]
  omega

lemma hasCategory (h : Seeded db db' named n) {name : String} (hthere : db.HasCategory name) :
    db'.HasCategory name := by
  obtain ⟨r, hr, hname⟩ := hthere
  exact ⟨r, h.categories.subset hr, hname⟩

end Seeded

end Database

/-! ## What the store finds and adds -/

lemma CategoryRow.name_of_ofCells {name description : Cell} {row : CategoryRow}
    (h : CategoryRow.ofCells name description = .ok row) : name.asText? = some row.name := by
  obtain ⟨text, htext, h⟩ := Outcome.bind_eq_ok.1 h
  obtain ⟨description, -, h⟩ := Outcome.bind_eq_ok.1 h
  cases h
  exact required_ok htext

namespace Change

variable {db after : Database} {id : Int}

/-- A category that is added is a row of its name, under a new id. -/
lemma insertCategory_ok {c : Category} {name : String} (hname : c.name = .text name)
    (h : (insertCategory c).result db = (.ok id, after)) :
    ∃ row : CategoryRow, row.name = name ∧ db.categories.fresh? = some id ∧
      after = { db with categories := db.categories.put id row } := by
  obtain ⟨_, db₁, h₁, h⟩ := result_bind_ok h
  cases h₁
  obtain ⟨_, db₂, h₂, h⟩ := result_bind_ok h
  obtain ⟨-, rfl⟩ := ofExcept_ok h₂
  obtain ⟨cell, db₃, h₃, h⟩ := result_bind_ok h
  obtain ⟨hcell, rfl⟩ := ofExcept_ok h₃
  obtain ⟨description, db₄, h₄, h⟩ := result_bind_ok h
  obtain ⟨-, rfl⟩ := ofExcept_ok h₄
  obtain ⟨_, db₅, h₅, h⟩ := result_bind_ok h
  cases h₅
  split at h
  · cases h
  next id hid =>
  obtain ⟨row, db₆, h₆, h⟩ := result_bind_ok h
  obtain ⟨hrow, rfl⟩ := ofExcept_ok h₆
  obtain ⟨_, db₇, h₇, h⟩ := result_bind_ok h
  cases h₇
  obtain ⟨put, db₈, h₈, h⟩ := result_bind_ok h
  obtain ⟨hput, rfl⟩ := ofExcept_ok h₈
  obtain ⟨_, db₉, h₉, h⟩ := result_bind_ok h
  cases h₉
  cases h
  rw [hname] at hcell
  cases hcell
  rw [Database.putCategory] at hput
  split_ifs at hput
  cases hput
  exact ⟨row, (Option.some.inj (CategoryRow.name_of_ofCells hrow)).symm, hid, rfl⟩

/-- A rule that is added gives its customer one more rule of its name. -/
lemma seeded_insertRule {r : Rule} {customer name : String} (hcustomer : r.customer = .text customer)
    (hname : r.name = .text name) (hnew : db.rulesNamed customer name = 0)
    (h : (insertRule r).result db = (.ok id, after)) : db.Seeded after [(customer, name)] 1 := by
  obtain ⟨c, row, hc, hrow, hid, rfl⟩ := insertRule_ok h
  have hnameCell : Cell.bind 1 (.text name) = .ok c.name := hname ▸ hc.name
  have hcustomerCell : Cell.bind 5 (.text customer) = .ok c.customer := hcustomer ▸ hc.customer
  obtain ⟨⟨hrowName, -, -, hrowCustomer⟩, -⟩ := RuleCells.row_ok hrow
  rw [← Except.ok.inj hnameCell] at hrowName
  rw [← Except.ok.inj hcustomerCell] at hrowCustomer
  cases hrowName
  cases hrowCustomer
  exact .putRule hid hnew

end Change

namespace Store

/-- The store works, and its tables are there. -/
structure Ready (s : Store) : Prop where
  sound : s.defect = none
  created : s.database.created = true

namespace Ready

variable {s s' : Store}

lemma of_seeded (h : s.Ready) (sound : s'.defect = none) {named : List (String × String)} {n : Nat}
    (hseeded : s.database.Seeded s'.database named n) : s'.Ready :=
  ⟨sound, hseeded.created.trans h.created⟩

lemma check (h : s.Ready) (table : String) : s.database.check table = .ok () := if_pos h.created

lemma categoryNamed? (h : s.Ready) (name : String) :
    s.categoryNamed? (.text name) = ({ s with isOpen := true },
      .ok ((s.database.categories.rows.find? (·.2.name == name)).map fun (id, row) =>
        row.toCategory id)) := by
  rw [Store.categoryNamed?, read_of_sound h.sound, h.check, Option.map_eq_bind]
  rfl

/-- Whether one of the rules of a customer has a name is whether the customer has rules of that
name. -/
lemma rulesOf (h : s.Ready) (customer : String) :
    ∃ rules, s.rulesOf (.text customer) = ({ s with isOpen := true }, .ok rules) ∧ ∀ name,
      rules.any (·.name.equal (.text name)) = decide (s.database.rulesNamed customer name ≠ 0) := by
  rw [Store.rulesOf, read_of_sound h.sound, h.check]
  refine ⟨_, rfl, fun name => ?_⟩
  rw [Bool.eq_iff_iff, decide_eq_true_iff, Database.rulesNamed, ← Nat.pos_iff_ne_zero,
    List.countP_pos_iff]
  simp [RuleRow.toRule, and_assoc]

end Ready

/-- A store that gives something made of what it wrote has no defect, and has what was written. -/
lemma write_map_ok {α β : Type} {s s' : Store} (act : Change α) {f : α → β} {b : β}
    (h : ((s.write act).1, (s.write act).2.map f) = (s', .ok b)) :
    s'.defect = none ∧ ∃ a, act.result s.database = (.ok a, s'.database) := by
  obtain ⟨rfl, hmap⟩ := Prod.mk.inj h
  obtain ⟨a, ha, -⟩ := Outcome.map_eq_ok.1 hmap
  exact (write_ok (Prod.ext rfl ha)).imp_right fun hresult => ⟨a, hresult⟩

end Store

/-! ## Plans -/

/-- What an entry has under a key, if anything, is a text. -/
def Value.TextAt (v : Value) (key : String) : Prop := ∀ w, v.require key = .ok w → w.IsText

namespace Seeding

/-- What a plan lists under a key, or why it lists nothing. -/
def entries (plan : Value) (key : String) : Except ShapeError (List Value) := do
  ((← plan.get? key).getD (.list [])).elements

def listed (plan : Value) (key : String) : List Value := (entries plan key).toOption.getD []

/-- The customer and the name of a rule's entry. -/
def pair? (v : Value) : Option (String × String) :=
  match v.require "customer_id", v.require "name" with
  | .ok (.text customer), .ok (.text name) => some (customer, name)
  | _, _ => none

lemma pair?_eq_some {v : Value} {customer name : String} (h : pair? v = some (customer, name)) :
    v.require "customer_id" = .ok (.text customer) ∧ v.require "name" = .ok (.text name) := by
  unfold pair? at h
  split at h
  · next hcustomer hname =>
    cases h
    exact ⟨hcustomer, hname⟩
  · cases h

/-- The customers and the names of the rules that a plan lists. -/
def pairs (plan : Value) : List (String × String) := (listed plan "rules").filterMap pair?

/-- The names in a plan, and the customers of its rules, are texts. -/
structure Texts (plan : Value) : Prop where
  categoryName : ∀ v ∈ listed plan "categories", v.TextAt "name"
  ruleName : ∀ v ∈ listed plan "rules", v.TextAt "name"
  customer : ∀ v ∈ listed plan "rules", v.TextAt "customer_id"

/-- All that a plan lists is there: categories by their names, rules by their names within a
customer. -/
structure Present (plan : Value) (db : Database) : Prop where
  categories : entries plan "categories" = .ok (listed plan "categories")
  rules : entries plan "rules" = .ok (listed plan "rules")
  hasCategory : ∀ v ∈ listed plan "categories",
    ∃ name, v.require "name" = .ok (.text name) ∧ db.HasCategory name
  hasRule : ∀ v ∈ listed plan "rules", ∃ p, pair? v = some p ∧ db.rulesNamed p.1 p.2 ≠ 0

end Seeding

/-! ## Seeding step by step -/

namespace Seeding

variable {α β : Type} {s s' : Store} {v : Value}

/-- What work on a store gives, and the store that it leaves. -/
def result (act : Seeding α) (s : Store) : Except SeedError α × Store := act.run.run s

/-- What work that succeeds did before its last part. -/
lemma result_bind_ok {act : Seeding α} {next : α → Seeding β} {b : β}
    (h : (act >>= next).result s = (.ok b, s')) :
    ∃ a between, act.result s = (.ok a, between) ∧ (next a).result between = (.ok b, s') :=
  Outcome.run_bind_ok h

lemma shape_ok {r : Except ShapeError α} {a : α} (h : (shape r).result s = (.ok a, s')) :
    r = .ok a ∧ s = s' :=
  (Prod.mk.inj h).imp_left Outcome.mapError_eq_ok.1

lemma key_ok {w : Value} (h : (key v).result s = (.ok w, s')) : v = w ∧ s = s' := by
  unfold key at h
  split_ifs at h <;> cases h
  exact ⟨rfl, rfl⟩

lemma entry_ok {name : String} {other w : Value} (h : (entry v name other).result s = (.ok w, s')) :
    s = s' := by
  obtain ⟨_, between, h₁, h⟩ := result_bind_ok h
  obtain ⟨-, rfl⟩ := shape_ok h₁
  cases h
  rfl

lemma store_eq_ok {op : Store → Store × Except StoreError α} {a : α} :
    (store op).result s = (.ok a, s') ↔ op s = (s', .ok a) := by
  constructor
  · intro h
    obtain ⟨ha, hs⟩ := Prod.mk.inj h
    exact Prod.ext hs (Outcome.mapError_eq_ok.1 ha)
  · intro h
    show ((op s).2.mapError SeedError.store, (op s).1) = _
    rw [h, Outcome.ok_mapError]

/-! ### What an entry adds -/

/-- The entry of a category is carried out: no rule is added, and a category of its name is there. -/
lemma category_ok (hs : s.Ready) (htext : v.TextAt "name") {c : Category}
    (h : (category v).result s = (.ok c, s')) :
    s'.defect = none ∧ s.database.Seeded s'.database [] 0 ∧
      ∃ name, v.require "name" = .ok (.text name) ∧ s'.database.HasCategory name := by
  unfold category at h
  obtain ⟨w, _, h₁, h⟩ := result_bind_ok h
  obtain ⟨hw, rfl⟩ := shape_ok h₁
  obtain ⟨name, rfl⟩ := htext w hw
  obtain ⟨found, _, h₂, h⟩ := result_bind_ok h
  have hfound := store_eq_ok.1 h₂
  rw [hs.categoryNamed?] at hfound
  obtain ⟨rfl, hfound⟩ := Prod.mk.inj hfound
  cases hfind : s.database.categories.rows.find? (·.2.name == name) with
  | some r =>
    rw [hfind] at hfound
    cases hfound
    cases h
    exact ⟨hs.sound, .refl _, name, hw, r, List.mem_of_find?_eq_some hfind,
      by simpa using List.find?_some hfind⟩
  | none =>
    rw [hfind] at hfound
    cases hfound
    obtain ⟨description, _, h₃, h⟩ := result_bind_ok h
    cases entry_ok h₃
    obtain ⟨hsound, id, hinsert⟩ := Store.write_map_ok (Change.insertCategory _) (store_eq_ok.1 h)
    obtain ⟨row, hrow, hid, hafter⟩ := Change.insertCategory_ok rfl hinsert
    rw [hafter]
    refine ⟨hsound, .putCategory hid row, name, hw, (id, row), ?_, hrow⟩
    rw [Table.rows_put_fresh hid]
    exact List.mem_append_right _ (List.mem_singleton_self _)

/-- The category that the entry of a rule names, if there is one. -/
def categoryOf (known : List Category) (named : Value) : Seeding (Option Category) :=
  match known.reverse.find? (·.name.equal named) with
  | some c => pure (some c)
  | none => store (·.categoryNamed? named)

/-- Adds the rule of an entry under its category. -/
def add (v customer name named : Value) (found : Option Category) : Seeding Bool :=
  match found with
  | none => throw (.unknownCategory name named)
  | some c => do
    let condition ← shape (v.require "condition")
    let priority ← entry v "priority" (.int 0)
    let active ← entry v "active" (.bool true)
    let _ ← store (·.saveRule
      { name := name, condition := condition, priority := priority, customer := customer
        category := some c, active := active })
    return true

lemma rule_eq (known : List Category) (v : Value) :
    rule known v = (do
      let customer ← shape (v.require "customer_id")
      let present ← store (·.rulesOf customer)
      let name ← key (← shape (v.require "name"))
      if present.any (·.name.equal name) then return false
      let named ← key (← shape (v.require "category"))
      add v customer name named (← categoryOf known named)) := by
  unfold rule categoryOf
  refine bind_congr fun customer => bind_congr fun present => bind_congr fun w =>
    bind_congr fun name => ?_
  split_ifs
  · rfl
  refine bind_congr fun w' => bind_congr fun named => ?_
  cases known.reverse.find? (·.name.equal named) <;> rfl

/-- A category is looked for without a change. -/
lemma categoryOf_ok {known : List Category} {found : Option Category}
    (h : (categoryOf known v).result s = (.ok found, s')) : s'.database = s.database := by
  unfold categoryOf at h
  split at h
  · cases h
    rfl
  · have hread := congrArg (·.1.database) (store_eq_ok.1 h)
    dsimp only at hread
    rw [← hread, Store.categoryNamed?, Store.database_read]

lemma add_ok {customer name : String} (hnew : s.database.rulesNamed customer name = 0) {named : Value}
    {found : Option Category} {added : Bool}
    (h : (add v (.text customer) (.text name) named found).result s = (.ok added, s')) :
    s'.defect = none ∧ s.database.Seeded s'.database [(customer, name)] added.toNat := by
  cases found with
  | none => cases h
  | some c =>
    obtain ⟨condition, _, h₁, h⟩ := result_bind_ok h
    obtain ⟨-, rfl⟩ := shape_ok h₁
    obtain ⟨priority, _, h₂, h⟩ := result_bind_ok h
    cases entry_ok h₂
    obtain ⟨active, _, h₃, h⟩ := result_bind_ok h
    cases entry_ok h₃
    obtain ⟨saved, _, h₄, h⟩ := result_bind_ok h
    obtain ⟨hsound, id, hinsert⟩ := Store.write_map_ok (Change.insertRule _) (store_eq_ok.1 h₄)
    cases h
    exact ⟨hsound, Change.seeded_insertRule rfl rfl hnew hinsert⟩

/-- The entry of a rule is carried out: the rule is added if its customer has none of its name. -/
lemma rule_ok (hs : s.Ready) (hname : v.TextAt "name") (hcustomer : v.TextAt "customer_id")
    {known : List Category} {added : Bool} (h : (rule known v).result s = (.ok added, s')) :
    s'.defect = none ∧ ∃ p, pair? v = some p ∧ s.database.Seeded s'.database [p] added.toNat := by
  rw [rule_eq] at h
  obtain ⟨w, _, h₁, h⟩ := result_bind_ok h
  obtain ⟨hw, rfl⟩ := shape_ok h₁
  obtain ⟨customer, rfl⟩ := hcustomer w hw
  obtain ⟨present, _, h₂, h⟩ := result_bind_ok h
  obtain ⟨rules, hrules, hany⟩ := hs.rulesOf customer
  cases hrules.symm.trans (store_eq_ok.1 h₂)
  obtain ⟨w', _, h₃, h⟩ := result_bind_ok h
  obtain ⟨hw', rfl⟩ := shape_ok h₃
  obtain ⟨name, rfl⟩ := hname w' hw'
  obtain ⟨_, _, h₄, h⟩ := result_bind_ok h
  obtain ⟨rfl, rfl⟩ := key_ok h₄
  have hpair : pair? v = some (customer, name) := by rw [pair?, hw, hw']
  rw [hany name] at h
  split_ifs at h with hfound
  · cases h
    exact ⟨hs.sound, _, hpair, .found (of_decide_eq_true hfound)⟩
  -- from here to the write nothing changes, so the name is still free when the row is put
  have hnew : s.database.rulesNamed customer name = 0 := by simpa using hfound
  obtain ⟨named, _, h₅, h⟩ := result_bind_ok h
  obtain ⟨-, rfl⟩ := shape_ok h₅
  obtain ⟨_, _, h₆, h⟩ := result_bind_ok h
  obtain ⟨rfl, rfl⟩ := key_ok h₆
  obtain ⟨found, between, h₇, h⟩ := result_bind_ok h
  have hsame := categoryOf_ok h₇
  obtain ⟨hsound, hseeded⟩ := add_ok (hsame ▸ hnew) h
  exact ⟨hsound, _, hpair, hsame ▸ hseeded⟩

/-! ### A plan that is carried out -/

lemma categories_ok {items : List Value} (hs : s.Ready) (htext : ∀ v ∈ items, v.TextAt "name")
    {known : List Category} (h : (items.mapM category).result s = (.ok known, s')) :
    s'.Ready ∧ s.database.Seeded s'.database [] 0 ∧
      ∀ v ∈ items, ∃ name, v.require "name" = .ok (.text name) ∧ s'.database.HasCategory name := by
  induction items generalizing s known with
  | nil =>
    cases h
    exact ⟨hs, .refl _, fun v hv => absurd hv List.not_mem_nil⟩
  | cons v rest ih =>
    rw [List.mapM_cons] at h
    obtain ⟨c, between, h₁, h⟩ := result_bind_ok h
    obtain ⟨others, _, h₂, h⟩ := result_bind_ok h
    cases h
    obtain ⟨hv, hrest⟩ := List.forall_mem_cons.1 htext
    obtain ⟨hsound, hfirst, name, hname, hthere⟩ := category_ok hs hv h₁
    obtain ⟨hready, hlater, hall⟩ := ih (hs.of_seeded hsound hfirst) hrest h₂
    -- what the first entry found or added outlasts the later ones
    exact ⟨hready, hfirst.trans hlater,
      List.forall_mem_cons.2 ⟨⟨name, hname, hlater.hasCategory hthere⟩, hall⟩⟩

lemma rules_ok {items : List Value} (hs : s.Ready) (hname : ∀ v ∈ items, v.TextAt "name")
    (hcustomer : ∀ v ∈ items, v.TextAt "customer_id") {known : List Category} {added : List Bool}
    (h : (items.mapM (rule known)).result s = (.ok added, s')) :
    s'.Ready ∧ s.database.Seeded s'.database (items.filterMap pair?) (added.count true) ∧
      ∀ v ∈ items, ∃ p, pair? v = some p := by
  induction items generalizing s added with
  | nil =>
    cases h
    exact ⟨hs, .refl _, fun v hv => absurd hv List.not_mem_nil⟩
  | cons v rest ih =>
    rw [List.mapM_cons] at h
    obtain ⟨first, between, h₁, h⟩ := result_bind_ok h
    obtain ⟨others, _, h₂, h⟩ := result_bind_ok h
    cases h
    obtain ⟨hvName, hrestName⟩ := List.forall_mem_cons.1 hname
    obtain ⟨hvCustomer, hrestCustomer⟩ := List.forall_mem_cons.1 hcustomer
    obtain ⟨hsound, p, hp, hfirst⟩ := rule_ok hs hvName hvCustomer h₁
    obtain ⟨hready, hlater, hall⟩ := ih (hs.of_seeded hsound hfirst) hrestName hrestCustomer h₂
    have hcount : (first :: others).count true = first.toNat + others.count true := by
      cases first <;> simp [Nat.add_comm]
    rw [List.filterMap_cons_some hp, hcount]
    exact ⟨hready, hfirst.trans hlater, List.forall_mem_cons.2 ⟨⟨p, hp⟩, hall⟩⟩

lemma plan_eq (plan : Value) :
    Seeding.plan plan = (do
      let known ← (← shape (entries plan "categories")).mapM category
      let added ← (← shape (entries plan "rules")).mapM (rule known)
      return added.count true) := by
  have hlist (name : String) (next : List Value → Seeding Nat) :
      (do
        let v ← entry plan name (.list [])
        let items ← shape v.elements
        next items) = (do
        let items ← shape (entries plan name)
        next items) := by
    unfold entries entry
    cases plan.get? name <;> rfl
  unfold Seeding.plan
  rw [hlist]
  refine bind_congr fun items => bind_congr fun known => ?_
  exact hlist ..

lemma listed_eq {plan : Value} {name : String} {items : List Value} (h : entries plan name = .ok items) :
    listed plan name = items := by
  rw [listed, h]
  rfl

/-- What carrying out a plan does, entry by entry. -/
lemma plan_ok {plan : Value} (hs : s.Ready) (htexts : Texts plan) {n : Nat}
    (h : (Seeding.plan plan).result s = (.ok n, s')) :
    s'.Ready ∧ s.database.Seeded s'.database (pairs plan) n ∧ Present plan s'.database := by
  rw [plan_eq] at h
  obtain ⟨_, _, h₁, h⟩ := result_bind_ok h
  obtain ⟨hcategories, rfl⟩ := shape_ok h₁
  obtain rfl := listed_eq hcategories
  obtain ⟨known, between, h₂, h⟩ := result_bind_ok h
  obtain ⟨_, _, h₃, h⟩ := result_bind_ok h
  obtain ⟨hrules, rfl⟩ := shape_ok h₃
  obtain rfl := listed_eq hrules
  obtain ⟨added, _, h₄, h⟩ := result_bind_ok h
  cases h
  obtain ⟨hbetween, hfirst, hthere⟩ := categories_ok hs htexts.categoryName h₂
  obtain ⟨hready, hlater, hpairs⟩ := rules_ok hbetween htexts.ruleName htexts.customer h₄
  have hseeded : s.database.Seeded s'.database (pairs plan) (added.count true) := by
    simpa [pairs] using hfirst.trans hlater
  refine ⟨hready, hseeded, hcategories, hrules, fun v hv => ?_, fun v hv => ?_⟩
  · obtain ⟨name, hname, h⟩ := hthere v hv
    exact ⟨name, hname, hlater.hasCategory h⟩
  · obtain ⟨p, hp⟩ := hpairs v hv
    exact ⟨p, hp, hseeded.rulesNamed_ne_zero (List.mem_filterMap.2 ⟨v, hv, hp⟩)⟩

/-! ### A plan with nothing to add -/

/-- Work that succeeds with something wanted, and leaves the rows of a database as they are. -/
def Idles (act : Seeding α) (db : Database) (wanted : α → Prop) : Prop :=
  ∀ s : Store, s.Ready → s.database = db →
    ∃ a s', act.result s = (.ok a, s') ∧ s'.Ready ∧ s'.database = db ∧ wanted a

namespace Idles

variable {db : Database} {wanted : α → Prop} {wanted' : β → Prop}

lemma pure {a : α} (h : wanted a) : Idles (Pure.pure a) db wanted :=
  fun s hs hdb => ⟨a, s, rfl, hs, hdb, h⟩

lemma shape {r : Except ShapeError α} {a : α} (h : r = .ok a) : Idles (shape r) db (· = a) :=
  fun s hs hdb => ⟨a, s, by rw [h]; rfl, hs, hdb, rfl⟩

/-- A statement that reads. -/
lemma store {op : Store → Store × Except StoreError α}
    (h : ∀ s, s.Ready → s.database = db → ∃ a, op s = ({ s with isOpen := true }, .ok a) ∧ wanted a) :
    Idles (store op) db wanted := by
  intro s hs hdb
  obtain ⟨a, hop, ha⟩ := h s hs hdb
  exact ⟨a, _, store_eq_ok.2 hop, ⟨hs.sound, hs.created⟩, hdb, ha⟩

lemma bind {act : Seeding α} {next : α → Seeding β} (h : Idles act db wanted)
    (hnext : ∀ a, wanted a → Idles (next a) db wanted') : Idles (act >>= next) db wanted' := by
  intro s hs hdb
  obtain ⟨a, between, hact, hready, hsame, ha⟩ := h s hs hdb
  obtain ⟨b, s', hrest, h⟩ := hnext a ha between hready hsame
  refine ⟨b, s', ?_, h⟩
  rw [result] at hact ⊢
  rw [Outcome.run_bind, hact]
  exact hrest

lemma mapM {f : α → Seeding β} {items : List α} (h : ∀ v ∈ items, Idles (f v) db wanted') :
    Idles (items.mapM f) db fun bs => ∀ b ∈ bs, wanted' b := by
  induction items with
  | nil => exact pure fun b hb => absurd hb List.not_mem_nil
  | cons v rest ih =>
    obtain ⟨hv, hrest⟩ := List.forall_mem_cons.1 h
    rw [List.mapM_cons]
    exact hv.bind fun b hb => (ih hrest).bind fun bs hbs => pure (List.forall_mem_cons.2 ⟨hb, hbs⟩)

/-- A category that is there is found. -/
lemma category {name : String} (hname : v.require "name" = .ok (.text name))
    (hthere : db.HasCategory name) : Idles (category v) db fun _ => True := by
  refine (shape hname).bind fun w hw => ?_
  subst hw
  have hfound : (db.categories.rows.find? (·.2.name == name)).isSome := by
    obtain ⟨r, hr, rfl⟩ := hthere
    exact List.find?_isSome.2 ⟨r, hr, beq_self_eq_true _⟩
  obtain ⟨r, hr⟩ := Option.isSome_iff_exists.1 hfound
  have hread : Idles (Seeding.store (·.categoryNamed? (.text name))) db (· = some (r.2.toCategory r.1)) := by
    refine store fun s hs hdb => ⟨_, ?_, rfl⟩
    rw [hs.categoryNamed?, hdb, hr, Option.map_some]
  refine hread.bind fun found h => ?_
  subst h
  exact pure trivial

/-- A rule that its customer has is found. -/
lemma rule {p : String × String} (hpair : pair? v = some p) (hthere : db.rulesNamed p.1 p.2 ≠ 0)
    (known : List Category) : Idles (rule known v) db (· = false) := by
  obtain ⟨customer, name⟩ := p
  obtain ⟨hcustomer, hname⟩ := pair?_eq_some hpair
  refine (shape hcustomer).bind fun w hw => ?_
  subst hw
  have hread : Idles (Seeding.store (·.rulesOf (.text customer))) db
      fun rules => rules.any (·.name.equal (.text name)) = true := by
    refine store fun s hs hdb => ?_
    obtain ⟨rules, hrules, hany⟩ := hs.rulesOf customer
    exact ⟨rules, hrules, (hany name).trans (decide_eq_true (hdb ▸ hthere))⟩
  refine hread.bind fun rules hany => (shape hname).bind fun w hw => ?_
  subst hw
  have hkey : Idles (key (.text name)) db (· = .text name) := pure rfl
  refine hkey.bind fun w hw => ?_
  subst hw
  rw [if_pos hany]
  exact pure rfl

/-- A plan is carried out without a change if all that it lists is there. -/
lemma plan {plan : Value} (h : Present plan db) : Idles (Seeding.plan plan) db (· = 0) := by
  have hfirst : Idles ((listed plan "categories").mapM Seeding.category) db
      fun known => ∀ c ∈ known, True := by
    refine mapM fun v hv => ?_
    obtain ⟨name, hname, hthere⟩ := h.hasCategory v hv
    exact category hname hthere
  have hlater (known : List Category) : Idles ((listed plan "rules").mapM (Seeding.rule known)) db
      fun added => ∀ b ∈ added, b = false := by
    refine mapM fun v hv => ?_
    obtain ⟨p, hp, hthere⟩ := h.hasRule v hv
    exact rule hp hthere known
  rw [plan_eq]
  refine (shape h.categories).bind fun _ heq => ?_
  subst heq
  refine hfirst.bind fun known _ => (shape h.rules).bind fun _ heq => ?_
  subst heq
  refine (hlater known).bind fun added hadded => pure ?_
  exact List.count_eq_zero.2 fun hmem => Bool.noConfusion (hadded true hmem)

end Idles

end Seeding

namespace Store

variable {s s' : Store} {plan : Value} {events : List Event} {n : Nat}

lemma result_of_seed (h : s.seed plan = (s', events, .ok n)) :
    (Seeding.plan plan).result s = (.ok n, s') := by
  obtain ⟨hafter, hrest⟩ := Prod.mk.inj h
  exact Prod.ext (Prod.mk.inj hrest).2 hafter

lemma seed_of_result (h : (Seeding.plan plan).result s = (.ok n, s')) :
    s.seed plan = (s', s.reports s' ++ [.rulesSeeded n], .ok n) := by
  have hrun : (Seeding.plan plan).run.run s = (.ok n, s') := h
  rw [seed, hrun]

/-- Seeding that succeeds with `n` adds `n` rules and changes no row that was there. All that the plan
lists is there then; a customer has one more rule of a name only if the plan lists the name for it and it
had none. Seeding again by the same plan adds nothing. -/
theorem seed_twice (sound : s.defect = none) (created : s.database.created = true)
    (texts : Seeding.Texts plan) (h : s.seed plan = (s', events, .ok n)) :
    s.database.Seeded s'.database (Seeding.pairs plan) n ∧ Seeding.Present plan s'.database ∧
      ∃ again events', s'.seed plan = (again, events', .ok 0) ∧ again.database = s'.database := by
  obtain ⟨hready, hseeded, hpresent⟩ := Seeding.plan_ok ⟨sound, created⟩ texts (result_of_seed h)
  obtain ⟨_, again, hresult, -, hsame, rfl⟩ := Seeding.Idles.plan hpresent s' hready rfl
  exact ⟨hseeded, hpresent, again, _, seed_of_result hresult, hsame⟩

end Store

/-! ### A plan with repetitions -/

namespace Seeding

/-- The entry of a rule. -/
def lunchEntry : Value :=
  .map [("customer_id", .text "c"), ("name", .text "Lunch"), ("category", .text "Fuel"),
    ("condition", .text "amount < 20")]

/-- A plan of two categories and a rule that is listed twice. -/
def lunchPlan : Value :=
  .map [("categories", .list [.map [("name", .text "Food")], .map [("name", .text "Fuel")]]),
    ("rules", .list [lunchEntry, lunchEntry])]

lemma texts_lunchPlan : Texts lunchPlan where
  categoryName v hv := by
    obtain rfl | rfl := List.mem_pair.1 hv
    · exact fun w h => ⟨"Food", (Except.ok.inj h).symm⟩
    · exact fun w h => ⟨"Fuel", (Except.ok.inj h).symm⟩
  ruleName v hv := by
    obtain rfl : v = lunchEntry := (List.mem_pair.1 hv).elim id id
    exact fun w h => ⟨"Lunch", (Except.ok.inj h).symm⟩
  customer v hv := by
    obtain rfl : v = lunchEntry := (List.mem_pair.1 hv).elim id id
    exact fun w h => ⟨"c", (Except.ok.inj h).symm⟩

end Seeding

namespace Store

/-- A store with one of the categories of the plan. -/
def foodStore : Store where
  path := "rules.db"
  database := { (default : Database) with
    created := true
    categories := (default : Table CategoryRow).put 1 ⟨"Food", ""⟩ }

theorem seed_twice_lunch :
    foodStore.defect = none ∧ foodStore.database.created = true ∧
      Seeding.Texts Seeding.lunchPlan ∧
      ∃ s' events, foodStore.seed Seeding.lunchPlan = (s', events, .ok 1) ∧
        foodStore.database.Seeded s'.database (Seeding.pairs Seeding.lunchPlan) 1 ∧
        Seeding.Present Seeding.lunchPlan s'.database ∧
        ∃ again events', s'.seed Seeding.lunchPlan = (again, events', .ok 0) ∧
          again.database = s'.database := by
  have hcount : (foodStore.seed Seeding.lunchPlan).2.2.toOption = some 1 := by decide +kernel
  rcases hseed : foodStore.seed Seeding.lunchPlan with ⟨s', events, e | n⟩
  · rw [hseed] at hcount
    cases hcount
  · rw [hseed] at hcount
    obtain rfl : n = 1 := Option.some.inj hcount
    exact ⟨rfl, rfl, Seeding.texts_lunchPlan, s', events, rfl,
      seed_twice rfl rfl Seeding.texts_lunchPlan hseed⟩

end Store

end TransactionRules
