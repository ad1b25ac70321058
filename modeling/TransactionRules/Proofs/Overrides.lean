import Mathlib.Data.List.Infix
import TransactionRules.Proofs.DistinctKeys
import TransactionRules.Settings.Basic

/-!
# Settings over settings

A path of keys leads through maps in maps. Where the user's settings replace an entry, by a value that
is no map or over one that is none, the merged settings are the user's from there on; at all other
paths they are the defaults (`Overlays`). To merge the same settings in again changes nothing.
-/

namespace TransactionRules

namespace Value

/-- What stands at a path of keys; all but the last of them lead to maps. -/
def at? : Value → List String → Option Value
  | v, [] => some v
  | .map entries, key :: path => (ofKey? entries key).bind (at? · path)
  | _, _ :: _ => none

lemma at?_nil (v : Value) : v.at? [] = some v := by
  rw [at?]

lemma at?_cons (entries : List (String × Value)) (key : String) (path : List String) :
    (Value.map entries).at? (key :: path) = (ofKey? entries key).bind (·.at? path) := by
  rw [at?]

lemma at?_cons_of_some {entries : List (String × Value)} {key : String} {path : List String} {v : Value}
    (h : ofKey? entries key = some v) : (Value.map entries).at? (key :: path) = v.at? path := by
  rw [at?_cons, h]
  rfl

end Value

namespace Settings

open Value

variable {base override merged : List (String × Value)} {key : String} {path : List String}
  {old : Option Value} {v b o m : Value}

/-! ## What merging does under one key -/

/-- A value takes the place of what is there, if anything, unless both are maps. -/
def Replaces (old : Option Value) (v : Value) : Prop :=
  v.kind ≠ .map ∨ ∀ w, old = some w → w.kind ≠ .map

instance (old : Option Value) (v : Value) : Decidable (Replaces old v) :=
  inferInstanceAs (Decidable (v.kind ≠ .map ∨ ∀ w ∈ old, w.kind ≠ .map))

lemma replaces_or_maps (old : Option Value) (v : Value) :
    Replaces old v ∨ ∃ base entries, old = some (.map base) ∧ v = .map entries := by
  by_cases hv : v.kind = .map
  · obtain ⟨entries, rfl⟩ := kind_eq_map.1 hv
    cases old with
    | none => exact .inl (.inr (by simp))
    | some w =>
      by_cases hw : w.kind = .map
      · obtain ⟨base, rfl⟩ := kind_eq_map.1 hw
        exact .inr ⟨base, entries, rfl, rfl⟩
      · exact .inl (.inr (by simpa using hw))
  · exact .inl (.inl hv)

lemma mergeValue_of_replaces (h : Replaces old v) : mergeValue old v = v := by
  cases v with
  | map entries =>
    have hold := h.resolve_left fun hkind => hkind rfl
    rw [mergeValue]
    intro base hbase
    exact hold _ hbase rfl
  | null | bool | int | float | text | list => rw [mergeValue]; simp

lemma mergeValue_none (v : Value) : mergeValue none v = v :=
  mergeValue_of_replaces (.inr (by simp))

lemma mergeValue_maps (base entries : List (String × Value)) :
    mergeValue (some (.map base)) (.map entries) = .map (merge base entries) := by
  rw [mergeValue]

lemma ofKey?_merge (distinct : (override.map (·.1)).Nodup) (base : List (String × Value))
    (key : String) :
    ofKey? (merge base override) key =
      match ofKey? override key with
      | some v => some (mergeValue (ofKey? base key) v)
      | none => ofKey? base key := by
  induction override generalizing base with
  | nil => rw [merge]; rfl
  | cons e rest ih =>
    obtain ⟨k, v⟩ := e
    rw [List.map_cons, List.nodup_cons] at distinct
    rw [merge, ih distinct.2, put, Json.ofKey?_put, ofKey?_cons]
    by_cases hk : k = key
    · subst hk
      rw [ofKey?_eq_none distinct.1, if_pos rfl, if_pos rfl]
    · rw [if_neg hk, if_neg hk]

/-! ## What merging does along a path -/

/-- The path goes through an entry of `override` that takes the place of what `base` has there. -/
def Overridden (base override : Value) (path : List String) : Prop :=
  ∃ q, q ≠ [] ∧ q <+: path ∧ ∃ v, override.at? q = some v ∧ Replaces (base.at? q) v

instance (base override : Value) (path : List String) : Decidable (Overridden base override path) :=
  decidable_of_iff
    (∃ q ∈ path.inits, q ≠ [] ∧ ∃ v ∈ override.at? q, Replaces (base.at? q) v) <| by
    simp only [Overridden, List.mem_inits, Option.mem_def]
    exact exists_congr fun q => and_left_comm

/-- At a path that is overridden `merged` is what `override` is; at any other it has something if and
only if `base` has, and the same if that is no map. -/
structure Overlays (base override merged : Value) (path : List String) : Prop where
  given : Overridden base override path → merged.at? path = override.at? path
  present : ¬ Overridden base override path → (merged.at? path).isSome = (base.at? path).isSome
  kept : ¬ Overridden base override path → ∀ v, base.at? path = some v → v.kind ≠ .map →
    merged.at? path = some v

lemma not_overridden_nil (base override : Value) : ¬ Overridden base override [] := by
  rintro ⟨q, hne, hprefix, -⟩
  exact hne (List.prefix_nil.1 hprefix)

/-- A path is overridden at its first key, or behind it. -/
lemma overridden_cons :
    Overridden (.map base) (.map override) (key :: path) ↔
      ∃ v, ofKey? override key = some v ∧
        (Replaces (ofKey? base key) v ∨ ∃ w, ofKey? base key = some w ∧ Overridden w v path) := by
  constructor
  · rintro ⟨q, hne, hprefix, u, hu, hreplaces⟩
    obtain ⟨q, rfl, hq⟩ := (List.prefix_cons_iff.1 hprefix).resolve_left hne
    rw [at?_cons] at hu
    obtain ⟨v, hv, hu⟩ := Option.bind_eq_some_iff.1 hu
    refine ⟨v, hv, ?_⟩
    cases hbase : ofKey? base key with
    | none => exact .inl (.inr (by simp))
    | some w =>
      rw [at?_cons_of_some hbase] at hreplaces
      by_cases hnil : q = []
      · subst hnil
        rw [at?_nil] at hu hreplaces
        cases hu
        exact .inl hreplaces
      · exact .inr ⟨w, rfl, q, hnil, hq, u, hu, hreplaces⟩
  · rintro ⟨v, hv, hreplaces | ⟨w, hw, q, hne, hprefix, u, hu, hreplaces⟩⟩
    · refine ⟨[key], by simp, by simp, v, ?_, ?_⟩
      · rw [at?_cons_of_some hv, at?_nil]
      · simpa [at?_cons, at?_nil] using hreplaces
    · refine ⟨key :: q, by simp, by simpa using hprefix, u, ?_, ?_⟩
      · rw [at?_cons_of_some hv, hu]
      · rwa [at?_cons_of_some hw]

namespace Overlays

lemma nil (base override merged : List (String × Value)) :
    Overlays (.map base) (.map override) (.map merged) [] where
  given h := absurd h (not_overridden_nil _ _)
  present _ := by rw [at?_nil, at?_nil]; rfl
  kept _ v hv hkind := by
    rw [at?_nil] at hv
    cases hv
    exact absurd rfl hkind

/-- The user gives nothing under the first key of the path. -/
lemma of_absent (hoverride : ofKey? override key = none)
    (hmerged : ofKey? merged key = ofKey? base key) :
    Overlays (.map base) (.map override) (.map merged) (key :: path) := by
  have hsame : (Value.map merged).at? (key :: path) = (Value.map base).at? (key :: path) := by
    rw [at?_cons, at?_cons, hmerged]
  constructor
  · intro h
    obtain ⟨v, hv, -⟩ := overridden_cons.1 h
    rw [hoverride] at hv
    cases hv
  · intro _
    rw [hsame]
  · intro _ v hv _
    rw [hsame, hv]

/-- What the user gives under the first key takes the place of what was there. -/
lemma of_replaces (hoverride : ofKey? override key = some v) (h : Replaces (ofKey? base key) v)
    (hmerged : ofKey? merged key = some v) :
    Overlays (.map base) (.map override) (.map merged) (key :: path) := by
  have hoverridden : Overridden (.map base) (.map override) (key :: path) :=
    overridden_cons.2 ⟨v, hoverride, .inl h⟩
  constructor
  · intro _
    rw [at?_cons_of_some hmerged, at?_cons_of_some hoverride]
  · exact absurd hoverridden
  · exact absurd hoverridden

/-- Under the first key a map meets a map: the rest of the path leads through these two. -/
lemma of_maps (hbase : ofKey? base key = some b) (hoverride : ofKey? override key = some o)
    (hmerged : ofKey? merged key = some m) (hb : b.kind = .map) (ho : o.kind = .map)
    (h : Overlays b o m path) :
    Overlays (.map base) (.map override) (.map merged) (key :: path) := by
  have hiff : Overridden (.map base) (.map override) (key :: path) ↔ Overridden b o path := by
    rw [overridden_cons, hbase, hoverride]
    simp [Replaces, hb, ho]
  constructor
  · rw [hiff, at?_cons_of_some hmerged, at?_cons_of_some hoverride]
    exact h.given
  · rw [hiff, at?_cons_of_some hmerged, at?_cons_of_some hbase]
    exact h.present
  · rw [hiff, at?_cons_of_some hmerged, at?_cons_of_some hbase]
    exact h.kept

end Overlays

lemma overlays_merge (h : (Value.map override).WellKeyed) (base : List (String × Value))
    (path : List String) :
    Overlays (.map base) (.map override) (.map (merge base override)) path := by
  induction path generalizing base override with
  | nil => exact .nil base override _
  | cons key path ih =>
    have hmerge := ofKey?_merge h.distinct base key
    cases hoverride : ofKey? override key with
    | none =>
      rw [hoverride] at hmerge
      exact .of_absent hoverride hmerge
    | some v =>
      rw [hoverride] at hmerge
      dsimp only at hmerge
      rcases replaces_or_maps (ofKey? base key) v with hreplaces | ⟨there, given, hbase, rfl⟩
      · rw [mergeValue_of_replaces hreplaces] at hmerge
        exact .of_replaces hoverride hreplaces hmerge
      · rw [hbase, mergeValue_maps] at hmerge
        have hgiven := h.values _ (mem_of_ofKey? hoverride)
        exact .of_maps hbase hoverride hmerge rfl rfl (ih hgiven there)

/-! ## Merging once more -/

/-- Entries that leave what they meet as it is leave the whole as it is. -/
lemma merge_of_settled
    (h : ∀ e ∈ override, ∃ w, ofKey? base e.1 = some w ∧ mergeValue (some w) e.2 = w) :
    merge base override = base := by
  induction override with
  | nil => rw [merge]
  | cons e rest ih =>
    obtain ⟨key, v⟩ := e
    obtain ⟨w, hw, hsettled⟩ := h _ List.mem_cons_self
    rw [merge, hw, hsettled, put, Json.put_of_ofKey? hw]
    exact ih fun e he => h e (List.mem_cons_of_mem _ he)

/-- The induction is on the nesting of the value, and the old value stays arbitrary: where there was
none, an entry meets itself. -/
lemma mergeValue_mergeValue (h : v.WellKeyed) (old : Option Value) :
    mergeValue (some (mergeValue old v)) v = mergeValue old v := by
  induction h generalizing old with
  | leaf hkind => rw [mergeValue_of_replaces (.inl hkind), mergeValue_of_replaces (.inl hkind)]
  | @map entries distinct values ih =>
    rcases replaces_or_maps old (.map entries) with hreplaces | ⟨base, entries, rfl, heq⟩
    · rw [mergeValue_of_replaces hreplaces, mergeValue_maps]
      apply congrArg
      apply merge_of_settled
      intro e he
      have hself := ih e he none
      rw [mergeValue_none] at hself
      exact ⟨e.2, ofKey?_of_mem distinct he, hself⟩
    · cases heq
      rw [mergeValue_maps, mergeValue_maps]
      apply congrArg
      apply merge_of_settled
      intro e he
      refine ⟨mergeValue (ofKey? base e.1) e.2, ?_, ih e he _⟩
      rw [ofKey?_merge distinct, ofKey?_of_mem distinct he]

lemma merge_merge (h : (Value.map override).WellKeyed) (base : List (String × Value)) :
    merge (merge base override) override = merge base override := by
  have htwice := mergeValue_mergeValue h (some (.map base))
  rw [mergeValue_maps, mergeValue_maps] at htwice
  exact Value.map.inj htwice

/-! ## Main results -/

lemma mergeValues_maps (base override : List (String × Value)) :
    mergeValues (.map base) (.map override) = .ok (.map (merge base override)) := rfl

/-- Maps always merge, to what `Overlays` says at every path. Merging is idempotent, also in the order of
the entries. -/
theorem mergeValues_overlays (h : (Value.map override).WellKeyed) (base : List (String × Value)) :
    ∃ merged, mergeValues (.map base) (.map override) = .ok (.map merged) ∧
      (∀ path, Overlays (.map base) (.map override) (.map merged) path) ∧
      mergeValues (.map merged) (.map override) = .ok (.map merged) := by
  refine ⟨merge base override, mergeValues_maps base override, overlays_merge h base, ?_⟩
  rw [mergeValues_maps, merge_merge h]

/-- A user's settings: one entry of a packaged map, a text over another map, and maps of their own. -/
def userEntries : List (String × Value) := [
  ("logging", .map [("level", .text "DEBUG")]),
  ("database", .text "rules.db"),
  ("limits", .map [("rules", .map [("count", .int 100)])])]

theorem mergeValues_overlays_user :
    (Value.map userEntries).WellKeyed ∧
      ∃ merged, mergeValues (.map defaults) (.map userEntries) = .ok (.map merged) ∧
        (Value.map merged).at? ["logging", "level"] = some (.text "DEBUG") ∧
        (Value.map merged).at? ["logging", "file"] = some .null ∧
        (Value.map merged).at? ["database", "path"] = none ∧
        (Value.map merged).at? ["limits", "rules", "count"] = some (.int 100) ∧
        mergeValues (.map merged) (.map userEntries) = .ok (.map merged) := by
  have hkeyed : (Value.map userEntries).WellKeyed := by
    simpa [userEntries] using ⟨.leaf (by decide), .leaf (by decide), .leaf (by decide)⟩
  obtain ⟨merged, hmerged, hoverlays, hagain⟩ := mergeValues_overlays hkeyed defaults
  refine ⟨hkeyed, merged, hmerged, ?_, ?_, ?_, ?_, hagain⟩
  · rw [(hoverlays _).given (by decide)]
    rfl
  · exact (hoverlays _).kept (by decide) _ rfl (by decide)
  · rw [(hoverlays _).given (by decide)]
    rfl
  · rw [(hoverlays _).given (by decide)]
    rfl

/-- A user's file needs only the keys that it changes. -/
theorem current_overlays {s : Surroundings} {text : String}
    (hfile : userFile? s "settings.json" = .ok (some text)) (hread : parse text = .ok (.map override)) :
    ∃ merged, current s = .ok (.map merged) ∧
      ∀ path, Overlays (.map defaults) (.map override) (.map merged) path := by
  have hkeyed : (Value.map override).WellKeyed := by
    unfold parse at hread
    split at hread
    · next v hv =>
      cases hread
      exact Json.read_wellKeyed hv
    · cases hread
  refine ⟨merge defaults override, ?_, overlays_merge hkeyed defaults⟩
  rw [current, hfile, Outcome.ok_bind]
  dsimp only
  rw [hread]
  rfl

end Settings

end TransactionRules
