import Mathlib.Tactic.Common
import TransactionRules.Engine.Registry
import TransactionRules.Proofs.Sorting

/-!
# Engines that can be created

The registry only grows: a call binds names that were free, so no name ever changes its class
(`Registry.Extends`). An engine is created by the plain form of a name, in small letters and without
margins, but names are bound as they are given. So a name that is listed gives an engine of its class
exactly when its plain form is bound to that class as well, which it is for a plain name.
-/

namespace TransactionRules.Registry

/-- What the name of an engine is looked up as. -/
def plainName (name : String) : String := smallLetters (withoutMargins name)

/-- A call that binds names, or fails. -/
inductive Call where
  | register (type : Value) (c : EngineClass)
  | loadFrom (settings : Value)
  /-- The settings are those at hand. -/
  | load (around : Surroundings)

/-- The registry after a call, whether the call failed or not. -/
def call (r : Registry) : Call → Registry
  | .register type c => (r.register type c).toOption.getD r
  | .loadFrom settings => (r.loadFrom settings).1
  | .load around => (r.load around).1

def callAll (r : Registry) (calls : List Call) : Registry := calls.foldl call r

variable {r r' r'' : Registry} {c d : EngineClass}

/-! ## Bindings stay -/

/-- Bindings were added behind those that were there. -/
def Extends (r r' : Registry) : Prop := ∃ added, r'.classes = r.classes ++ added

namespace Extends

lemma refl (r : Registry) : Extends r r := ⟨[], (List.append_nil _).symm⟩

lemma trans (h : Extends r r') (h' : Extends r' r'') : Extends r r'' := by
  obtain ⟨added, hadded⟩ := h
  obtain ⟨added', hadded'⟩ := h'
  exact ⟨added ++ added', by rw [hadded', hadded, List.append_assoc]⟩

/-- A name that is bound stays bound to its class. -/
lemma lookup? (h : Extends r r') {type : Value} (hbound : r.lookup? type = some c) :
    r'.lookup? type = some c := by
  obtain ⟨added, hadded⟩ := h
  obtain ⟨entry, hentry, rfl⟩ := Option.map_eq_some_iff.1 hbound
  rw [Registry.lookup?, hadded, List.find?_append, hentry]
  rfl

end Extends

lemma extends_register {type : Value} (h : r.register type c = .ok r') : Extends r r' := by
  unfold register at h
  split at h
  · cases h
  · split_ifs at h
    split at h
    · cases h
      exact ⟨_, rfl⟩
    · split_ifs at h
      cases h
      exact .refl r

lemma extends_registerAll (r : Registry) (entries : List Value) :
    Extends r (r.registerAll entries).1 := by
  induction entries generalizing r with
  | nil => exact .refl r
  | cons entry rest ih =>
    rw [registerAll]
    split
    · next r' hregistered =>
      obtain ⟨name, -, h⟩ := Outcome.bind_eq_ok.1 hregistered
      obtain ⟨c, -, h⟩ := Outcome.bind_eq_ok.1 h
      obtain ⟨type, -, h⟩ := Outcome.bind_eq_ok.1 h
      exact (extends_register h).trans (ih r')
    · exact .refl r

lemma extends_loadFrom (r : Registry) (settings : Value) : Extends r (r.loadFrom settings).1 := by
  unfold loadFrom
  split
  · exact .refl r
  · exact .refl r
  · split
    · exact .refl r
    · exact extends_registerAll r _

lemma extends_call (r : Registry) (call : Call) : Extends r (r.call call) := by
  cases call with
  | register type c =>
    rw [Registry.call]
    cases hregister : r.register type c with
    | ok r' => exact extends_register hregister
    | error e => exact .refl r
  | loadFrom settings => exact extends_loadFrom r settings
  | load around =>
    rw [Registry.call, load]
    split
    · exact .refl r
    · exact extends_loadFrom r _

lemma extends_callAll (r : Registry) (calls : List Call) : Extends r (r.callAll calls) := by
  induction calls generalizing r with
  | nil => exact .refl r
  | cons call rest ih => exact (extends_call r call).trans (ih (r.call call))

/-! ## Names that are listed -/

lemma equal_text_iff {v : Value} {name : String} : v.equal (.text name) = true ↔ v = .text name := by
  cases v with
  | text s => simp [Value.equal]
  | null | bool | int | float | list | map => simp [Value.equal, Value.quantity?]

lemma lookup?_text_isSome (r : Registry) (name : String) :
    (r.lookup? (.text name)).isSome ↔ .text name ∈ r.classes.map (·.1) := by
  rw [lookup?, Option.isSome_map, List.find?_isSome, List.mem_map]
  simp only [equal_text_iff]

/-- The names that are listed are those that are bound. -/
lemma mem_available_iff {names : List Value} (h : r.available = .ok names) (name : String) :
    .text name ∈ names ↔ (r.lookup? (.text name)).isSome := by
  rw [lookup?_text_isSome, (Insertion.perm_of_sort h).mem_iff]

/-! ## Engines by name -/

lemma createNamed_eq_ok_iff (r : Registry) (name : String) (e : Engine) :
    (r.createNamed (.text name)).2 = .ok e ↔ r.lookup? (.text (plainName name)) = some (.engine e) := by
  have hplain : smallLetters (withoutMargins name) = plainName name := rfl
  simp only [createNamed, hplain]
  cases hlookup : r.lookup? (.text (plainName name)) with
  | none =>
    simp only [reduceCtorEq, iff_false]
    intro h
    obtain ⟨types, -, h⟩ := Outcome.bind_eq_ok.1 h
    obtain ⟨names, -, h⟩ := Outcome.bind_eq_ok.1 h
    cases h
  | some c =>
    cases c with
    | engine d => simp
    | abstract => simp
    | other shown => simp

/-- An engine comes out exactly if the plain form of the name is bound to its class. -/
lemma create_eq_ok_iff (hne : r.classes ≠ []) (around : Surroundings) (name : String) (e : Engine) :
    (r.create around (some (.text name))).2.2 = .ok e ↔
      r.lookup? (.text (plainName name)) = some (.engine e) := by
  have hloaded : r.classes.isEmpty = false := by simpa using hne
  rw [← createNamed_eq_ok_iff, create]
  simp only [hloaded, Bool.false_eq_true, if_false, Option.elim_some]

/-- After any calls, the names that are listed are those that are bound to a class, and later calls
leave them bound to it. An engine of some class is created from such a name exactly if the plain form
of the name is bound to that class, so from a plain name an engine of the class that it is bound to. -/
theorem create_bound (calls more : List Call) (name : String) :
    let r := ({} : Registry).callAll calls
    (∀ names, r.available = .ok names → (.text name ∈ names ↔ ∃ c, r.lookup? (.text name) = some c)) ∧
      ∀ c, r.lookup? (.text name) = some c →
        (r.callAll more).lookup? (.text name) = some c ∧
          ∀ (around : Surroundings) (e : Engine),
            (r.create around (some (.text name))).2.2 = .ok e ↔
              r.lookup? (.text (plainName name)) = some (.engine e) := by
  intro r
  refine ⟨fun names hnames => ?_, fun c hbound => ⟨?_, fun around e => ?_⟩⟩
  · rw [mem_available_iff hnames, Option.isSome_iff_exists]
  · exact (extends_callAll r more).lookup? hbound
  · refine create_eq_ok_iff (fun hnil => ?_) around name e
    rw [lookup?, hnil] at hbound
    cases hbound

/-- A name with a capital is listed, bound and stays bound, and no engine is created from it. -/
theorem create_capital :
    let r := ({} : Registry).callAll [.register (.text "Custom") (.engine .forwardChaining)]
    r.available = .ok [.text "Custom"] ∧
      r.lookup? (.text "Custom") = some (.engine .forwardChaining) ∧
      (r.create {} (some (.text "Custom"))).2.2 = .error (.notRegistered "custom" ["Custom"]) := by
  exact ⟨rfl, rfl, rfl⟩

end TransactionRules.Registry
