import Telemetry.Proofs.DocumentDump

/-!
The two forms of a component reference.

A reference is read from a mapping in one of two forms. In the keyword form the mapping's `name`
holds a text and it writes no key but `name` and `config`; in the document form, read only where
the keyword form is not, the mapping has exactly one member, whose key names the component and
whose value is its configuration (`Names`). Either way the configuration as written must count as
false, which stands for the empty configuration, or be a mapping (`ConfigWritten`).

A mapping in neither form is refused with the one problem that a component needs exactly one key,
and a configuration that counts as true but is no mapping with a `dict_type` problem under
`config`. So the one-key mappings `{"name": {...}}` and `{"config": {...}}` name components called
`name` and `config`, and both ways of writing a reference back, the one-key form
(`ComponentRef.toDocument`) and the dump (`ComponentRef.toJson`, read back by `read_toJson`), read
as the reference again.
-/

namespace Telemetry.Model

open Schema Checked

namespace ComponentRef

/-- A configuration as written: one that counts as false stands for the empty configuration, any
other must be the mapping that is the configuration. --/
def ConfigWritten (w : Json) (config : Members) : Prop :=
  (w.truthy = false ∧ config = []) ∨ w = .obj config

/-- The keyword form: `name` holds a text, and no key but `name` and `config` is written. --/
def KeywordForm (ms : Members) : Prop :=
  (∃ n, Members.get? ms "name" = some (.str n)) ∧ ∀ m ∈ ms, m.1 = "name" ∨ m.1 = "config"

/-- How a mapping names a component and writes its configuration: in the keyword form under
`name` and `config`, an absent configuration written as `null`; otherwise in the document form,
as its one key and that key's value. --/
inductive Names (ms : Members) : String → Json → Prop
  | keyword {n : String} : Members.get? ms "name" = some (.str n) → (∀ m ∈ ms, m.1 = "name" ∨ m.1 = "config") →
      Names ms n ((Members.get? ms "config").getD .null)
  | document {k : String} {w : Json} : ¬ KeywordForm ms → ms = [(k, w)] → Names ms k w

/-- The problem of a configuration that counts as true and is no mapping. --/
def configIssue : Issue := ⟨[.key "config"], .dictType⟩

/-! ### The two forms -/

theorem explicitName?_eq_some {ms : Members} {n : String} :
    explicitName? ms = some n ↔
      Members.get? ms "name" = some (.str n) ∧ ∀ m ∈ ms, m.1 = "name" ∨ m.1 = "config" := by
  have hall : (ms.all fun m => m.1 == "name" || m.1 == "config") = true ↔
      ∀ m ∈ ms, m.1 = "name" ∨ m.1 = "config" := by
    simp [List.all_eq_true]
  unfold explicitName?
  split
  · next n' hn =>
    rw [hn]
    by_cases h : ∀ m ∈ ms, m.1 = "name" ∨ m.1 = "config"
    · rw [if_pos (hall.mpr h)]
      simp only [Option.some.injEq, Json.str.injEq]
      exact ⟨fun e => ⟨e, h⟩, fun e => e.1⟩
    · rw [if_neg (mt hall.mp h)]
      constructor
      · intro e
        cases e
      · intro e
        exact absurd e.2 h
  · next hn =>
    constructor
    · intro h
      cases h
    · intro h
      exact absurd h.1 (hn n)

theorem explicitName?_eq_none {ms : Members} : explicitName? ms = none ↔ ¬ KeywordForm ms := by
  rw [Option.eq_none_iff_forall_ne_some, KeywordForm]
  simp only [ne_eq, explicitName?_eq_some, not_and]
  exact ⟨fun h ⟨n, hn⟩ hall => h n hn hall, fun h n hn hall => h ⟨n, hn⟩ hall⟩

theorem Names.unique {ms : Members} {n n' : String} {w w' : Json} (h : Names ms n w) (h' : Names ms n' w') :
    n = n' ∧ w = w' := by
  cases h with
  | keyword hn hall =>
    cases h' with
    | keyword hn' _ =>
      rw [hn] at hn'
      cases hn'
      exact ⟨rfl, rfl⟩
    | document hk _ => exact absurd ⟨⟨n, hn⟩, hall⟩ hk
  | document hk hms =>
    cases h' with
    | keyword hn' hall' => exact absurd ⟨⟨n', hn'⟩, hall'⟩ hk
    | document _ hms' =>
      rw [hms] at hms'
      cases hms'
      exact ⟨rfl, rfl⟩

theorem names_or_shapeless (ms : Members) :
    (∃ n w, Names ms n w) ∨ (¬ KeywordForm ms ∧ ∀ k w, ms ≠ [(k, w)]) := by
  by_cases hk : KeywordForm ms
  · obtain ⟨⟨n, hn⟩, hall⟩ := hk
    exact .inl ⟨n, _, .keyword hn hall⟩
  · match ms with
    | [(k, w)] => exact .inl ⟨k, w, .document hk rfl⟩
    | [] => exact .inr ⟨hk, fun _ _ h => by simp at h⟩
    | _ :: _ :: _ => exact .inr ⟨hk, fun _ _ h => by simp at h⟩

/-! ### Reading the configuration -/

theorem ofParts_eq_ok_iff {n : String} {w : Json} {r : ComponentRef} :
    ofParts n w = .ok r ↔ r.name = n ∧ ConfigWritten w r.config := by
  obtain ⟨rn, rc⟩ := r
  unfold ofParts ConfigWritten
  by_cases ht : w.truthy = true
  · rw [if_pos ht]
    cases w with
    | obj cfg =>
      simp only [readMapping, under, Functor.map, Checked.map, ht, Bool.true_eq_false, false_and,
        false_or, ok.injEq, mk.injEq, Json.obj.injEq]
      constructor
      · rintro ⟨h1, h2⟩
        exact ⟨h1.symm, h2⟩
      · rintro ⟨h1, h2⟩
        exact ⟨h1.symm, h2⟩
    | _ =>
      simp only [readMapping, fail, under, Functor.map, Checked.map, ht, Bool.true_eq_false, false_and,
        false_or, reduceCtorEq, and_false]
  · rw [if_neg ht]
    have hf : w.truthy = false := Bool.eq_false_iff.mpr ht
    -- a mapping that counts as false is the empty one
    have hempty : w = .obj rc → rc = [] := by
      rintro rfl
      cases rc with
      | nil => rfl
      | cons _ _ => cases hf
    simp only [ok.injEq, mk.injEq, hf, true_and]
    constructor
    · rintro ⟨rfl, rfl⟩
      exact ⟨rfl, .inl rfl⟩
    · rintro ⟨rfl, h | h⟩
      · exact ⟨rfl, h.symm⟩
      · exact ⟨rfl, (hempty h).symm⟩

theorem ofParts_eq_failed_iff {n : String} {w : Json} {is : List Issue} :
    ofParts n w = .failed is ↔ w.truthy = true ∧ (∀ o, w ≠ .obj o) ∧ is = [configIssue] := by
  unfold ofParts
  by_cases ht : w.truthy = true
  · rw [if_pos ht]
    cases w with
    | obj cfg =>
      simp only [readMapping, under, Functor.map, Checked.map, reduceCtorEq, false_iff, not_and]
      exact fun _ hno => absurd rfl (hno cfg)
    | _ =>
      simp only [readMapping, fail, under, Functor.map, Checked.map, failed.injEq, List.map_cons,
        List.map_nil, Issue.here, Issue.under, configIssue, ht, true_and]
      constructor
      · intro h
        refine ⟨fun o h' => ?_, h.symm⟩
        cases h'
      · intro h
        exact h.2.symm
  · rw [if_neg ht]
    simp only [reduceCtorEq, false_iff, not_and]
    exact fun h => absurd h ht

/-! ### Reading a mapping -/

theorem read_of_names {ms : Members} {n : String} {w : Json} (h : Names ms n w) :
    read (.obj ms) = ofParts n w := by
  cases h with
  | keyword hn hall => simp only [read, explicitName?_eq_some.mpr ⟨hn, hall⟩]
  | document hk hms =>
    subst hms
    simp only [read, explicitName?_eq_none.mpr hk]

theorem read_of_shapeless {ms : Members} (hk : ¬ KeywordForm ms) (h1 : ∀ k w, ms ≠ [(k, w)]) :
    read (.obj ms) = .failed [Issue.here (.valueError (shapeMessage (ms.map (·.1))))] := by
  dsimp only [read]
  rw [explicitName?_eq_none.mpr hk]
  dsimp only
  split
  · next k w => exact absurd rfl (h1 k w)
  · rfl

theorem read_eq_ok_iff {ms : Members} {r : ComponentRef} :
    read (.obj ms) = .ok r ↔ ∃ w, Names ms r.name w ∧ ConfigWritten w r.config := by
  constructor
  · intro h
    rcases names_or_shapeless ms with ⟨n, w, hnw⟩ | ⟨hk, h1⟩
    · rw [read_of_names hnw] at h
      obtain ⟨rfl, hc⟩ := ofParts_eq_ok_iff.mp h
      exact ⟨w, hnw, hc⟩
    · rw [read_of_shapeless hk h1] at h
      cases h
  · rintro ⟨w, hnw, hc⟩
    rw [read_of_names hnw]
    exact ofParts_eq_ok_iff.mpr ⟨rfl, hc⟩

theorem read_eq_failed_iff {ms : Members} {is : List Issue} :
    read (.obj ms) = .failed is ↔
      (¬ KeywordForm ms ∧ (∀ k w, ms ≠ [(k, w)]) ∧ is = [Issue.here (.valueError (shapeMessage (ms.map (·.1))))]) ∨
      (∃ n w, Names ms n w ∧ w.truthy = true ∧ (∀ o, w ≠ .obj o) ∧ is = [configIssue]) := by
  constructor
  · intro h
    rcases names_or_shapeless ms with ⟨n, w, hnw⟩ | ⟨hk, h1⟩
    · rw [read_of_names hnw] at h
      obtain ⟨ht, hno, rfl⟩ := ofParts_eq_failed_iff.mp h
      exact .inr ⟨n, w, hnw, ht, hno, rfl⟩
    · rw [read_of_shapeless hk h1] at h
      cases h
      exact .inl ⟨hk, h1, rfl⟩
  · rintro (⟨hk, h1, rfl⟩ | ⟨n, w, hnw, ht, hno, rfl⟩)
    · exact read_of_shapeless hk h1
    · rw [read_of_names hnw]
      exact ofParts_eq_failed_iff.mpr ⟨ht, hno, rfl⟩

theorem read_of_not_obj {v : Json} (h : ∀ ms, v ≠ .obj ms) : read v = .failed [Issue.here .modelType] := by
  cases v with
  | obj ms => exact absurd rfl (h ms)
  | _ => rfl

/-! ### Writing a reference back -/

/-- The one-key form of a reference is not the keyword form: the one value is a mapping, not a
name. --/
theorem names_toDocument (c : ComponentRef) : Names [(c.name, .obj c.config)] c.name (.obj c.config) := by
  refine .document ?_ rfl
  rintro ⟨⟨n, hn⟩, -⟩
  by_cases hk : c.name = "name"
  · simp [Members.get?, hk] at hn
  · simp [Members.get?, hk] at hn

theorem configWritten_obj (config : Members) : ConfigWritten (.obj config) config := .inr rfl

theorem read_toDocument (c : ComponentRef) : read c.toDocument = .ok c :=
  read_eq_ok_iff.mpr ⟨_, names_toDocument c, configWritten_obj _⟩

/-- What reading a reference does with every value: which values it accepts and as what, the
problem it reports for each mapping it refuses and for anything that is not a mapping, and that
both written forms of a reference read as the reference again. --/
structure Forms : Prop where
  accepts : ∀ v r, read v = .ok r ↔ ∃ ms w, v = .obj ms ∧ Names ms r.name w ∧ ConfigWritten w r.config
  refuses : ∀ ms is, read (.obj ms) = .failed is ↔
    (¬ KeywordForm ms ∧ (∀ k w, ms ≠ [(k, w)]) ∧ is = [Issue.here (.valueError (shapeMessage (ms.map (·.1))))]) ∨
    (∃ n w, Names ms n w ∧ w.truthy = true ∧ (∀ o, w ≠ .obj o) ∧ is = [configIssue])
  notMapping : ∀ v, (∀ ms, v ≠ .obj ms) → read v = .failed [Issue.here .modelType]
  document : ∀ c : ComponentRef, read c.toDocument = .ok c
  dump : ∀ c : ComponentRef, read c.toJson = .ok c

theorem componentRef_forms : Forms where
  accepts v r := by
    cases v with
    | obj ms =>
      rw [read_eq_ok_iff]
      constructor
      · rintro ⟨w, h⟩
        exact ⟨ms, w, rfl, h⟩
      · rintro ⟨ms', w, hv, h⟩
        cases hv
        exact ⟨w, h⟩
    | _ =>
      constructor
      · intro h
        cases h
      · rintro ⟨_, _, hv, _⟩
        cases hv
  refuses _ _ := read_eq_failed_iff
  notMapping _ := read_of_not_obj
  document := read_toDocument
  dump := read_toJson

end ComponentRef

end Telemetry.Model
