import Telemetry.Proofs.ResourceLayers

/-!
Declared resource attributes against their types.

A declared attribute holds a value of its type (`Holds`): text for `string`, a boolean for `bool`,
an integer that is no boolean for `int`, and for `double` a float, or an integer held as the
double nearest to it. An array type holds a list whose every item holds the element type, item by
item. Checking an attribute answers exactly the value it holds.

Every other attribute is refused with a configuration error that names the attribute and quotes
the offending value, with one exception: an integer declared `double` that lies beyond every double
cannot be converted, and the overflow of that conversion surfaces instead, also when it is the
first offending item of a `double_array` (`AttributeEntry.Overflows`). A resource section reports
the error of its first entry that does not hold its type.
-/

namespace Telemetry.Model

/-- A value of a declared scalar type, and the value it is held as: text and booleans as they are,
an integer that is no boolean as it is, and for `double` a float as it is or an integer as the
double nearest to it, when there is one. --/
def ScalarHolds : AttributeType → Json → Json → Prop
  | .string, .str s, r => r = .str s
  | .bool, .bool b, r => r = .bool b
  | .int, .int i, r => r = .int i
  | .double, .float x, r => r = .float x
  | .double, .int i, r => ∃ x, Binary64.ofInt? i = some x ∧ r = .float x
  | _, _, _ => False

/-- An integer beyond every double: converting it to a double overflows. --/
def BeyondDouble (v : Json) : Prop := ∃ i, v = .int i ∧ Binary64.ofInt? i = none

/-- What a value declared with type `t` holds: a scalar as `ScalarHolds` says, and for an array
type a list whose items hold the element type, item by item. --/
def Holds (t : AttributeType) (v r : Json) : Prop :=
  match t.element? with
  | some u => ∃ xs ys, v = .arr xs ∧ r = .arr ys ∧ List.Forall₂ (ScalarHolds u) xs ys
  | none => ScalarHolds t v r

/-- Checking an attribute overflows: it is declared `double` and is an integer beyond every double,
or it is declared `double_array` and the first of its items that holds no double is such an
integer. --/
def AttributeEntry.Overflows (a : AttributeEntry) : Prop :=
  (a.type = .double ∧ BeyondDouble a.value) ∨
    (a.type = .doubleArray ∧ ∃ pre x post, a.value = .arr (pre ++ x :: post) ∧
      (∀ y ∈ pre, ∃ r, ScalarHolds .double y r) ∧ BeyondDouble x)

/-! ### One value -/

section Scalar

variable {n : String} {t : AttributeType} {v r : Json} {e : Fault}

theorem coerceScalar_eq_ok_iff : coerceScalar n t v = .ok r ↔ ScalarHolds t v r := by
  cases t <;> cases v <;> simp [coerceScalar, ScalarHolds, eq_comm]
  -- an integer declared `double` holds exactly when a double is near it
  case double.int i =>
    cases h : Binary64.ofInt? i <;> simp [eq_comm]

theorem coerceScalar_overflow (h : BeyondDouble v) : coerceScalar n .double v = .error tooLargeForFloat := by
  obtain ⟨i, rfl, hi⟩ := h
  simp [coerceScalar, hi]

/-- A refused value is an integer declared `double` beyond every double, or it is quoted with the
type it was declared with. --/
theorem coerceScalar_eq_error (h : coerceScalar n t v = .error e) :
    (t = .double ∧ BeyondDouble v ∧ e = tooLargeForFloat) ∨
      ((¬∃ r, ScalarHolds t v r) ∧ e = typeMismatch n t.name v) := by
  have hnot : ¬∃ r, ScalarHolds t v r := fun ⟨r, hr⟩ => by
    rw [← coerceScalar_eq_ok_iff (n := n)] at hr
    rw [hr] at h
    cases h
  cases t <;> cases v <;> simp only [coerceScalar, Except.error.injEq, reduceCtorEq] at h
  all_goals try exact .inr ⟨hnot, h.symm⟩
  -- what is left is an integer declared `double`, refused only when no double is near it
  case double.int i =>
    cases hi : Binary64.ofInt? i with
    | none =>
      rw [hi] at h
      exact .inl ⟨rfl, ⟨i, rfl, hi⟩, (Except.error.inj h).symm⟩
    | some x =>
      rw [hi] at h
      cases h

end Scalar

/-! ### Items of an array -/

section Items

variable {n : String} {t : AttributeType} {e : Fault}

theorem coerceItems_of_forall₂ {xs ys : List Json} (h : List.Forall₂ (ScalarHolds t) xs ys) :
    coerceItems n t xs = .ok ys := by
  induction h with
  | nil => rfl
  | cons hxy _ ih =>
    simp [coerceItems, coerceScalar_eq_ok_iff.mpr hxy, ih, bind, Except.bind, pure, Except.pure]

theorem forall₂_of_coerceItems : ∀ {xs ys : List Json}, coerceItems n t xs = .ok ys →
    List.Forall₂ (ScalarHolds t) xs ys
  | [], ys, h => by
    cases h
    exact .nil
  | x :: xs, ys, h => by
    obtain ⟨y, hy, h⟩ := Assembly.except_bind_eq_ok h
    obtain ⟨zs, hzs, h⟩ := Assembly.except_bind_eq_ok h
    cases h
    exact .cons (coerceScalar_eq_ok_iff.mp hy) (forall₂_of_coerceItems hzs)

theorem coerceItems_eq_ok_iff {xs ys : List Json} :
    coerceItems n t xs = .ok ys ↔ List.Forall₂ (ScalarHolds t) xs ys :=
  ⟨forall₂_of_coerceItems, coerceItems_of_forall₂⟩

/-- A list is refused with the error of its first item that holds no value of the type. --/
theorem coerceItems_eq_error : ∀ {xs : List Json}, coerceItems n t xs = .error e →
    ∃ pre x post, xs = pre ++ x :: post ∧ (∀ y ∈ pre, ∃ r, ScalarHolds t y r) ∧ coerceScalar n t x = .error e
  | [], h => by cases h
  | x :: xs, h => by
    cases hx : coerceScalar n t x with
    | error e' =>
      simp only [coerceItems, hx, bind, Except.bind, Except.error.injEq] at h
      subst h
      exact ⟨[], x, xs, rfl, (fun _ h => by cases h), hx⟩
    | ok y =>
      cases hxs : coerceItems n t xs with
      | error e' =>
        simp only [coerceItems, hx, hxs, bind, Except.bind] at h
        cases h
        obtain ⟨pre, z, post, rfl, hpre, hz⟩ := coerceItems_eq_error hxs
        refine ⟨x :: pre, z, post, rfl, fun w hw => ?_, hz⟩
        rcases List.mem_cons.mp hw with rfl | hw
        · exact ⟨y, coerceScalar_eq_ok_iff.mp hx⟩
        · exact hpre w hw
      | ok zs =>
        simp only [coerceItems, hx, hxs, bind, Except.bind, pure, Except.pure] at h
        cases h

theorem coerceItems_append_error {pre : List Json} {x : Json} (post : List Json)
    (hpre : ∀ y ∈ pre, ∃ r, ScalarHolds t y r) (hx : coerceScalar n t x = .error e) :
    coerceItems n t (pre ++ x :: post) = .error e := by
  induction pre with
  | nil => simp [coerceItems, hx, bind, Except.bind]
  | cons y pre ih =>
    obtain ⟨r, hr⟩ := hpre y List.mem_cons_self
    simp [coerceItems, coerceScalar_eq_ok_iff.mpr hr, ih fun z hz => hpre z (List.mem_cons_of_mem _ hz),
      bind, Except.bind]

end Items

/-! ### A declared attribute -/

section Attribute

variable {a : AttributeEntry} {r : Json} {e : Fault}

theorem coerceAttribute_eq_ok_iff : coerceAttribute a = .ok r ↔ Holds a.type a.value r := by
  unfold coerceAttribute Holds
  cases a.type.element? with
  | none => exact coerceScalar_eq_ok_iff
  | some u =>
    cases a.value with
    | arr xs =>
      simp only [Except.map, exists_and_left, Json.arr.injEq, exists_eq_left']
      cases h : coerceItems a.name u xs with
      | error e =>
        simp only [reduceCtorEq, false_iff, not_exists, not_and]
        intro ys _ hf
        cases (coerceItems_eq_ok_iff.mpr hf).symm.trans h
      | ok ys =>
        simp only [Except.ok.injEq]
        constructor
        · rintro rfl
          exact ⟨ys, rfl, coerceItems_eq_ok_iff.mp h⟩
        · rintro ⟨zs, rfl, hf⟩
          cases (coerceItems_eq_ok_iff.mpr hf).symm.trans h
          rfl
    | _ => simp

theorem coerceAttribute_overflow (h : a.Overflows) : coerceAttribute a = .error tooLargeForFloat := by
  unfold coerceAttribute
  rcases h with ⟨ht, hv⟩ | ⟨ht, pre, x, post, hv, hpre, hx⟩
  · rw [ht]
    exact coerceScalar_overflow hv
  · simp only [ht, hv, AttributeType.element?]
    rw [coerceItems_append_error post hpre (coerceScalar_overflow hx)]
    rfl

theorem element?_eq_some_double {t : AttributeType} : t.element? = some .double ↔ t = .doubleArray := by
  cases t <;> simp [AttributeType.element?]

/-- An attribute that holds nothing and does not overflow is refused with an error that names it
and the value that has not its type. --/
theorem coerceAttribute_mismatch (hnot : ¬∃ r, Holds a.type a.value r) (hno : ¬a.Overflows) :
    ∃ tn v, coerceAttribute a = .error (typeMismatch a.name tn v) := by
  cases hc : coerceAttribute a with
  | ok r => exact absurd ⟨r, coerceAttribute_eq_ok_iff.mp hc⟩ hnot
  | error e =>
    unfold coerceAttribute at hc
    -- the check splits on the element type, and so does the refusal
    cases ht : a.type.element? with
    | none =>
      rw [ht] at hc
      rcases coerceScalar_eq_error hc with ⟨hd, hb, -⟩ | ⟨-, rfl⟩
      · exact absurd (.inl ⟨hd, hb⟩) hno
      · exact ⟨_, _, rfl⟩
    | some u =>
      cases hv : a.value with
      | arr xs =>
        cases hi : coerceItems a.name u xs with
        | ok ys =>
          simp only [ht, hv, hi, Except.map, reduceCtorEq] at hc
        | error e' =>
          simp only [ht, hv, hi, Except.map, Except.error.injEq] at hc
          subst hc
          -- the list is refused at its first item that holds no value of the element type
          obtain ⟨pre, x, post, rfl, hpre, hx⟩ := coerceItems_eq_error hi
          rcases coerceScalar_eq_error hx with ⟨rfl, hb, -⟩ | ⟨-, rfl⟩
          · exact absurd (.inr ⟨element?_eq_some_double.mp ht, pre, x, post, hv, hpre, hb⟩) hno
          · exact ⟨_, _, rfl⟩
      | _ =>
        simp only [ht, hv, Except.error.injEq] at hc
        exact ⟨_, _, congrArg Except.error hc.symm⟩

end Attribute

/-! ### The attributes of a resource section -/

open Assembly in
theorem foldlM_writeEntry_error {a : AttributeEntry} {e : Fault} (post : List AttributeEntry)
    (ha : coerceAttribute a = .error e) :
    ∀ {pre : List AttributeEntry}, (∀ a' ∈ pre, ∃ r, coerceAttribute a' = .ok r) →
      ∀ init, (pre ++ a :: post).foldlM writeEntry init = .error e
  | [], _, init => by simp [writeEntry, ha, bind, Except.bind]
  | a' :: pre, hpre, init => by
    obtain ⟨r, hr⟩ := hpre a' List.mem_cons_self
    rw [List.cons_append, List.foldlM_cons]
    simp only [writeEntry, hr, bind, Except.bind]
    exact foldlM_writeEntry_error post ha (fun a'' h => hpre a'' (List.mem_cons_of_mem _ h)) _

/-- A section whose `key=value` list reads reports the error of its first entry that holds no
value of its type. --/
theorem sectionAttributes_first_refused {sec : ResourceSection} {listed : List (String × String)}
    (hp : parseKeyValueList sec.attributesList "resource attribute" = .ok listed)
    {pre post : List AttributeEntry} {a : AttributeEntry} (hs : sec.attributes = pre ++ a :: post)
    (hpre : ∀ a' ∈ pre, ∃ r, Holds a'.type a'.value r) {e : Fault} (ha : coerceAttribute a = .error e) :
    Assembly.sectionAttributes sec = Pipeline.Build.ofExcept (.error e) := by
  rw [Assembly.sectionAttributes_eq]
  congr 1
  simp only [Assembly.writtenAttributes, hp, pure_bind, hs]
  refine foldlM_writeEntry_error post ha (fun a' h => ?_) _
  obtain ⟨r, hr⟩ := hpre a' h
  exact ⟨r, coerceAttribute_eq_ok_iff.mpr hr⟩

/-- An attribute that does not overflow: checking it answers exactly the value it holds, or
refuses it with a configuration error that names it; and a resource section whose first entry
holding no value of its type is this one reports that error. --/
theorem coerceAttribute_outcomes (a : AttributeEntry) (hfit : ¬a.Overflows) :
    (∀ r, coerceAttribute a = .ok r ↔ Holds a.type a.value r) ∧
    ((¬∃ r, Holds a.type a.value r) →
      ∃ tn v, coerceAttribute a = .error (typeMismatch a.name tn v) ∧
        (typeMismatch a.name tn v).className = "InvalidFieldCombinationError") ∧
    (∀ (sec : ResourceSection) (listed : List (String × String)) (pre post : List AttributeEntry),
      parseKeyValueList sec.attributesList "resource attribute" = .ok listed →
      sec.attributes = pre ++ a :: post → (∀ a' ∈ pre, ∃ r, Holds a'.type a'.value r) →
      (¬∃ r, Holds a.type a.value r) →
      ∃ tn v, Assembly.sectionAttributes sec = Pipeline.Build.ofExcept (.error (typeMismatch a.name tn v))) := by
  refine ⟨fun _ => coerceAttribute_eq_ok_iff, fun hnot => ?_, ?_⟩
  · obtain ⟨tn, v, h⟩ := coerceAttribute_mismatch hnot hfit
    exact ⟨tn, v, h, rfl⟩
  · intro sec listed pre post hp hs hpre hnot
    obtain ⟨tn, v, h⟩ := coerceAttribute_mismatch hnot hfit
    exact ⟨tn, v, sectionAttributes_first_refused hp hs hpre h⟩

theorem coerceAttribute_outcomes_double :
    ¬(⟨"ratio", .int 2, .double⟩ : AttributeEntry).Overflows ∧
      (∀ r, coerceAttribute ⟨"ratio", .int 2, .double⟩ = .ok r ↔ Holds .double (.int 2) r) := by
  have hfit : ¬(⟨"ratio", .int 2, .double⟩ : AttributeEntry).Overflows := by
    rintro (⟨-, i, hi, hnone⟩ | ⟨hd, -⟩)
    · cases hi
      exact absurd hnone (by decide)
    · cases hd
  exact ⟨hfit, (coerceAttribute_outcomes _ hfit).1⟩

/-- A `double` attribute holding `10^400`: no double is near it, so its check fails with the
overflow of the conversion, neither answering a double nor naming the attribute. --/
theorem coerceAttribute_double_beyond_range :
    coerceAttribute ⟨"big", .int (Nat.pow 10 400), .double⟩ = .error tooLargeForFloat ∧
      tooLargeForFloat.className = "OverflowError" :=
  ⟨coerceAttribute_overflow (.inl ⟨rfl, _, rfl, by decide +kernel⟩), rfl⟩

end Telemetry.Model
