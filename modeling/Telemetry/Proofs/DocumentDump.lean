import Telemetry.Model.Document

/-!
# Reading a dump back

A document is dumped with every section written out: optional sections as `null`, lists as lists,
component references in the explicit form `{name, config}`, the resource detectors under their
alias `detection/development`, and the sections this assembler does not know after the known
ones. Reading such a dump gives the document back.

Two things hold of a document only because it was read: every bound of its limits is at least
zero, and no key of an unknown section is the key of a known one (`Dumpable`). Each section reads
its own dump back once its bounds are (`read_toJson` lemmas, one per section); the document does
once it is dumpable; and every document read from a mapping is dumpable.
-/

namespace Telemetry.Model

open Schema Checked

/-! ### Reading fields of a dump -/

section Fields

variable {α : Type}

theorem readItems_map {β : Type} {r : Json → Checked α} {f : β → Json} {g : β → α} :
    ∀ (xs : List β) (i : Nat), (∀ x ∈ xs, r (f x) = .ok (g x)) → readItems r i (xs.map f) = .ok (xs.map g)
  | [], _, _ => rfl
  | x :: xs, i, h => by
    have hx : r (f x) = .ok (g x) := h x List.mem_cons_self
    have hxs := readItems_map xs (i + 1) fun y hy => h y (List.mem_cons_of_mem x hy)
    simp only [List.map_cons, readItems, hx, hxs]
    rfl

theorem readList_map {r : Json → Checked α} {xs : List α} {f : α → Json} (h : ∀ x ∈ xs, r (f x) = .ok x) :
    readList r (.arr (xs.map f)) = .ok xs := by
  simpa [readList] using readItems_map (g := id) xs 0 h

theorem readOptional_of_ok {r : Json → Checked α} {v : Json} {a : α} (hv : v ≠ .null) (h : r v = .ok a) :
    readOptional r v = .ok (some a) := by
  unfold readOptional
  split
  · exact absurd rfl hv
  · rw [h]
    rfl

theorem optionalField_eq_ok {ms : Members} {keys : List String} {r : Json → Checked α} {a dflt : α}
    (h : optionalField ms keys r dflt = .ok a) :
    (lookup ms keys = none ∧ a = dflt) ∨ ∃ k v, lookup ms keys = some (k, v) ∧ r v = .ok a := by
  unfold optionalField at h
  split at h
  · next k v hl => exact .inr ⟨k, v, hl, Checked.under_eq_ok h⟩
  · next hl =>
    cases h
    exact .inl ⟨hl, rfl⟩

theorem readOptional_eq_ok_some {r : Json → Checked α} {v : Json} {a : α} (h : readOptional r v = .ok (some a)) :
    r v = .ok a := by
  unfold readOptional at h
  split at h
  · cases h
  · obtain ⟨a', ha', he⟩ := Checked.map_eq_ok h
    cases he
    exact ha'

theorem readSection_eq_ok {r : Members → Checked α} {v : Json} {a : α} (h : readSection r v = .ok a) :
    ∃ ms, v = .obj ms ∧ r ms = .ok a := by
  unfold readSection at h
  split at h
  · exact ⟨_, rfl, h⟩
  · cases h

/-- A field read as an optional section that is set was read by the section's reader. --/
theorem section_of_optionalField {ms : Members} {k : String} {r : Json → Checked α} {o : Option α} {a : α}
    (h : optionalField ms [k] (readOptional r) none = .ok o) (ha : o = some a) : ∃ v, r v = .ok a := by
  subst ha
  rcases optionalField_eq_ok h with ⟨-, h⟩ | ⟨_, v, -, hv⟩
  · cases h
  · exact ⟨v, readOptional_eq_ok_some hv⟩

end Fields

/-! ### Sections -/

namespace ComponentRef

/-- A reference is read back from its explicit form, whatever its name: `name` and `config`
included. --/
theorem read_toJson (c : ComponentRef) : read c.toJson = .ok c := by
  obtain ⟨name, config⟩ := c
  have hname : explicitName? [("name", .str name), ("config", .obj config)] = some name := by
    simp [explicitName?, Members.get?]
  simp only [toJson, read, hname]
  -- an empty configuration counts as false, and is read as the empty one
  cases config with
  | nil => rfl
  | cons m ms => rfl

end ComponentRef

/-! ### Limits -/

/-- A bound that is set is at least zero, as reading one requires. --/
def BoundOk (o : Option Int) : Prop := ∀ i, o = some i → 0 ≤ i

/-- Every bound of a limits section is at least zero. --/
def BoundsOk (es : List (String × Option Int)) : Prop := ∀ e ∈ es, BoundOk e.2

theorem boundsJson_eq_elim (es : List (String × Option Int)) :
    boundsJson es = .obj (es.map fun e => (e.1, e.2.elim .null .int)) := by
  unfold boundsJson
  congr 1
  apply List.map_congr_left
  intro e _
  cases e.2 <;> rfl

theorem readBound_elim {o : Option Int} (h : BoundOk o) : readBound (o.elim .null .int) = .ok o := by
  cases o with
  | none => rfl
  | some i =>
    have hi : 0 ≤ i := h i rfl
    simp [readBound, readOptional, readIntWithin, readInt, Checked.bind, firstProblem, Bound.checkInt, hi,
      Checked.map]

theorem readIntWithin_atLeast {v : Json} {b i : Int} (h : readIntWithin [.atLeast b] v = .ok i) : b ≤ i := by
  unfold readIntWithin at h
  cases hr : readInt v with
  | failed is =>
    rw [hr] at h
    cases h
  | ok j =>
    rw [hr] at h
    by_cases hb : b ≤ j
    · simp [Checked.bind, firstProblem, Bound.checkInt, hb] at h
      cases h
      exact hb
    · simp [Checked.bind, firstProblem, Bound.checkInt, hb, fail] at h

/-- A bound read from a field is at least zero. --/
theorem boundOk_of_field {ms : Members} {k : String} {o : Option Int}
    (h : optionalField ms [k] readBound none = .ok o) : BoundOk o := by
  intro i hi
  obtain ⟨_, hv⟩ := section_of_optionalField h hi
  exact readIntWithin_atLeast hv

theorem AttributeLimits.read_toJson (l : AttributeLimits) (h : BoundsOk l.entries) :
    AttributeLimits.read (boundsJson l.entries) = .ok l := by
  obtain ⟨v, c⟩ := l
  have hv := readBound_elim (h _ List.mem_cons_self)
  have hc := readBound_elim (h _ (List.mem_cons_of_mem _ List.mem_cons_self))
  simp [read, readSection, ofMembers, boundsJson_eq_elim, entries, closed, unusedKeys, lookup,
    optionalField, hv, hc, attributeLimitKeys, Checked.under, Checked.alsoFailing]
  rfl

theorem SpanLimitSettings.read_toJson (l : SpanLimitSettings) (h : BoundsOk l.entries) :
    SpanLimitSettings.read (boundsJson l.entries) = .ok l := by
  obtain ⟨v, c, ec, lc, eac, lac⟩ := l
  have hv := readBound_elim (h ("attribute_value_length_limit", v) (by simp [entries]))
  have hc := readBound_elim (h ("attribute_count_limit", c) (by simp [entries]))
  have hec := readBound_elim (h ("event_count_limit", ec) (by simp [entries]))
  have hlc := readBound_elim (h ("link_count_limit", lc) (by simp [entries]))
  have heac := readBound_elim (h ("event_attribute_count_limit", eac) (by simp [entries]))
  have hlac := readBound_elim (h ("link_attribute_count_limit", lac) (by simp [entries]))
  simp [read, readSection, ofMembers, boundsJson_eq_elim, entries, closed, unusedKeys, lookup,
    optionalField, hv, hc, hec, hlc, heac, hlac, spanLimitKeys, attributeLimitKeys, Checked.under,
    Checked.alsoFailing]
  rfl

theorem AttributeLimits.boundsOk_of_read {v : Json} {l : AttributeLimits} (h : AttributeLimits.read v = .ok l) :
    BoundsOk l.entries := by
  obtain ⟨ms, -, hm⟩ := readSection_eq_ok h
  obtain ⟨_, c, h1, hc, rfl⟩ := Checked.seq_eq_ok (Checked.alsoFailing_eq_ok hm)
  obtain ⟨v, hv, rfl⟩ := Checked.map_eq_ok h1
  intro e he
  simp only [entries, List.mem_cons, List.not_mem_nil, or_false] at he
  rcases he with rfl | rfl
  · exact boundOk_of_field hv
  · exact boundOk_of_field hc

theorem SpanLimitSettings.boundsOk_of_read {v : Json} {l : SpanLimitSettings}
    (h : SpanLimitSettings.read v = .ok l) : BoundsOk l.entries := by
  obtain ⟨ms, -, hm⟩ := readSection_eq_ok h
  obtain ⟨_, lac, h5, hlac, rfl⟩ := Checked.seq_eq_ok (Checked.alsoFailing_eq_ok hm)
  obtain ⟨_, eac, h4, heac, rfl⟩ := Checked.seq_eq_ok h5
  obtain ⟨_, lc, h3, hlc, rfl⟩ := Checked.seq_eq_ok h4
  obtain ⟨_, ec, h2, hec, rfl⟩ := Checked.seq_eq_ok h3
  obtain ⟨_, c, h1, hc, rfl⟩ := Checked.seq_eq_ok h2
  obtain ⟨v, hv, rfl⟩ := Checked.map_eq_ok h1
  intro e he
  simp only [entries, List.mem_cons, List.not_mem_nil, or_false] at he
  rcases he with rfl | rfl | rfl | rfl | rfl | rfl
  · exact boundOk_of_field hv
  · exact boundOk_of_field hc
  · exact boundOk_of_field hec
  · exact boundOk_of_field hlc
  · exact boundOk_of_field heac
  · exact boundOk_of_field hlac

/-! ### The resource section -/

theorem readOptional_optText (o : Option String) : readOptional readText (optText o) = .ok o := by
  cases o <;> rfl

theorem AttributeType.readChoice_name (t : AttributeType) :
    readChoice AttributeType.table (.str t.name) = .ok t := by
  cases t <;> rfl

theorem AttributeEntry.read_toJson (a : AttributeEntry) : AttributeEntry.read a.toJson = .ok a := by
  obtain ⟨name, value, type⟩ := a
  simp [read, readSection, ofMembers, toJson, closed, unusedKeys, lookup, requiredField, optionalField,
    readText, AttributeType.readChoice_name, Checked.under, Checked.alsoFailing]
  rfl

/-- The detection section as a dump writes it. --/
theorem Detection.read_dump (d : Detection) :
    Detection.read (.obj [("detectors", .arr (d.detectors.map ComponentRef.toJson))]) = .ok d := by
  have hd : readList ComponentRef.read (.arr (d.detectors.map ComponentRef.toJson)) = .ok d.detectors :=
    readList_map fun c _ => ComponentRef.read_toJson c
  simp [Detection.read, readSection, closed, unusedKeys, lookup, optionalField, hd, Checked.under,
    Checked.alsoFailing]
  rfl

theorem ResourceSection.read_toJson (r : ResourceSection) : ResourceSection.read r.toJson = .ok r := by
  obtain ⟨attributes, attributesList, schemaUrl, detection⟩ := r
  have ha : readList AttributeEntry.read (.arr (attributes.map AttributeEntry.toJson)) = .ok attributes :=
    readList_map fun a _ => AttributeEntry.read_toJson a
  cases detection with
  | none =>
    simp [read, readSection, toJson, closed, unusedKeys, lookup, optionalField, detectionKeys, ha,
      readOptional_optText, Checked.under, Checked.alsoFailing]
    rfl
  | some d =>
    have hd := readOptional_of_ok (by simp) (Detection.read_dump d)
    simp [read, readSection, toJson, closed, unusedKeys, lookup, optionalField, detectionKeys, ha, hd,
      readOptional_optText, Checked.under, Checked.alsoFailing]
    rfl

/-! ### Propagators and signals -/

theorem readOptional_optRefJson (o : Option ComponentRef) :
    readOptional ComponentRef.read (optRefJson o) = .ok o := by
  cases o with
  | none => rfl
  | some c => exact readOptional_of_ok (by simp [optRefJson, ComponentRef.toJson]) (ComponentRef.read_toJson c)

theorem readRefs_refsJson (cs : List ComponentRef) : readRefs (refsJson cs) = .ok cs :=
  readList_map fun c _ => ComponentRef.read_toJson c

theorem PropagatorSection.read_toJson (p : PropagatorSection) : PropagatorSection.read p.toJson = .ok p := by
  obtain ⟨composite, compositeList⟩ := p
  have hc : readList ComponentRef.read (.arr (composite.map ComponentRef.toJson)) = .ok composite :=
    readList_map fun c _ => ComponentRef.read_toJson c
  cases compositeList <;>
    simp [read, readSection, toJson, closed, unusedKeys, lookup, optionalField, hc, readOptional,
      readText, Checked.under, Checked.alsoFailing, Checked.map] <;> rfl

theorem TracerSection.read_toJson (t : TracerSection) (h : ∀ l, t.limits = some l → BoundsOk l.entries) :
    TracerSection.read t.toJson = .ok t := by
  obtain ⟨processors, limits, sampler⟩ := t
  have hp := readRefs_refsJson processors
  cases limits with
  | none =>
    simp [read, readSection, toJson, closed, unusedKeys, lookup, optionalField, hp,
      readOptional_optRefJson, Checked.under, Checked.alsoFailing]
    rfl
  | some l =>
    have hl := readOptional_of_ok (by simp [boundsJson]) (SpanLimitSettings.read_toJson l (h l rfl))
    simp [read, readSection, toJson, closed, unusedKeys, lookup, optionalField, hp, hl,
      readOptional_optRefJson, Checked.under, Checked.alsoFailing]
    rfl

theorem LoggerSection.read_toJson (s : LoggerSection) (h : ∀ l, s.limits = some l → BoundsOk l.entries) :
    LoggerSection.read s.toJson = .ok s := by
  obtain ⟨processors, limits⟩ := s
  have hp := readRefs_refsJson processors
  cases limits with
  | none =>
    simp [read, readSection, toJson, closed, unusedKeys, lookup, optionalField, hp, Checked.under,
      Checked.alsoFailing]
    rfl
  | some l =>
    have hl := readOptional_of_ok (by simp [boundsJson]) (AttributeLimits.read_toJson l (h l rfl))
    simp [read, readSection, toJson, closed, unusedKeys, lookup, optionalField, hp, hl, Checked.under,
      Checked.alsoFailing]
    rfl

theorem readOptional_choice {β : Type} {table : List (String × β)} {name : β → String}
    (h : ∀ b, readChoice table (.str (name b)) = .ok b) (o : Option β) :
    readOptional (readChoice table) (optText (o.map name)) = .ok o := by
  cases o with
  | none => rfl
  | some b => exact readOptional_of_ok (by simp [optText]) (h b)

theorem InstrumentKind.readChoice_name (k : InstrumentKind) :
    readChoice InstrumentKind.table (.str k.name) = .ok k := by
  cases k <;> rfl

theorem ExemplarChoice.readChoice_name (e : ExemplarChoice) :
    readChoice ExemplarChoice.table (.str e.name) = .ok e := by
  cases e <;> rfl

theorem ViewSelector.read_toJson (s : ViewSelector) : ViewSelector.read s.toJson = .ok s := by
  obtain ⟨instrumentName, instrumentType, unit, meterName, meterVersion, meterSchemaUrl⟩ := s
  have ht := readOptional_choice InstrumentKind.readChoice_name instrumentType
  simp [read, readSection, toJson, closed, unusedKeys, lookup, optionalField, ht, readOptional_optText,
    Checked.under, Checked.alsoFailing]
  rfl

theorem readOptional_optTexts (o : Option (List String)) :
    readOptional (readList readText) (optTexts o) = .ok o := by
  cases o with
  | none => rfl
  | some xs => exact readOptional_of_ok (by simp [optTexts]) (readList_map fun _ _ => rfl)

/-- The attribute keys of a view stream as a dump writes them. --/
theorem AttributeKeys.read_dump (k : AttributeKeys) :
    AttributeKeys.read (.obj [("included", optTexts k.included), ("excluded", optTexts k.excluded)]) = .ok k := by
  simp [AttributeKeys.read, readSection, closed, unusedKeys, lookup, optionalField, readOptional_optTexts,
    Checked.under, Checked.alsoFailing]
  rfl

theorem ViewStream.read_toJson (s : ViewStream) : ViewStream.read s.toJson = .ok s := by
  obtain ⟨name, description, aggregation, attributeKeys⟩ := s
  cases attributeKeys with
  | none =>
    simp [read, readSection, toJson, closed, unusedKeys, lookup, optionalField, readOptional_optText,
      readOptional_optRefJson, Checked.under, Checked.alsoFailing]
    rfl
  | some k =>
    have hk := readOptional_of_ok (by simp) (AttributeKeys.read_dump k)
    simp [read, readSection, toJson, closed, unusedKeys, lookup, optionalField, readOptional_optText,
      readOptional_optRefJson, hk, Checked.under, Checked.alsoFailing]
    rfl

theorem ViewSpec.read_toJson (v : ViewSpec) : ViewSpec.read v.toJson = .ok v := by
  obtain ⟨selector, stream⟩ := v
  simp [read, readSection, toJson, closed, unusedKeys, lookup, optionalField, ViewSelector.read_toJson,
    ViewStream.read_toJson, Checked.under, Checked.alsoFailing]
  rfl

theorem MeterSection.read_toJson (m : MeterSection) : MeterSection.read m.toJson = .ok m := by
  obtain ⟨readers, views, exemplarFilter⟩ := m
  have hv : readList ViewSpec.read (.arr (views.map ViewSpec.toJson)) = .ok views :=
    readList_map fun v _ => ViewSpec.read_toJson v
  have he := readOptional_choice ExemplarChoice.readChoice_name exemplarFilter
  simp [read, readSection, toJson, closed, unusedKeys, lookup, optionalField, readRefs_refsJson, hv, he,
    Checked.under, Checked.alsoFailing]
  rfl

theorem TracerSection.boundsOk_of_read {v : Json} {t : TracerSection} (h : TracerSection.read v = .ok t) :
    ∀ l, t.limits = some l → BoundsOk l.entries := by
  obtain ⟨ms, -, hm⟩ := readSection_eq_ok h
  obtain ⟨_, _, h2, -, rfl⟩ := Checked.seq_eq_ok (Checked.alsoFailing_eq_ok hm)
  obtain ⟨_, o, h1, ho, rfl⟩ := Checked.seq_eq_ok h2
  obtain ⟨_, -, rfl⟩ := Checked.map_eq_ok h1
  intro l hl
  obtain ⟨_, hr⟩ := section_of_optionalField ho hl
  exact SpanLimitSettings.boundsOk_of_read hr

theorem LoggerSection.boundsOk_of_read {v : Json} {s : LoggerSection} (h : LoggerSection.read v = .ok s) :
    ∀ l, s.limits = some l → BoundsOk l.entries := by
  obtain ⟨ms, -, hm⟩ := readSection_eq_ok h
  obtain ⟨_, o, h1, ho, rfl⟩ := Checked.seq_eq_ok (Checked.alsoFailing_eq_ok hm)
  obtain ⟨_, -, rfl⟩ := Checked.map_eq_ok h1
  intro l hl
  obtain ⟨_, hr⟩ := section_of_optionalField ho hl
  exact AttributeLimits.boundsOk_of_read hr

/-! ### The document -/

namespace Document

/-- What a document holds because it was read: every bound of its limits is at least zero, and no
unknown section has the key of a known one. --/
structure Dumpable (d : Document) : Prop where
  attributeLimits : ∀ l, d.attributeLimits = some l → BoundsOk l.entries
  loggerLimits : ∀ s, d.loggerProvider = some s → ∀ l, s.limits = some l → BoundsOk l.entries
  tracerLimits : ∀ s, d.tracerProvider = some s → ∀ l, s.limits = some l → BoundsOk l.entries
  extra : ∀ m ∈ d.extra, m.1 ∉ knownKeys

theorem readOptional_optSection {α : Type} {r : Json → Checked α} {f : α → Json} {o : Option α}
    (hn : ∀ a, f a ≠ .null) (h : ∀ a, o = some a → r (f a) = .ok a) :
    readOptional r (optSection f o) = .ok o := by
  cases o with
  | none => rfl
  | some a => exact readOptional_of_ok (hn a) (h a rfl)

theorem parse_toJson (d : Document) (h : Dumpable d) : parse d.toJson = .ok d := by
  obtain ⟨fileFormat, disabled, propagator, resource, attributeLimits, loggerProvider, tracerProvider,
    meterProvider, extra⟩ := d
  -- every known section reads back, the limits because their bounds are at least zero
  have hp : readOptional PropagatorSection.read (optSection PropagatorSection.toJson propagator) = .ok propagator :=
    readOptional_optSection (fun _ => by simp [PropagatorSection.toJson])
      fun p _ => PropagatorSection.read_toJson p
  have hr : readOptional ResourceSection.read (optSection ResourceSection.toJson resource) = .ok resource :=
    readOptional_optSection (fun _ => by simp [ResourceSection.toJson])
      fun r _ => ResourceSection.read_toJson r
  have ha : readOptional AttributeLimits.read (optSection (fun l => boundsJson l.entries) attributeLimits) =
      .ok attributeLimits :=
    readOptional_optSection (fun _ => by simp [boundsJson])
      fun l hl => AttributeLimits.read_toJson l (h.attributeLimits l hl)
  have hl : readOptional LoggerSection.read (optSection LoggerSection.toJson loggerProvider) = .ok loggerProvider :=
    readOptional_optSection (fun _ => by simp [LoggerSection.toJson])
      fun s hs => LoggerSection.read_toJson s (h.loggerLimits s hs)
  have ht : readOptional TracerSection.read (optSection TracerSection.toJson tracerProvider) = .ok tracerProvider :=
    readOptional_optSection (fun _ => by simp [TracerSection.toJson])
      fun s hs => TracerSection.read_toJson s (h.tracerLimits s hs)
  have hm : readOptional MeterSection.read (optSection MeterSection.toJson meterProvider) = .ok meterProvider :=
    readOptional_optSection (fun _ => by simp [MeterSection.toJson])
      fun m _ => MeterSection.read_toJson m
  -- the unknown sections come after the known ones, so a lookup finds the known one
  have hx : extra.filter (fun m => !knownKeys.contains m.1) = extra :=
    List.filter_eq_self.mpr fun m hm => by simpa using h.extra m hm
  simp only [parse, toJson, ofMembers, List.filter_append, hx]
  cases disabled with
  | none =>
    have hd : readOptional readBool .null = .ok none := rfl
    simp [optionalField, lookup, hd, hp, hr, ha, hl, ht, hm, Checked.under]
    rfl
  | some b =>
    have hd : readOptional readBool (.bool b) = .ok (some b) := rfl
    simp [optionalField, lookup, hd, hp, hr, ha, hl, ht, hm, Checked.under]
    rfl

theorem dumpable_of_parse {v : Json} {d : Document} (h : parse v = .ok d) : Dumpable d := by
  -- only a mapping is read, and then as the record of its sections
  obtain ⟨ms, hms⟩ : ∃ ms, ofMembers ms = .ok d := by
    unfold parse at h
    split at h
    · split at h
      · next hd =>
        cases h
        exact ⟨_, hd⟩
      · cases h
    · cases h
  obtain ⟨_, m, h7, -, rfl⟩ := Checked.seq_eq_ok hms
  obtain ⟨_, t, h6, ht, rfl⟩ := Checked.seq_eq_ok h7
  obtain ⟨_, l, h5, hl, rfl⟩ := Checked.seq_eq_ok h6
  obtain ⟨_, a, h4, ha, rfl⟩ := Checked.seq_eq_ok h5
  obtain ⟨_, _, h3, -, rfl⟩ := Checked.seq_eq_ok h4
  obtain ⟨_, _, h2, -, rfl⟩ := Checked.seq_eq_ok h3
  obtain ⟨_, _, h1, -, rfl⟩ := Checked.seq_eq_ok h2
  obtain ⟨_, -, rfl⟩ := Checked.map_eq_ok h1
  refine ⟨fun lim hlim => ?_, fun s hs lim hlim => ?_, fun s hs lim hlim => ?_, fun x hx => ?_⟩
  · obtain ⟨_, hr⟩ := section_of_optionalField ha hlim
    exact AttributeLimits.boundsOk_of_read hr
  · obtain ⟨_, hr⟩ := section_of_optionalField hl hs
    exact LoggerSection.boundsOk_of_read hr lim hlim
  · obtain ⟨_, hr⟩ := section_of_optionalField ht hs
    exact TracerSection.boundsOk_of_read hr lim hlim
  · -- the unknown sections are the members whose key is not a known one
    simpa using (List.mem_filter.mp hx).2

/-- A document read from a mapping is read back from its dump, which the document dumps to again. --/
theorem parse_toJson_of_parse {v : Json} {d : Document} (h : parse v = .ok d) :
    parse d.toJson = .ok d ∧ (parse d.toJson).map toJson = .ok d.toJson := by
  have hd := parse_toJson d (dumpable_of_parse h)
  exact ⟨hd, by rw [hd]; rfl⟩

/-- A document with an unknown section, a detector named `name` under the alias of the
detection section, and a view that sets nothing. --/
theorem parse_toJson_of_parse_named_detector :
    ∃ d, parse (.obj [("file_format", .str "1.0"), ("custom", .int 1),
        ("resource", .obj [("detection/development",
          .obj [("detectors", .arr [.obj [("name", .obj [("x", .int 1)])]])])]),
        ("meter_provider", .obj [("views", .arr [.obj []])])]) = .ok d ∧
      parse d.toJson = .ok d ∧ (parse d.toJson).map toJson = .ok d.toJson :=
  have h : parse (.obj [("file_format", .str "1.0"), ("custom", .int 1),
        ("resource", .obj [("detection/development",
          .obj [("detectors", .arr [.obj [("name", .obj [("x", .int 1)])]])])]),
        ("meter_provider", .obj [("views", .arr [.obj []])])]) =
      .ok ⟨.str "1.0", none, none, some ⟨[], none, none, some ⟨[⟨"name", [("x", .int 1)]⟩]⟩⟩, none, none, none,
        some ⟨[], [⟨ViewSelector.empty, ViewStream.empty⟩], none⟩, [("custom", .int 1)]⟩ := rfl
  ⟨_, h, parse_toJson_of_parse h⟩

end Document

end Telemetry.Model
