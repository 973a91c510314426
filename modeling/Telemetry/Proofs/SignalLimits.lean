import Telemetry.Proofs.KeyValueLists
import Telemetry.Proofs.BenchLaws
import Telemetry.Assembly.Create

/-!
Attribute limits, from the document to the providers.

A signal's limits are the document's shared attribute limits with the signal's own over them: a
bound the signal sets wins, zero included, a bound only the shared limits set stays, and a bound
neither sets is left out (`mergedBound`). Merging walks the bounds of each section in turn and
stores every bound that is set under its key, where a key stored already keeps its place and takes
the new value (`putBound`); so the merged limits hold each key once, with the bound of the last
section that sets it (`MergesOver`).

The tracer provider is built with span limits whose six fields are the merged bounds under their
keys (`spanLimitFields`), an unset one left to the default. The logger provider takes no limits of
its own: when the merged limits bound the count or the length of attributes, each of its
processors is given to it in order, wrapped in a limiting processor with these two bounds, and
otherwise as it is (`GivenTo`).
-/

namespace Telemetry

/-! ### Merging bounds -/

namespace Model

/-- The bound a section sets under a key, if it sets one. --/
def sectionBound (es : List (String × Option Int)) (k : String) : Option Int := (es.lookup k).join

/-- The bound of a signal under a key: its own when it sets one, else the shared one when that is
set. --/
def mergedBound (shared : Option AttributeLimits) (own : Option (List (String × Option Int))) (k : String) :
    Option Int :=
  (own.bind (sectionBound · k)).or (shared.bind (sectionBound ·.entries k))

/-- Store one bound of a section: a bound that is set goes under its key, which keeps its place
when it is stored already. --/
def putBound (acc : List (String × Int)) (e : String × Option Int) : List (String × Int) :=
  match e.2 with
  | some v => if acc.any (·.1 == e.1) then acc.map (fun a => if a.1 == e.1 then (e.1, v) else a)
              else acc ++ [(e.1, v)]
  | none => acc

/-- What merged limits are: each key once, under each key the bound of the signal or else the
shared one, and no key that neither sets. --/
structure MergesOver (shared : Option AttributeLimits) (own : Option (List (String × Option Int)))
    (merged : List (String × Int)) : Prop where
  distinct : (merged.map Prod.fst).Nodup
  bound : ∀ k, boundOf merged k = mergedBound shared own k
  keys : ∀ k, k ∈ merged.map Prod.fst ↔ (mergedBound shared own k).isSome

theorem mergeBounds_eq (sections : List (List (String × Option Int))) :
    mergeBounds sections = sections.foldl (fun acc es => es.foldl putBound acc) [] := rfl

theorem boundOf_eq_lookup (l : List (String × Int)) (k : String) : boundOf l k = l.lookup k := by
  induction l with
  | nil => rfl
  | cons p l ih =>
    obtain ⟨k', v⟩ := p
    simp only [boundOf] at ih ⊢
    rw [List.find?_cons, List.lookup_cons]
    by_cases hk : k' = k
    · simp [hk]
    · have hkk : (k == k') = false := beq_eq_false_iff_ne.mpr (Ne.symm hk)
      have hkk' : (k' == k) = false := beq_eq_false_iff_ne.mpr hk
      simp only [hkk, hkk', ih]

theorem mem_keys_iff_lookup_isSome {β : Type} (l : List (String × β)) (k : String) :
    k ∈ l.map Prod.fst ↔ (l.lookup k).isSome := by
  induction l with
  | nil => simp
  | cons p l ih =>
    obtain ⟨k', v⟩ := p
    rw [List.lookup_cons]
    by_cases hk : k = k'
    · simp [hk]
    · have hkk : (k == k') = false := beq_eq_false_iff_ne.mpr hk
      simp [hk, hkk, ih]

theorem lookup_putBound (acc : List (String × Int)) (e : String × Option Int) (x : String) :
    (putBound acc e).lookup x = (if x = e.1 then e.2 else none).or (acc.lookup x) := by
  obtain ⟨k, o⟩ := e
  cases o with
  | none => simp [putBound]
  | some v =>
    simp only [putBound]
    split
    · next hk =>
      -- the key is stored already: its value is replaced where it stands
      by_cases hx : x = k
      · subst hx
        rw [lookup_map_replace_self (mem_keys_of_any hk), if_pos rfl]
        rfl
      · rw [lookup_map_replace_of_ne acc hx, if_neg hx]
        rfl
    · next hk =>
      rw [List.lookup_append]
      by_cases hx : x = k
      · subst hx
        simp [lookup_eq_none_of_not_any hk]
      · rw [List.lookup_cons, beq_eq_false_iff_ne.mpr hx]
        simp [hx]

theorem nodup_putBound {acc : List (String × Int)} (h : (acc.map Prod.fst).Nodup) (e : String × Option Int) :
    ((putBound acc e).map Prod.fst).Nodup := by
  unfold putBound
  split
  · split
    · rwa [keys_map_replace]
    · next hk => exact nodup_keys_append h (Bool.eq_false_iff.mpr hk) _
  · exact h

/-- Within one section whose keys are distinct, each key ends with the section's bound when it
sets one. --/
theorem lookup_foldl_putBound (x : String) :
    ∀ (es : List (String × Option Int)) (acc : List (String × Int)), (es.map Prod.fst).Nodup →
      (es.foldl putBound acc).lookup x = (sectionBound es x).or (acc.lookup x)
  | [], acc, _ => by simp [sectionBound]
  | (k, o) :: es, acc, h => by
    obtain ⟨hk, hes⟩ := List.nodup_cons.mp h
    rw [List.foldl_cons, lookup_foldl_putBound x es _ hes, lookup_putBound]
    by_cases hx : x = k
    · -- the section sets `x` only here, so nothing after this entry changes it
      subst hx
      have hnone : es.lookup x = none :=
        Option.not_isSome_iff_eq_none.mp ((mem_keys_iff_lookup_isSome es x).not.mp hk)
      simp [hnone, sectionBound]
    · simp [hx, sectionBound, List.lookup_cons, beq_eq_false_iff_ne.mpr hx]

theorem lookup_foldl_sections (x : String) :
    ∀ (secs : List (List (String × Option Int))) (acc : List (String × Int)),
      (∀ es ∈ secs, (es.map Prod.fst).Nodup) →
      (secs.foldl (fun acc es => es.foldl putBound acc) acc).lookup x =
        secs.foldl (fun o es => (sectionBound es x).or o) (acc.lookup x)
  | [], _, _ => rfl
  | es :: secs, acc, h => by
    rw [List.foldl_cons, List.foldl_cons, lookup_foldl_sections x secs _ fun es' h' => h es' (List.mem_cons_of_mem _ h'),
      lookup_foldl_putBound x es acc (h es List.mem_cons_self)]

theorem nodup_foldl_sections :
    ∀ (secs : List (List (String × Option Int))) (acc : List (String × Int)), (acc.map Prod.fst).Nodup →
      ((secs.foldl (fun acc es => es.foldl putBound acc) acc).map Prod.fst).Nodup
  | [], _, h => h
  | es :: secs, acc, h => by
    rw [List.foldl_cons]
    refine nodup_foldl_sections secs _ ?_
    induction es generalizing acc with
    | nil => exact h
    | cons e es ih => exact ih _ (nodup_putBound h e)

theorem AttributeLimits.nodup_keys (l : AttributeLimits) : (l.entries.map Prod.fst).Nodup := by
  simp only [AttributeLimits.entries, List.map_cons, List.map_nil]
  decide

theorem SpanLimitSettings.nodup_keys (l : SpanLimitSettings) : (l.entries.map Prod.fst).Nodup := by
  simp only [SpanLimitSettings.entries, List.map_cons, List.map_nil]
  decide

end Model

namespace Assembly

open Pipeline Components Model

/-- The limits of a signal, merged over the shared ones, as `MergesOver` says, whenever the
signal's own section names each key once. --/
theorem signalLimits_mergesOver (shared : Option AttributeLimits) (own : Option (List (String × Option Int)))
    (hown : ∀ es, own = some es → (es.map Prod.fst).Nodup) :
    MergesOver shared own (signalLimits shared own) := by
  have hsecs : ∀ es ∈ (shared.map AttributeLimits.entries).toList ++ own.toList, (es.map Prod.fst).Nodup := by
    intro es hes
    rcases List.mem_append.mp hes with h | h
    · cases shared with
      | none => simp at h
      | some l =>
        simp only [Option.map_some, Option.toList_some, List.mem_singleton] at h
        subst h
        exact AttributeLimits.nodup_keys l
    · cases own with
      | none => simp at h
      | some es' =>
        simp only [Option.toList_some, List.mem_singleton] at h
        subst h
        exact hown _ rfl
  -- the walk over the shared section, then the signal's own, leaves under each key the last bound set
  have hbound : ∀ k, boundOf (signalLimits shared own) k = mergedBound shared own k := by
    intro k
    rw [boundOf_eq_lookup, signalLimits, mergeBounds_eq, lookup_foldl_sections k _ [] hsecs]
    cases shared <;> cases own <;> simp [mergedBound]
  refine ⟨nodup_foldl_sections _ [] List.nodup_nil, hbound, fun k => ?_⟩
  rw [mem_keys_iff_lookup_isSome, ← boundOf_eq_lookup, hbound]

/-- A kind of section that lists each bound once merges over the shared limits. --/
theorem signalLimits_mergesOver_map {σ : Type} (entries : σ → List (String × Option Int))
    (hnodup : ∀ l, ((entries l).map Prod.fst).Nodup) (shared : Option AttributeLimits) (own : Option σ) :
    MergesOver shared (own.map entries) (signalLimits shared (own.map entries)) :=
  signalLimits_mergesOver shared _ fun es h => by
    obtain ⟨l, -, rfl⟩ := Option.map_eq_some_iff.mp h
    exact hnodup l

/-! ### The span limits of the tracer provider -/

/-- The span limits a tracer provider takes, each with the key of the bound it is given. --/
def spanLimitFields : List (String × String) :=
  [("max_attributes", "attribute_count_limit"), ("max_attribute_length", "attribute_value_length_limit"),
   ("max_events", "event_count_limit"), ("max_links", "link_count_limit"),
   ("max_event_attributes", "event_attribute_count_limit"),
   ("max_link_attributes", "link_attribute_count_limit")]

theorem spanLimitsView_eq (limits : List (String × Int)) :
    spanLimitsView limits = newView "SpanLimits" [] (spanLimitFields.map fun f => (f.1, optInt (boundOf limits f.2))) :=
  rfl

section Runs

variable {α β : Type}

/-- Reading the bench and then putting a component on it answers whatever the last step answers,
with the component at the next place. --/
theorem run_get_addPart_eq_ok {cls : String} {view : Bench → Json} {role : Bench → Role} {k : PartId → α}
    {b b' : Bench} {r : α}
    (h : (get >>= fun bb => addPart cls (view bb) (role bb) >>= fun id => (pure (k id) : Build α)).run.run b =
      (.ok r, b')) :
    r = k b.parts.length ∧ b' = (b.add ⟨cls, view b, role b⟩).1 := by
  obtain ⟨bb, b₁, hget, h⟩ := run_bind_eq_ok h
  rw [run_get] at hget
  cases hget
  obtain ⟨id, b₂, hadd, h⟩ := run_bind_eq_ok h
  rw [run_addPart] at hadd
  cases hadd
  cases h
  exact ⟨rfl, rfl⟩

end Runs

/-- A tracer provider that was built is the component put right after a bench `bv`, described with
its sampler, the span limits of the limits it was given and its processors as `bv` describes them,
and holds its processors. --/
theorem run_buildTracing_eq_ok {ctx : Context} {sec : TracerSection} {limits : List (String × Int)}
    {b b' : Bench} {p : PartId} {ps : List Slot} (h : (buildTracing ctx sec limits).run.run b = (.ok (p, ps), b')) :
    ∃ (sampler : Json) (bv : Bench), p = bv.parts.length ∧ bv.parts <+: b'.parts ∧
      b'.part? p = some ⟨"TracerProvider", .obj [("new", .str "TracerProvider"), ("args", .arr []),
        ("kwargs", .obj [("sampler", sampler), ("resource", runtimeResource), ("span_limits", spanLimitsView limits),
          ("shutdown_on_exit", .bool false)]), ("span_processors", .arr (ps.map bv.describe))],
        .tracerProvider (partsOf ps)⟩ := by
  unfold buildTracing at h
  -- whichever sampler is described, the processors come next and then the provider over them
  obtain ⟨sampler, b₁, -, h⟩ := run_bind_eq_ok h
  unfold buildTracerProvider at h
  obtain ⟨procs, b₂, -, h⟩ := run_bind_eq_ok h
  obtain ⟨hr, rfl⟩ := run_get_addPart_eq_ok h
  cases hr
  exact ⟨sampler, b₂, rfl, List.prefix_append _ _, Bench.part?_add _ _⟩

/-! ### The processors of the logger provider -/

/-- `g` is `s` as the logger provider is given it: a limiting processor in front of `s`, with the two
bounds. --/
def Wraps (b : Bench) (count length : Option Int) (s g : Slot) : Prop :=
  ∃ d l dv, s = .part d ∧ g = .part l ∧ b.part? l = some ⟨"LimitingLogRecordProcessor",
    .obj [("object", .str "LimitingLogRecordProcessor"), ("delegate", dv), ("max_attributes", optInt count),
      ("max_attribute_length", optInt length)], .limiting d (count.map Int.toNat) (length.map Int.toNat)⟩

/-- The processors `given` to a logger provider for its processors `ps`: each wrapped, in order,
when a bound is set, and `ps` themselves otherwise. --/
def GivenTo (b : Bench) (count length : Option Int) (ps given : List Slot) : Prop :=
  if count.isSome || length.isSome then List.Forall₂ (Wraps b count length) ps given else given = ps

theorem Wraps.of_extends {b b' : Bench} (hp : b.parts <+: b'.parts) {count length : Option Int} {s g : Slot}
    (h : Wraps b count length s g) : Wraps b' count length s g := by
  obtain ⟨d, l, dv, hs, hg, hl⟩ := h
  exact ⟨d, l, dv, hs, hg, Bench.part?_of_extends hp hl⟩

theorem GivenTo.of_extends {b b' : Bench} (hp : b.parts <+: b'.parts) {count length : Option Int}
    {ps given : List Slot} (h : GivenTo b count length ps given) : GivenTo b' count length ps given := by
  unfold GivenTo at h ⊢
  split
  · next hb =>
    rw [if_pos hb] at h
    exact h.imp fun _ _ => Wraps.of_extends hp
  · next hb =>
    rwa [if_neg hb] at h

theorem run_limitProcessor_eq_ok {count length : Option Int} {s g : Slot} {b b' : Bench}
    (h : (limitProcessor count length s).run.run b = (.ok g, b')) :
    b.parts <+: b'.parts ∧ Wraps b' count length s g := by
  unfold limitProcessor at h
  cases s with
  | data v => cases h
  | part d =>
    obtain ⟨rfl, rfl⟩ := run_get_addPart_eq_ok h
    exact ⟨List.prefix_append _ _, d, _, _, rfl, rfl, Bench.part?_add _ _⟩

theorem run_mapM_limitProcessor_eq_ok {count length : Option Int} :
    ∀ {ps given : List Slot} {b b' : Bench}, (ps.mapM (limitProcessor count length)).run.run b = (.ok given, b') →
      b.parts <+: b'.parts ∧ List.Forall₂ (Wraps b' count length) ps given
  | [], _, _, _, h => by
    cases h
    exact ⟨List.prefix_refl _, .nil⟩
  | s :: ps, _, b, b', h => by
    rw [List.mapM_cons] at h
    obtain ⟨g, b₁, hg, h⟩ := run_bind_eq_ok h
    obtain ⟨gs, b₂, hgs, h⟩ := run_bind_eq_ok h
    cases h
    -- the wrapper of `s` stays where it was put while the others are wrapped
    obtain ⟨hp₁, hw⟩ := run_limitProcessor_eq_ok hg
    obtain ⟨hp₂, hrest⟩ := run_mapM_limitProcessor_eq_ok hgs
    exact ⟨hp₁.trans hp₂, .cons (hw.of_extends hp₂) hrest⟩

theorem run_limitProcessors_eq_ok {count length : Option Int} {ps given : List Slot} {b b' : Bench}
    (h : (limitProcessors count length ps).run.run b = (.ok given, b')) :
    b.parts <+: b'.parts ∧ GivenTo b' count length ps given := by
  unfold limitProcessors at h
  unfold GivenTo
  split
  · next hb =>
    rw [if_pos hb] at h
    exact run_mapM_limitProcessor_eq_ok h
  · next hb =>
    rw [if_neg hb] at h
    cases h
    exact ⟨List.prefix_refl _, rfl⟩

/-- A logger provider that was built is the component put right after a bench `bv`, described with
every processor it was given as `bv` describes it, plain data included, and holds the components
among them; it was given its processors wrapped in limiting processors when a bound is set. --/
theorem run_buildLogging_eq_ok {ctx : Context} {sec : LoggerSection} {limits : List (String × Int)}
    {b b' : Bench} {p : PartId} {ps : List Slot} (h : (buildLogging ctx sec limits).run.run b = (.ok (p, ps), b')) :
    ∃ (bv : Bench) (given : List Slot), p = bv.parts.length ∧ bv.parts <+: b'.parts ∧
      b'.part? p = some ⟨"LoggerProvider", .obj [("new", .str "LoggerProvider"), ("args", .arr []),
        ("kwargs", .obj [("resource", runtimeResource), ("shutdown_on_exit", .bool false)]),
        ("log_record_processors", .arr (given.map bv.describe))], .loggerProvider (partsOf given)⟩ ∧
      GivenTo b' (boundOf limits "attribute_count_limit") (boundOf limits "attribute_value_length_limit") ps given := by
  unfold buildLogging at h
  obtain ⟨procs, b₁, -, h⟩ := run_bind_eq_ok h
  obtain ⟨given, b₂, hgiven, h⟩ := run_bind_eq_ok h
  obtain ⟨hr, rfl⟩ := run_get_addPart_eq_ok h
  cases hr
  exact ⟨b₂, given, rfl, List.prefix_append _ _, Bench.part?_add _ _,
    (run_limitProcessors_eq_ok hgiven).2.of_extends (List.prefix_append _ _)⟩

/-! ### From the document to the providers -/

/-- A signal's limits are the shared limits with the signal's own over them, for span limits and
for log record limits alike. The tracer provider is described with span limits whose fields are the
merged bounds, and with its processors. The logger provider is described with every processor it
was given, plain data included, and was given its processors wrapped in limiting processors with
the merged count and length bounds when either is set, and as they are otherwise. --/
theorem signalLimits_reach_providers :
    (∀ (shared : Option AttributeLimits) (own : Option SpanLimitSettings),
      MergesOver shared (own.map SpanLimitSettings.entries) (signalLimits shared (own.map SpanLimitSettings.entries))) ∧
    (∀ shared own : Option AttributeLimits,
      MergesOver shared (own.map AttributeLimits.entries) (signalLimits shared (own.map AttributeLimits.entries))) ∧
    (∀ (ctx : Context) (sec : TracerSection) (shared : Option AttributeLimits) (b b' : Bench) (p : PartId)
      (ps : List Slot),
      (buildTracing ctx sec (signalLimits shared (sec.limits.map SpanLimitSettings.entries))).run.run b =
        (.ok (p, ps), b') →
      ∃ (sampler : Json) (bv : Bench), p = bv.parts.length ∧ bv.parts <+: b'.parts ∧
        b'.part? p = some ⟨"TracerProvider", .obj [("new", .str "TracerProvider"), ("args", .arr []),
          ("kwargs", .obj [("sampler", sampler), ("resource", runtimeResource),
            ("span_limits", newView "SpanLimits" [] (spanLimitFields.map fun f =>
              (f.1, optInt (mergedBound shared (sec.limits.map SpanLimitSettings.entries) f.2)))),
            ("shutdown_on_exit", .bool false)]), ("span_processors", .arr (ps.map bv.describe))],
          .tracerProvider (partsOf ps)⟩) ∧
    (∀ (ctx : Context) (sec : LoggerSection) (shared : Option AttributeLimits) (b b' : Bench) (p : PartId)
      (ps : List Slot),
      (buildLogging ctx sec (signalLimits shared (sec.limits.map AttributeLimits.entries))).run.run b =
        (.ok (p, ps), b') →
      ∃ (bv : Bench) (given : List Slot), p = bv.parts.length ∧ bv.parts <+: b'.parts ∧
        b'.part? p = some ⟨"LoggerProvider", .obj [("new", .str "LoggerProvider"), ("args", .arr []),
          ("kwargs", .obj [("resource", runtimeResource), ("shutdown_on_exit", .bool false)]),
          ("log_record_processors", .arr (given.map bv.describe))], .loggerProvider (partsOf given)⟩ ∧
        GivenTo b' (mergedBound shared (sec.limits.map AttributeLimits.entries) "attribute_count_limit")
          (mergedBound shared (sec.limits.map AttributeLimits.entries) "attribute_value_length_limit") ps given) := by
  have hspan := signalLimits_mergesOver_map SpanLimitSettings.entries SpanLimitSettings.nodup_keys
  have hlog := signalLimits_mergesOver_map AttributeLimits.entries AttributeLimits.nodup_keys
  refine ⟨hspan, hlog, ?_, ?_⟩
  · intro ctx sec shared b b' p ps h
    obtain ⟨sampler, bv, hp, hpre, hpart⟩ := run_buildTracing_eq_ok h
    refine ⟨sampler, bv, hp, hpre, ?_⟩
    rw [hpart, spanLimitsView_eq]
    simp only [(hspan shared sec.limits).bound]
  · intro ctx sec shared b b' p ps h
    obtain ⟨bv, given, hp, hpre, hpart, hg⟩ := run_buildLogging_eq_ok h
    rw [(hlog shared sec.limits).bound, (hlog shared sec.limits).bound] at hg
    exact ⟨bv, given, hp, hpre, hpart, hg⟩

end Assembly

end Telemetry
