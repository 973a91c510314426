import Telemetry.Proofs.AllOrNothing
import Telemetry.Proofs.PropagatorOrder

/-!
The ledger a successful assembly hands to its runtime.

It holds every component with a shutdown, in the order the components were built, each built after
the components it holds. Every adopting that recorded an owner recorded one acquired after what it
owns, so a release of the ledger walks its records by the ownership law. Every closeable
processor or reader owns the exporter it holds, and every provider owns exactly those of its stages
that have a shutdown, a limiting processor standing for its delegate.

The order of building is the order of resolution (`AcquisitionOrder`). The propagators come first,
one by one in their effective order, then the resource's detectors in the document's order, then
the logging provider's stages, the sampler tree, the rest of the tracer provider's stages and the
meter provider's stages, each phase starting from the bench the one before it left. A run that
answers is cut into these phases by the model's own functions (`assemble_acquisitionOrder`).
-/

namespace Telemetry.Pipeline

namespace Bench

/-- The components put on the bench from `b` to `b'`, in the order they were built. --/
def builtSince (b b' : Bench) : List PartId :=
  List.range' b.parts.length (b'.parts.length - b.parts.length)

@[simp] theorem builtSince_self (b : Bench) : b.builtSince b = [] := by
  simp [builtSince]

theorem start_builtSince (b : Bench) : start.builtSince b = List.range b.parts.length := by
  simp [builtSince, start, List.range_eq_range']

/-- What was built from `b` to `b₁` and then to `b₂` is what was built from `b` to `b₂`. --/
theorem builtSince_append {b b₁ b₂ : Bench} (h₁ : b.parts <+: b₁.parts) (h₂ : b₁.parts <+: b₂.parts) :
    b.builtSince b₁ ++ b₁.builtSince b₂ = b.builtSince b₂ := by
  have l₁ := h₁.length_le
  have l₂ := h₂.length_le
  unfold builtSince
  calc List.range' b.parts.length (b₁.parts.length - b.parts.length) ++
        List.range' b₁.parts.length (b₂.parts.length - b₁.parts.length)
      = List.range' b.parts.length (b₁.parts.length - b.parts.length) ++
          List.range' (b.parts.length + (b₁.parts.length - b.parts.length)) (b₂.parts.length - b₁.parts.length) := by
        rw [Nat.add_sub_cancel' l₁]
    _ = List.range' b.parts.length (b₁.parts.length - b.parts.length + (b₂.parts.length - b₁.parts.length)) :=
        List.range'_append_1
    _ = List.range' b.parts.length (b₂.parts.length - b.parts.length) := by
        rw [show b₁.parts.length - b.parts.length + (b₂.parts.length - b₁.parts.length) =
          b₂.parts.length - b.parts.length by omega]

end Bench

end Telemetry.Pipeline

namespace Telemetry.Model.Document

/-- The propagators a document resolves, in their effective order. --/
def propagatorRefs (doc : Document) : List ComponentRef :=
  match doc.propagator with
  | some p => p.effectiveComponents
  | none => []

/-- The resource detectors a document runs, in the order it lists them. --/
def detectorRefs (doc : Document) : List ComponentRef :=
  match doc.resource.bind (·.detection) with
  | some d => d.detectors
  | none => []

/-- The sampler a document's tracer provider names. --/
def samplerRef (doc : Document) : Option ComponentRef :=
  doc.tracerProvider.bind (·.sampler)

end Telemetry.Model.Document

namespace Telemetry.Assembly

open Pipeline Components Model

/-- What a successful assembly hands to the runtime. --/
structure Handed (b : Bench) : Prop where
  isOpen : b.ledger.closed = false
  /-- Every adopting that recorded an owner recorded one acquired after what it owns. --/
  built : Ledger.Built Ledger.OwnerAfter b.ledger
  /-- The ledger holds the components with a shutdown, in the order they were built. --/
  order : b.ledger.entries.map (·.handle) = (List.range b.parts.length).filter b.keeps
  holdsEarlier : b.Ordered
  exporters : ∀ o p c, b.part? o = some p → p.role.exporter? = some (.part c) → b.keeps o = true →
    b.keeps c = true → c ≠ o → b.ledger.ownerOf c = some o
  providers : ∀ o p, b.part? o = some p → p.role.isProvider = true →
    ∀ c, b.ledger.ownerOf c = some o ↔ c ∈ b.stagesOf p.role ∧ b.keeps c = true
  /-- Releasing the ledger from this bench walks its records by the ownership law. --/
  release : Ledger.ReleasesByOwnership shutdownAction b b.ledger

/-- A provider has a shutdown and stands for itself, so the ledger must hold it. --/
theorem keeps_of_provider {b : Bench} {o : PartId} {p : Instance} (hp : b.part? o = some p)
    (hprov : p.role.isProvider = true) : b.keeps o = true := by
  unfold Bench.keeps
  rw [hp]
  cases hr : p.role <;> simp_all [Role.isProvider, Role.closeable, Role.wraps]

theorem Handed.of_kept {b : Bench} (hk : Kept b) : Handed b where
  isOpen := hk.sane.isOpen
  built := hk.sane.built
  order := hk.sane.settled
  holdsEarlier := hk.ordered
  exporters o p c hp hex ho hc hne := by
    rw [← hk.sane.tracks_eq_keeps] at ho hc
    exact hk.owned.owns o c (Option.some_ne_none _) ⟨p, hp, .inl hex⟩ ho hc hne
  providers o p hp hprov c := by
    constructor
    · intro hown
      refine ⟨hk.owned.providers c o p hown hp hprov, ?_⟩
      rw [← hk.sane.tracks_eq_keeps]
      exact Ledger.tracks_of_ownerOf_child hown
    · rintro ⟨hc, hkc⟩
      -- a provider's stages were built before it
      have hlt : c < o := Bench.lt_of_mem_stagesOf hk.ordered hp hc
      rw [← hk.sane.tracks_eq_keeps] at hkc
      refine hk.owned.owns o c (Option.some_ne_none _) ⟨p, hp, .inr hc⟩ ?_ hkc (Nat.ne_of_lt hlt)
      rw [hk.sane.tracks_eq_keeps]
      exact keeps_of_provider hp hprov
  release := Ledger.releasesByOwnership_first hk.sane.built hk.sane.isOpen shutdownAction b

/-- A bench of components that do nothing, with nothing recorded, is kept. --/
theorem kept_of_inert {b : Bench} (hl : b.ledger = Ledger.empty) (hp : ∀ p ∈ b.parts, p.role = .inert) :
    Kept b := by
  have hrole : ∀ id p, b.part? id = some p → p.role = .inert := fun id p h => hp p (List.mem_of_getElem? h)
  have hkeeps : ∀ id, b.keeps id = false := by
    intro id
    unfold Bench.keeps
    split
    · next p h => rw [hrole id p h]; rfl
    · rfl
  refine ⟨⟨by rw [hl]; rfl, by rw [hl]; exact .empty, ?_⟩, ⟨?_, ?_⟩, ?_⟩
  · show b.ledger.entries.map (·.handle) = _
    rw [hl, List.filter_eq_nil_iff.mpr fun id _ => by simp [hkeeps]]
    rfl
  · intro o c _ _ hto
    rw [hl] at hto
    cases hto
  · intro c o p hown
    rw [hl] at hown
    cases hown
  · intro o p hpart c hc
    rw [hrole o p hpart] at hc
    cases hc

/-! ### Past the document -/

section Create

variable {ctx : Context} {options : AssemblyOptions} {input : Json}

/-- A call of `create` that answers a runtime had options that validate and a document it
accepted. --/
theorem create_ok_accepted (ok : ∃ rt, ((create ctx options input).run Bench.start).1 = .ok rt) :
    options.validate = .ok () ∧ ∃ doc, Accepted input doc := by
  obtain ⟨rt, hrt⟩ := ok
  cases hv : options.validate with
  | error e =>
    rw [create_invalidOptions ctx options input e _ hv] at hrt
    cases hrt
  | ok u =>
    refine ⟨rfl, ?_⟩
    rcases refused_or_accepted input with ⟨e, h⟩ | hacc
    · -- a refused document answers its error
      rw [run_create_refused hv h] at hrt
      cases hrt
    · exact hacc

/-- Past an accepted document that leaves telemetry on, a call that answers a runtime ran the
assembly to its end, on the bench the call leaves. --/
theorem create_ok_assembled (ok : ∃ rt, ((create ctx options input).run Bench.start).1 = .ok rt)
    {doc : Document} (h : Accepted input doc) (hd : doc.disabled ≠ some true) :
    ∃ rt, (assemble ctx doc options.flushTimeoutMillis).run.run Bench.start =
      (.ok rt, ((create ctx options input).run Bench.start).2) := by
  obtain ⟨rt, hrt⟩ := ok
  have hv := (create_ok_accepted ⟨rt, hrt⟩).1
  rw [run_create_assemble hv h hd] at hrt ⊢
  rcases hr : (assemble ctx doc options.flushTimeoutMillis).run.run Bench.start with ⟨x | rt', b'⟩
  · rw [hr] at hrt
    cases hrt
  · exact ⟨rt', rfl⟩

/-- A call of `create` that answers a runtime either found telemetry disabled, leaving the three
providers that do nothing and nothing recorded, or ran the assembly to its end. --/
theorem create_ok_cases (ok : ∃ rt, ((create ctx options input).run Bench.start).1 = .ok rt) :
    (((create ctx options input).run Bench.start).2.ledger = Ledger.empty ∧
      ((create ctx options input).run Bench.start).2.parts = [Signal.logging, .tracing, .metering].map Signal.noopInstance) ∨
    ∃ doc rt, (assemble ctx doc options.flushTimeoutMillis).run.run Bench.start =
      (.ok rt, ((create ctx options input).run Bench.start).2) := by
  obtain ⟨hv, doc, hacc⟩ := create_ok_accepted ok
  by_cases hd : doc.disabled = some true
  · exact .inl (create_disabled hv hacc hd).2
  · exact .inr ⟨doc, create_ok_assembled ok hacc hd⟩

end Create

/-! ### The order of acquisition -/

/-- Run from `b`, the step answers and leaves `b'`. --/
def Runs {α : Type} (x : Build α) (b b' : Bench) : Prop :=
  ∃ a, x.run.run b = (.ok a, b')

/-- Run on each item in turn, `f` answers every time: the run on the first item starts from `b`,
each next one from where the one before it left, and the last leaves `b'`. `built` lists, item by
item, the components each run put on the bench. --/
inductive RunsEach {γ δ : Type} (f : γ → Build δ) : List γ → Bench → List (List PartId) → Bench → Prop
  | nil (b : Bench) : RunsEach f [] b [] b
  | cons {x : γ} {xs : List γ} {b b₁ b' : Bench} {built : List (List PartId)} :
      Runs (f x) b b₁ → RunsEach f xs b₁ built b' → RunsEach f (x :: xs) b (b.builtSince b₁ :: built) b'

/-- Where the phases of an assembly end, and what each propagator and each detector built. --/
structure Phases where
  afterPropagators : Bench
  afterResource : Bench
  afterLogging : Bench
  afterSampler : Bench
  afterTracing : Bench
  /-- The components each propagator's resolution built, in the effective order. --/
  propagatorParts : List (List PartId)
  /-- The components each detector's resolution built, in the document's order. --/
  detectorParts : List (List PartId)

/-- The run of an assembly that answers, from a fresh bench to `b`, cut into its phases, each
starting from the bench the one before it left: the propagators one by one in their effective
order, the resource with its detectors one by one in the document's order, the logging provider,
the tracer provider with its sampler tree first, and the meter provider. Components are recorded
as they are built, so the ledger lists the closeable components of each phase after those of the
phases before it. --/
structure Phases.Splits (ctx : Context) (doc : Document) (ph : Phases) (b : Bench) : Prop where
  propagation : Runs (resolvePropagator ctx doc.propagator) Bench.start ph.afterPropagators
  propagators : RunsEach (propagatorStep ctx) doc.propagatorRefs Bench.start ph.propagatorParts ph.afterPropagators
  resource : Runs (resolveResource ctx doc.resource) ph.afterPropagators ph.afterResource
  detectors : RunsEach (detectOne ctx) doc.detectorRefs ph.afterPropagators ph.detectorParts ph.afterResource
  logging : Runs (assembleLogging ctx doc) ph.afterResource ph.afterLogging
  /-- The tracing phase resolves the sampler tree first: it builds its components before any other
  of the phase. --/
  sampler : Runs (resolveSampler ctx doc.samplerRef) ph.afterLogging ph.afterSampler
  samplerFirst : ph.afterSampler.parts <+: ph.afterTracing.parts
  tracing : Runs (assembleTracing ctx doc) ph.afterLogging ph.afterTracing
  metering : Runs (assembleMetering ctx doc) ph.afterTracing b
  ledger : b.ledger.entries.map (·.handle) =
    (ph.propagatorParts.flatten ++ ph.detectorParts.flatten ++ ph.afterResource.builtSince ph.afterLogging ++
      ph.afterLogging.builtSince ph.afterSampler ++ ph.afterSampler.builtSince ph.afterTracing ++
      ph.afterTracing.builtSince b).filter b.keeps

/-- The ledger `b` was acquired in the order of resolution of `doc`'s assembly. --/
def AcquisitionOrder (ctx : Context) (doc : Document) (b : Bench) : Prop :=
  ∃ ph : Phases, ph.Splits ctx doc b

section Phases

variable {γ δ : Type}

theorem Step.of_runs {P Q : Bench → Prop} {x : Build γ} (hx : Step P x (fun _ b => Q b)) {b b' : Bench}
    (hb : P b) (h : Runs x b b') : b.parts <+: b'.parts ∧ Q b' := by
  obtain ⟨a, h⟩ := h
  exact hx.of_run hb h

theorem runs_of_map {f : γ → δ} {x : Build γ} {b b' : Bench} {r : δ} (h : (f <$> x).run.run b = (.ok r, b')) :
    Runs x b b' := by
  rw [run_map] at h
  rcases hx : x.run.run b with ⟨_ | a, b₁⟩
  · rw [hx] at h
    cases h
  · rw [hx] at h
    cases h
    exact ⟨a, hx⟩

/-- A run of `f` over a list that answers is a run of `f` on each item in turn. --/
theorem runsEach_of_mapM {f : γ → Build δ} :
    ∀ {xs : List γ} {b b' : Bench} {ys : List δ}, (xs.mapM f).run.run b = (.ok ys, b') →
      ∃ built, RunsEach f xs b built b'
  | [], b, _, _, h => by
    cases h
    exact ⟨[], .nil b⟩
  | x :: xs, _, _, _, h => by
    rw [List.mapM_cons] at h
    obtain ⟨y, b₁, hx, h⟩ := run_bind_eq_ok h
    obtain ⟨ys, b₂, hxs, h⟩ := run_bind_eq_ok h
    cases h
    obtain ⟨built, hrest⟩ := runsEach_of_mapM hxs
    exact ⟨_, .cons ⟨y, hx⟩ hrest⟩

/-- Steps that keep a bench kept, run on each item in turn, built one after the other what was
built from the first bench to the last. --/
theorem RunsEach.built_eq {f : γ → Build δ} (hf : ∀ x, Step Kept (f x) (fun _ b => Kept b)) {xs : List γ}
    {b b' : Bench} {built : List (List PartId)} (h : RunsEach f xs b built b') (hb : Kept b) :
    b.parts <+: b'.parts ∧ Kept b' ∧ built.flatten = b.builtSince b' := by
  induction h with
  | nil b => exact ⟨List.prefix_refl _, hb, (Bench.builtSince_self b).symm⟩
  | cons hx _ ih =>
    obtain ⟨hp₁, hk₁⟩ := (hf _).of_runs hb hx
    obtain ⟨hp, hk, hbuilt⟩ := ih hk₁
    refine ⟨hp₁.trans hp, hk, ?_⟩
    rw [List.flatten_cons, hbuilt, Bench.builtSince_append hp₁ hp]

end Phases

variable {ctx : Context} {doc : Document} {b b' : Bench}

/-- The propagators a document names run one by one, in their effective order. --/
theorem runsEach_propagators (h : Runs (resolvePropagator ctx doc.propagator) b b') :
    ∃ built, RunsEach (propagatorStep ctx) doc.propagatorRefs b built b' := by
  obtain ⟨v, h⟩ := h
  unfold Document.propagatorRefs
  cases hp : doc.propagator with
  | none =>
    rw [hp] at h
    cases h
    exact ⟨[], .nil b⟩
  | some sec =>
    rw [hp, resolvePropagator_some] at h
    obtain ⟨_, hs⟩ := runs_of_map h
    exact runsEach_of_mapM hs

/-- The detectors a document lists run one by one, in its order; the attributes after them are
only read. --/
theorem runsEach_detectors (h : Runs (resolveResource ctx doc.resource) b b') :
    ∃ built, RunsEach (detectOne ctx) doc.detectorRefs b built b' := by
  obtain ⟨r, h⟩ := h
  unfold Document.detectorRefs
  cases hr : doc.resource with
  | none =>
    rw [hr] at h
    cases h
    exact ⟨[], .nil b⟩
  | some sec =>
    rw [hr] at h
    simp only [Option.bind_some]
    -- the attributes after the detectors are only read
    have hdetected : ∀ {x : Build Resource}, ((do
        let detected ← x
        let attrs ← sectionAttributes sec
        pure ((Resource.defaults.merge detected).merge (Resource.ofValues attrs (.str (sec.schemaUrl.getD "")))) :
          Build Resource).run.run b = (.ok r, b')) → Runs x b b' := by
      intro x h
      obtain ⟨detected, b₁, hdet, h⟩ := run_bind_eq_ok h
      obtain ⟨attrs, b₂, hattrs, h⟩ := run_bind_eq_ok h
      have hread : b₂ = b₁ := by
        have := sectionAttributes_readOnly sec b₁
        rwa [hattrs] at this
      cases h
      subst hread
      exact ⟨_, hdet⟩
    cases hd : sec.detection with
    | none =>
      simp only [resolveResource, hd] at h
      obtain ⟨_, hdet⟩ := hdetected h
      cases hdet
      exact ⟨[], .nil b⟩
    | some d =>
      simp only [resolveResource, hd] at h
      obtain ⟨_, hdet⟩ := hdetected h
      rw [runDetectors_eq] at hdet
      obtain ⟨_, hs⟩ := runs_of_map hdet
      exact runsEach_of_mapM hs

/-- The tracing phase resolves the sampler tree first: the sampler's resolution, from the bench the
phase starts on, builds the phase's first components. --/
theorem tracing_sampler_first (hk : Kept b) (h : Runs (assembleTracing ctx doc) b b') :
    ∃ sampled, Runs (resolveSampler ctx doc.samplerRef) b sampled ∧ sampled.parts <+: b'.parts := by
  obtain ⟨p, h⟩ := h
  unfold Document.samplerRef
  unfold assembleTracing at h
  cases ht : doc.tracerProvider with
  | none =>
    -- no sampler is resolved
    rw [ht] at h
    exact ⟨b, ⟨_, rfl⟩, ((noopProvider_kept .tracing).of_run hk h).1⟩
  | some sec =>
    rw [ht] at h
    unfold assembleSignal at h
    obtain ⟨⟨prov, pipeline⟩, b₁, hbuild, h⟩ := run_bind_eq_ok h
    replace hbuild := run_tryCatch_eq_ok (fun e => by split <;> exact ⟨_, rfl⟩) hbuild
    unfold buildTracing at hbuild
    obtain ⟨sampler, sampled, hs, hrest⟩ := run_bind_eq_ok hbuild
    -- the processors and the provider come after the sampler tree, and recording adds nothing
    obtain ⟨-, hk₁⟩ := (resolveSampler_kept ctx sec.sampler).of_run hk hs
    obtain ⟨hp₁, hprov⟩ := (buildTracerProvider_provided ctx sec _ sampler).of_run hk₁ hrest
    obtain ⟨hp₂, -⟩ := (recordProvider_kept .tracing prov pipeline).of_run hprov h
    exact ⟨sampled, ⟨_, hs⟩, hp₁.trans hp₂⟩

/-- An assembly that answers from a fresh bench builds, and so acquires, phase by phase in the
order of resolution. --/
theorem assemble_acquisitionOrder {flushTimeout : Json} {rt : Runtime}
    (h : (assemble ctx doc flushTimeout).run.run Bench.start = (.ok rt, b)) : AcquisitionOrder ctx doc b := by
  unfold assemble at h
  obtain ⟨_, propagated, hprop, h⟩ := run_bind_eq_ok h
  obtain ⟨_, detected, hres, h⟩ := run_bind_eq_ok h
  obtain ⟨_, logged, hlog, h⟩ := run_bind_eq_ok h
  obtain ⟨_, traced, htrace, h⟩ := run_bind_eq_ok h
  obtain ⟨_, metered, hmeter, h⟩ := run_bind_eq_ok h
  cases h
  -- each phase starts from the kept bench the one before it left
  obtain ⟨p₁, k₁⟩ := (resolvePropagator_kept ctx _).of_run Kept.start hprop
  obtain ⟨p₂, k₂⟩ := (resolveResource_kept ctx _).of_run k₁ hres
  obtain ⟨p₃, k₃⟩ := (assembleLogging_kept ctx doc).of_run k₂ hlog
  obtain ⟨-, k₅⟩ := (assembleTracing_kept ctx doc).of_run k₃ htrace
  obtain ⟨p₆, k₆⟩ := (assembleMetering_kept ctx doc).of_run k₅ hmeter
  obtain ⟨props, hprops⟩ := runsEach_propagators ⟨_, hprop⟩
  obtain ⟨dets, hdets⟩ := runsEach_detectors ⟨_, hres⟩
  obtain ⟨sampled, hsampled, p₅⟩ := tracing_sampler_first k₃ ⟨_, htrace⟩
  obtain ⟨p₄, -⟩ := (resolveSampler_kept ctx _).of_runs k₃ hsampled
  have hp := (hprops.built_eq (propagatorStep_kept ctx) Kept.start).2.2
  have hd := (hdets.built_eq (detectOne_kept ctx) k₁).2.2
  refine ⟨⟨propagated, detected, logged, sampled, traced, props, dets⟩, ⟨_, hprop⟩, hprops, ⟨_, hres⟩, hdets,
    ⟨_, hlog⟩, hsampled, p₅, ⟨_, htrace⟩, ⟨_, hmeter⟩, ?_⟩
  -- the ledger holds the closeable components in the order they were built, phase after phase
  rw [k₆.sane.settled, ← Bench.start_builtSince, hp, hd, Bench.builtSince_append p₁ p₂,
    Bench.builtSince_append (p₁.trans p₂) p₃, Bench.builtSince_append ((p₁.trans p₂).trans p₃) p₄,
    Bench.builtSince_append (((p₁.trans p₂).trans p₃).trans p₄) p₅,
    Bench.builtSince_append ((((p₁.trans p₂).trans p₃).trans p₄).trans p₅) p₆]

/-- The ledger a successful `create` hands to the runtime: it holds the components with a shutdown
in the order they were built, every recorded owner was acquired after what it owns, each
closeable processor or reader owns its exporter, each provider owns exactly its stages with a
shutdown, and its release walks the records by the ownership law. Past a document that leaves
telemetry on, the components were built, and acquired, in the order of resolution. --/
theorem create_hands_owned_ledger (ctx : Context) (options : AssemblyOptions) (input : Json)
    (ok : ∃ rt, ((create ctx options input).run Bench.start).1 = .ok rt) :
    Handed ((create ctx options input).run Bench.start).2 ∧
      ∀ doc, Document.parse input = .ok doc → doc.disabled ≠ some true →
        AcquisitionOrder ctx doc ((create ctx options input).run Bench.start).2 := by
  refine ⟨?_, fun doc hp hd => ?_⟩
  · rcases create_ok_cases ok with ⟨hl, hparts⟩ | ⟨doc, rt, hrun⟩
    · refine Handed.of_kept (kept_of_inert hl fun p hmem => ?_)
      rw [hparts] at hmem
      simp only [List.map_cons, List.map_nil, List.mem_cons, List.not_mem_nil, or_false] at hmem
      rcases hmem with rfl | rfl | rfl <;> rfl
    · -- an assembly run to its end from a fresh bench leaves a kept bench
      have hk := (assemble_kept ctx doc options.flushTimeoutMillis Bench.start Kept.start).2
      rw [hrun] at hk
      exact Handed.of_kept hk
  · -- the document read is the one accepted, so the assembly ran to its end
    obtain ⟨-, doc', hp', hf⟩ := create_ok_accepted ok
    rw [hp] at hp'
    cases hp'
    obtain ⟨rt, hrun⟩ := create_ok_assembled ok ⟨hp, hf⟩ hd
    exact assemble_acquisitionOrder hrun

/-- A tracer provider with a recording sampler over a simple processor that exports to memory: the
sampler is acquired first, the processor owns the exporter, and the provider the processor. --/
theorem create_hands_owned_ledger_phases :
    (∃ rt, ((create ⟨scriptedRegistry, .host⟩ .defaults (.obj [("file_format", .str "1.0"),
      ("tracer_provider", .obj [("sampler", .obj [("recording", .obj [])]),
        ("processors", .arr [.obj [("simple", .obj [("exporter", .obj [("memory", .obj [])])])]])])])).run
          Bench.start).1 = .ok rt) ∧
    Handed ((create ⟨scriptedRegistry, .host⟩ .defaults (.obj [("file_format", .str "1.0"),
      ("tracer_provider", .obj [("sampler", .obj [("recording", .obj [])]),
        ("processors", .arr [.obj [("simple", .obj [("exporter", .obj [("memory", .obj [])])])]])])])).run
          Bench.start).2 ∧
      ∀ doc, Document.parse (.obj [("file_format", .str "1.0"),
        ("tracer_provider", .obj [("sampler", .obj [("recording", .obj [])]),
          ("processors", .arr [.obj [("simple", .obj [("exporter", .obj [("memory", .obj [])])])]])])]) = .ok doc →
        doc.disabled ≠ some true →
        AcquisitionOrder ⟨scriptedRegistry, .host⟩ doc ((create ⟨scriptedRegistry, .host⟩ .defaults
          (.obj [("file_format", .str "1.0"),
            ("tracer_provider", .obj [("sampler", .obj [("recording", .obj [])]),
              ("processors", .arr [.obj [("simple", .obj [("exporter", .obj [("memory", .obj [])])])]])])])).run
                Bench.start).2 :=
  ⟨⟨_, rfl⟩, create_hands_owned_ledger _ _ _ ⟨_, rfl⟩⟩

end Telemetry.Assembly
