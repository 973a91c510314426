import Telemetry.Assembly.Create
import Telemetry.Proofs.StageRecords

/-!
What assembling a runtime records on the ledger.

Every step of an assembly keeps the bench kept (`Kept`), whether it succeeds or fails: the
propagators and resource detectors, each signal's stages, the limiting processors put in front of
log processors, and the providers. A signal's stages are resolved one after another, and none of
them is to be owned by anything built after it; the provider is built last of its signal, is to
own exactly its stages (a limiting processor standing for its delegate), is recorded at once and
adopts them.
-/

namespace Telemetry.Assembly

open Pipeline Components Model

variable {α β : Type}

theorem fits_single {cap X : Capability} (k : String) (h : X ≠ cap) : Fits cap [(k, X)] :=
  .inr ⟨k, X, h, rfl⟩

theorem exporterFits_single {cap X : Capability} (k : String) (h : X ≠ cap) : ExporterFits cap [(k, X)] := by
  intro Y hY
  simp only [List.mem_singleton, Prod.mk.injEq] at hY
  rw [hY.2]
  exact h

theorem resolveComponent_kept (ctx : Context) {cap : Capability} (c : ComponentRef)
    {nesting : List (String × Capability)} (hfit : Fits cap nesting) (hex : ExporterFits cap nesting)
    (U : PartId → Prop) :
    Step (fun b => Kept b ∧ b.FreeAmong U) (resolveComponent ctx cap c nesting)
      (fun s b => (Kept b ∧ b.Plain s) ∧ b.FreeAmong U ∧ FreshFor U b s) :=
  resolveStage_kept ctx _ cap c nesting hfit hex U

theorem get_step {P : Bench → Prop} (hP : ∀ b, P b → Sane b) : Step P (get : Build Bench) (fun _ b => P b) :=
  Step.of_readOnly ReadOnly.get (fun b _ h _ => hP b h) fun _ _ h _ => h

/-- The components among configuration values. --/
theorem mem_partsOf {id : PartId} : ∀ {ss : List Slot}, id ∈ partsOf ss ↔ .part id ∈ ss
  | [] => by simp [partsOf]
  | .part id' :: ss => by simp [partsOf, mem_partsOf]
  | .data _ :: ss => by simp [partsOf, mem_partsOf]

/-! ### Components that are not recorded -/

/-- Putting on the bench a component that the ledger need not hold, that holds only components
built before it and is to own nothing, keeps the bench kept and free what was free. --/
theorem addPart_unkept {cls : String} {v : Json} {r : Role} (hr : (r.closeable && !r.wraps) = false)
    (hp : r.isProvider = false) (hex : r.exporter? = none) (U : PartId → Prop) :
    Step (fun b => (Kept b ∧ b.FreeAmong U) ∧ ∀ c ∈ r.holds, c < b.parts.length) (addPart cls v r : Build PartId)
      (fun id b => (Kept b ∧ b.FreeAmong U) ∧ b.part? id = some ⟨cls, v, r⟩) := by
  intro b ⟨⟨hk, hfree⟩, hholds⟩
  rw [run_addPart]
  refine ⟨List.prefix_append _ _, ⟨⟨⟨hk.sane.isOpen, hk.sane.built, ?_⟩, hk.owned.add hk.sane hk.ordered _,
    hk.ordered.add hholds⟩, fun u hu => ⟨?_, ?_⟩⟩, Bench.part?_add b _⟩
  · dsimp only
    rw [Bench.length_add]
    refine Bench.Settled.succ_of_keeps_false ?_ ?_
    · exact hk.sane.settled.of_extends rfl (List.prefix_append _ _) (Nat.le_refl _)
    · simp [Bench.keeps, Bench.part?_add_eq, hr]
  · rw [Bench.length_add]
    exact Nat.lt_succ_of_lt (hfree u hu).1
  · exact (hfree u hu).2.add hk.ordered hp (by simp [hex])

theorem noopProvider_kept (s : Signal) : Step Kept (noopProvider s : Build PartId) (fun _ b => Kept b) :=
  (addPart_unkept rfl rfl rfl (fun _ => False)).mono (fun _ h => ⟨⟨h, fun _ h => h.elim⟩, fun _ h => by cases h⟩)
    fun _ _ h => h.1.1

theorem unwrap_limiting {b : Bench} {id d : PartId} {cls : String} {v : Json} {maxCount maxLength : Option Nat}
    (h : b.part? id = some ⟨cls, v, .limiting d maxCount maxLength⟩) : b.unwrap id = d := by
  simp [Bench.unwrap, h]

/-- A processor that is not a limiting processor stands for itself. --/
theorem unwrap_of_plain {b : Bench} {id : PartId} (h : b.Plain (.part id)) : b.unwrap id = id := by
  obtain ⟨p, hpart, hw⟩ := Option.map_eq_some_iff.mp h
  unfold Bench.unwrap
  rw [hpart, Option.map_some]
  split
  · next d _ _ hd =>
    rw [Option.some.inj hd] at hw
    cases hw
  · rfl

/-- Wrapping a processor in a limiting processor answers a component that stands for it. --/
theorem limitProcessor_step (maxCount maxLength : Option Int) (s : Slot) (U : PartId → Prop) :
    Step (fun b => (Kept b ∧ b.FreeAmong U) ∧ b.Plain s) (limitProcessor maxCount maxLength s)
      (fun g b => (Kept b ∧ b.FreeAmong U) ∧ ∃ l d, g = .part l ∧ s = .part d ∧ l < b.parts.length ∧ b.unwrap l = d) := by
  unfold limitProcessor
  cases s with
  | data v => exact Step.throw fun _ h => h.1.1.sane
  | part d =>
    refine Step.bind (get_step fun _ h => h.1.1.sane) fun _ => ?_
    refine Step.bind ((addPart_unkept rfl rfl rfl U).mono (fun _ h => ⟨h.1, fun c hc => ?_⟩) fun _ _ h => h) fun l => ?_
    · obtain ⟨-, hpl⟩ := h
      rw [List.mem_singleton.mp hc]
      exact Bench.lt_of_plain hpl
    · exact Step.pure fun _ ⟨hk, hl⟩ => ⟨hk, l, d, rfl, rfl, Bench.lt_of_part? hl, unwrap_limiting hl⟩

/-- Wrapping processors one by one: each answer stands for the processor it wraps. --/
theorem limitProcessors_mapM (maxCount maxLength : Option Int) (U : PartId → Prop) :
    ∀ ps : List Slot, Step (fun b => (Kept b ∧ b.FreeAmong U) ∧ ∀ s ∈ ps, b.Plain s)
      (ps.mapM (limitProcessor maxCount maxLength))
      (fun gs b => (Kept b ∧ b.FreeAmong U) ∧ (∀ l ∈ partsOf gs, l < b.parts.length) ∧
        (partsOf gs).map b.unwrap = partsOf ps)
  | [] => by
    rw [List.mapM_nil]
    exact Step.pure fun _ h => ⟨h.1, (fun _ h => by cases h), rfl⟩
  | s :: ps => by
    rw [List.mapM_cons]
    refine Step.bind (((limitProcessor_step maxCount maxLength s U).frame
      (F := fun b => ∀ s' ∈ ps, b.Plain s') fun _ _ h hp s' hs' => (h s' hs').of_extends hp).mono
        (fun _ h => ⟨⟨h.1, h.2 s List.mem_cons_self⟩, fun s' hs' => h.2 s' (List.mem_cons_of_mem _ hs')⟩)
        fun _ _ h => h) fun g => ?_
    -- the wrapper just built keeps standing for its processor while the others are wrapped
    refine Step.bind (((limitProcessors_mapM maxCount maxLength U ps).frame
      (F := fun b => ∃ l d, g = .part l ∧ s = .part d ∧ l < b.parts.length ∧ b.unwrap l = d)
      fun b b' ⟨l, d, hg, hs, hl, hu⟩ hp => ⟨l, d, hg, hs, Nat.lt_of_lt_of_le hl (List.IsPrefix.length_le hp),
        (Bench.unwrap_of_extends hp hl).trans hu⟩).mono (fun _ ⟨⟨hk, hl⟩, hps⟩ => ⟨⟨hk, hps⟩, hl⟩)
        fun _ _ h => h) fun gs => ?_
    refine Step.pure fun b ⟨⟨hk, hlt, hmap⟩, l, d, hg, hs, hl, hu⟩ => ⟨hk, fun l' hl' => ?_, ?_⟩
    · subst hg
      rcases List.mem_cons.mp hl' with rfl | h
      · exact hl
      · exact hlt l' h
    · subst hg hs
      simp [partsOf, hu, hmap]

theorem limitProcessors_kept (maxCount maxLength : Option Int) (ps : List Slot) (U : PartId → Prop) :
    Step (fun b => (Kept b ∧ b.FreeAmong U) ∧ ∀ s ∈ ps, b.Plain s) (limitProcessors maxCount maxLength ps)
      (fun gs b => (Kept b ∧ b.FreeAmong U) ∧ (∀ l ∈ partsOf gs, l < b.parts.length) ∧
        (partsOf gs).map b.unwrap = partsOf ps) := by
  unfold limitProcessors
  split
  · exact limitProcessors_mapM maxCount maxLength U ps
  · -- unwrapped processors stand for themselves
    refine Step.pure fun b ⟨hk, hps⟩ => ⟨hk, fun l hl => Bench.lt_of_plain (hps _ (mem_partsOf.mp hl)), ?_⟩
    refine (List.map_congr_left fun l hl => unwrap_of_plain (hps _ (mem_partsOf.mp hl))).trans ?_
    exact List.map_id _

/-! ### Providers -/

theorem Role.exporter?_of_provider {r : Role} (h : r.isProvider = true) : r.exporter? = none := by
  cases r <;> simp_all [Role.isProvider, Role.exporter?]

/-- A bench right after a signal's provider was built: kept but for the provider, the last
component, which has a shutdown and is not recorded yet; it is to own only components among its
stages, and may adopt each of them. --/
structure Provided (prov : PartId) (stages : List Slot) (b : Bench) : Prop where
  pending : Pending (fun c => .part c ∈ stages) (.part prov) b
  closeable : closeableOn b (.part prov) = true
  adoptable : ∀ s ∈ stages, Adoptable s (.part prov) b

/-- Building a provider, with a shutdown, over stages built before it that nothing is to own: the
stages it is to own are the components among them. --/
theorem addPart_provider {cls : String} {v : Json} {r : Role} {stages : List Slot} (hc : r.closeable = true)
    (hw : r.wraps = false) (hp : r.isProvider = true) :
    Step (fun b => (Kept b ∧ (∀ s ∈ stages, b.Plain s) ∧ b.FreeAmong (fun u => .part u ∈ stages)) ∧
        (∀ c ∈ r.holds, c < b.parts.length) ∧ ∀ c, c ∈ b.stagesOf r ↔ .part c ∈ stages)
      (addPart cls v r : Build PartId) (fun prov b => Provided prov stages b) := by
  intro b ⟨⟨hk, hpl, hfree⟩, hholds, hst⟩
  rw [run_addPart]
  have hpart : (b.add ⟨cls, v, r⟩).1.part? b.parts.length = some ⟨cls, v, r⟩ := Bench.part?_add b _
  have hst' : ∀ c, c ∈ (b.add ⟨cls, v, r⟩).1.stagesOf r ↔ .part c ∈ stages := by
    rw [Bench.stagesOf_of_extends (List.prefix_append _ _) hholds]
    exact hst
  refine ⟨List.prefix_append _ _, ⟨.fresh (Bench.length_add b _) hk.sane.isOpen hk.sane.built ?_ ?_
    (hk.owned.add hk.sane hk.ordered _) (hk.ordered.add hholds) fun c hclaim => ?_, ?_, fun s hs => ?_⟩⟩
  · exact hk.sane.settled.of_extends rfl (List.prefix_append _ _) (Nat.le_refl _)
  · simp [Bench.Plain, Bench.part?_add_eq, hw]
  · -- a provider names no exporter: it is to own its stages
    rcases Bench.claims_last hclaim with hex | hc'
    · rw [Role.exporter?_of_provider hp] at hex
      cases hex
    · exact (hst' c).mp hc'
  · simp [closeableOn, Bench.roleOf, Bench.part?_add_eq, hc]
  · refine .inr fun c n hsc hn => ?_
    cases hn
    subst hsc
    refine ⟨Bench.lt_of_plain (hpl _ hs), fun o' ho' => ?_, fun p hp' _ => ?_⟩
    · rcases Bench.claims_add hk.ordered ho' with h | ⟨rfl, -⟩
      · exact absurd h ((hfree c hs).2 o')
      · rfl
    · rw [hpart] at hp'
      cases hp'
      exact (hst' c).mpr hs

/-- A provider just built is recorded, and then adopts its stages one by one. --/
theorem recordProvider_kept (s : Signal) (prov : PartId) (pipeline : List Slot) :
    Step (Provided prov pipeline) (recordProvider s prov pipeline) (fun _ b => Kept b) := by
  unfold recordProvider
  refine Step.bind ((acquire_pending (E := fun c => .part c ∈ pipeline) _
    (F := fun b => ∀ s ∈ pipeline, Adoptable s (.part prov) b) fun _ _ h => h).mono
      (fun _ h => ⟨⟨h.pending, h.closeable⟩, h.adoptable⟩) fun _ _ h => h) fun _ => ?_
  -- the ownerships left to record are those of the stages still to come
  refine Step.bind (Step.forIn_rest (J := fun rest _ b => Recording (fun c => .part c ∈ rest) (.part prov) b ∧
    ∀ s ∈ rest, Adoptable s (.part prov) b) (fun stage rest _ => ?_) pipeline _) fun _ =>
      Step.pure fun _ h => (h.1.finish fun _ h => by cases h).1
  refine Step.bind ((adopt_step (E := fun c => .part c ∈ stage :: rest) (G := fun c => .part c ∈ rest)
    (fun c hc => (List.mem_cons.mp hc).symm.imp id Eq.symm)
    (F := fun b => ∀ s ∈ rest, Adoptable s (.part prov) b) fun _ _ h => h).mono
      (fun _ ⟨hr, ha⟩ => ⟨⟨hr, ha stage List.mem_cons_self⟩, fun s hs => ha s (List.mem_cons_of_mem _ hs)⟩)
      fun _ _ h => h) fun _ => Step.pure fun _ h => h

/-- Assembling a signal from a builder that leaves its provider just built records the provider
as the owner of its stages. --/
theorem assembleSignal_kept (s : Signal) {build : Build (PartId × List Slot)}
    (hb : Step Kept build (fun r b => Provided r.1 r.2 b)) :
    Step Kept (assembleSignal s build) (fun _ b => Kept b) := by
  unfold assembleSignal
  refine Step.bind (hb.tryCatch fun e => ?_) fun r => recordProvider_kept s r.1 r.2
  split
  · exact ⟨_, rfl⟩
  · exact ⟨_, rfl⟩

/-- Resolving stages in order keeps the bench kept; each answers plain data or a component, and
nothing is to own the components answered. --/
theorem resolveStages_kept (ctx : Context) {cap : Capability} {nesting : List (String × Capability)}
    (hfit : Fits cap nesting) (hex : ExporterFits cap nesting) (cs : List ComponentRef) :
    Step Kept (cs.mapM fun c => resolveComponent ctx cap c nesting)
      (fun ss b => Kept b ∧ (∀ s ∈ ss, b.Plain s) ∧ b.FreeAmong (fun u => .part u ∈ ss)) := by
  refine (Step.mapM (I := fun ss b => Kept b ∧ (∀ s ∈ ss, b.Plain s) ∧ b.FreeAmong (fun u => .part u ∈ ss))
    (fun c ds => ?_) cs []).mono (fun _ h => ⟨h, (fun _ h => by cases h), (fun _ h => by cases h)⟩)
      fun _ _ h => by simpa using h
  -- each stage keeps free the stages before it, and answers one that is free too
  refine ((resolveComponent_kept ctx c hfit hex (fun u => .part u ∈ ds)).frame
    (F := fun b => ∀ s ∈ ds, b.Plain s) fun _ _ h hp s hs => (h s hs).of_extends hp).mono
      (fun _ ⟨hk, hps, hfree⟩ => ⟨⟨hk, hfree⟩, hps⟩) fun s b ⟨⟨⟨hk, hpl⟩, hfree, hs⟩, hps⟩ => ⟨hk, ?_, ?_⟩
  · intro s' hs'
    rcases List.mem_append.mp hs' with h | h
    · exact hps s' h
    · rw [List.mem_singleton.mp h]
      exact hpl
  · intro u hu
    rcases List.mem_append.mp hu with h | h
    · exact hfree u h
    · obtain rfl := List.mem_singleton.mp h
      exact ⟨Bench.lt_of_plain hpl, hs.2⟩

/-- What a provider builder needs before it builds the provider over its stages. --/
theorem provide_step {cls : String} {v : Json} {r : Role} {stages : List Slot} (hc : r.closeable = true)
    (hw : r.wraps = false) (hp : r.isProvider = true) {P : Bench → Prop}
    (hP : ∀ b, P b → (Kept b ∧ (∀ s ∈ stages, b.Plain s) ∧ b.FreeAmong (fun u => .part u ∈ stages)) ∧
      (∀ c ∈ r.holds, c < b.parts.length) ∧ ∀ c, c ∈ b.stagesOf r ↔ .part c ∈ stages) :
    Step P (do let provider ← addPart cls v r; pure (provider, stages)) (fun r b => Provided r.1 r.2 b) :=
  Step.bind ((addPart_provider hc hw hp).mono hP fun _ _ h => h) fun _ => Step.pure fun _ h => h

theorem buildLogging_provided (ctx : Context) (sec : LoggerSection) (limits : List (String × Int)) :
    Step Kept (buildLogging ctx sec limits) (fun r b => Provided r.1 r.2 b) := by
  unfold buildLogging
  refine Step.bind (resolveStages_kept ctx (fits_single _ (by decide)) (exporterFits_single _ (by decide)) _)
    fun processors => ?_
  refine Step.bind (((limitProcessors_kept _ _ processors (fun u => .part u ∈ processors)).frame
    (F := fun b => ∀ s ∈ processors, b.Plain s) fun _ _ h hp s hs => (h s hs).of_extends hp).mono
      (fun _ ⟨hk, hps, hfree⟩ => ⟨⟨⟨hk, hfree⟩, hps⟩, hps⟩) fun _ _ h => h) fun given => ?_
  refine Step.bind (get_step fun _ h => h.1.1.1.sane) fun _ => ?_
  -- the provider holds what it was given, and each stands for one of the processors
  exact provide_step rfl rfl rfl fun b ⟨⟨⟨hk, hfree⟩, hlt, hmap⟩, hps⟩ => ⟨⟨hk, hps, hfree⟩, hlt, fun c => by
    simp only [Bench.stagesOf, hmap]
    exact mem_partsOf⟩

theorem samplerNesting_exporterFits : ExporterFits .sampler samplerNesting := by
  intro X hX
  simp only [samplerNesting, List.mem_map, Prod.mk.injEq] at hX
  obtain ⟨k, hk, rfl, rfl⟩ := hX
  exact absurd hk (by decide)

/-- The sampler tree is resolved as its own stage, and the default sampler builds nothing. --/
theorem resolveSampler_kept (ctx : Context) (sampler : Option ComponentRef) :
    Step Kept (resolveSampler ctx sampler) (fun _ b => Kept b) := by
  cases sampler with
  | none => exact Step.pure fun _ h => h
  | some c =>
    simp only [resolveSampler]
    refine Step.bind ((resolveComponent_kept ctx _ (.inl fun p hp => ?_) samplerNesting_exporterFits
      (fun _ => False)).mono (fun _ h => ⟨h, fun _ h => h.elim⟩) fun _ _ h => h.1.1) fun s => ?_
    · simp only [samplerNesting, List.mem_map] at hp
      obtain ⟨_, _, rfl⟩ := hp
      rfl
    · exact Step.of_readOnly (describeSlot_readOnly s) (fun _ _ h _ => h.sane) fun _ _ h _ => h

theorem buildTracerProvider_provided (ctx : Context) (sec : TracerSection) (limits : List (String × Int))
    (sampler : Json) : Step Kept (buildTracerProvider ctx sec limits sampler) (fun r b => Provided r.1 r.2 b) := by
  unfold buildTracerProvider
  -- the processors, then the provider over them
  refine Step.bind (resolveStages_kept ctx (fits_single _ (by decide)) (exporterFits_single _ (by decide)) _)
    fun processors => ?_
  refine Step.bind (get_step fun _ h => h.1.sane) fun _ => ?_
  exact provide_step rfl rfl rfl fun b ⟨hk, hps, hfree⟩ => ⟨⟨hk, hps, hfree⟩,
    fun c hc => Bench.lt_of_plain (hps _ (mem_partsOf.mp hc)), fun _ => mem_partsOf⟩

theorem buildTracing_provided (ctx : Context) (sec : TracerSection) (limits : List (String × Int)) :
    Step Kept (buildTracing ctx sec limits) (fun r b => Provided r.1 r.2 b) :=
  Step.bind (resolveSampler_kept ctx sec.sampler) (buildTracerProvider_provided ctx sec limits)

theorem buildView_kept (ctx : Context) (index : Nat) (v : ViewSpec) (U : PartId → Prop) :
    Step (fun b => Kept b ∧ b.FreeAmong U) (buildView ctx index v) (fun _ b => Kept b ∧ b.FreeAmong U) := by
  unfold buildView
  extract_lets place sel name finish
  have hfinish : ∀ keys, Step (fun b => Kept b ∧ b.FreeAmong U) (finish keys) (fun _ b => Kept b ∧ b.FreeAmong U) := by
    intro keys
    simp -zeta only [finish]
    extract_lets checked
    -- past the aggregation, the view is only checked and described
    have hchecked : ∀ agg, Step (fun b => Kept b ∧ b.FreeAmong U) (checked agg) (fun _ b => Kept b ∧ b.FreeAmong U) := by
      refine fun agg => Step.of_readOnly (fun b => ?_) (fun _ _ h _ => h.1.sane) fun _ _ h _ => h
      simp only [checked]
      repeat' split
      all_goals rfl
    split
    · refine Step.bind (Q := fun _ b => Kept b ∧ b.FreeAmong U)
        ((resolveComponent_kept ctx _ (.inl fun p hp => ?_) (fun _ h => by cases h) U).mono
        (fun _ h => h) fun _ _ h => ⟨h.1.1, h.2.1⟩) fun s => ?_
      · simp at hp
      · exact Step.bind (Step.of_readOnly (describeSlot_readOnly s) (fun _ _ h _ => h.1.sane) fun _ _ h _ => h) hchecked
    · exact Step.bind (Step.pure fun _ h => h) hchecked
  split
  · exact Step.bind (Step.pure fun _ h => h) hfinish
  · split
    · exact Step.bind (Step.throw fun _ h => h.1.sane) hfinish
    · exact Step.bind (Step.pure fun _ h => h) hfinish

theorem buildMetering_provided (ctx : Context) (sec : MeterSection) :
    Step Kept (buildMetering ctx sec) (fun r b => Provided r.1 r.2 b) := by
  unfold buildMetering
  refine Step.bind (resolveStages_kept ctx (fits_single _ (by decide)) (exporterFits_single _ (by decide)) _)
    fun readers => ?_
  -- the views keep the readers free
  have hviews := Step.mapM_keeps (fun iv : Nat × ViewSpec => buildView_kept ctx iv.1 iv.2 (fun u => .part u ∈ readers))
    ((List.range sec.views.length).zip sec.views)
  refine Step.bind ((hviews.frame (F := fun b => ∀ s ∈ readers, b.Plain s)
    fun _ _ h hp s hs => (h s hs).of_extends hp).mono (fun _ ⟨hk, hps, hfree⟩ => ⟨⟨hk, hfree⟩, hps⟩)
      fun _ _ h => h) fun views => ?_
  refine Step.bind (get_step fun _ h => h.1.1.sane) fun b => ?_
  extract_lets view provide
  -- a reader that is no metric reader is refused before the provider is built
  have hprovide : ∀ u, Step (fun b => (Kept b ∧ b.FreeAmong (fun u => .part u ∈ readers)) ∧ ∀ s ∈ readers, b.Plain s)
      (provide u) (fun r b => Provided r.1 r.2 b) :=
    fun _ => provide_step rfl rfl rfl fun b ⟨⟨hk, hfree⟩, hps⟩ => ⟨⟨hk, hps, hfree⟩,
      fun c hc => Bench.lt_of_plain (hps _ (mem_partsOf.mp hc)), fun _ => mem_partsOf⟩
  split
  · exact Step.bind (Step.throw fun _ h => h.1.1.sane) hprovide
  · exact hprovide ()

/-! ### Propagators and the resource -/

/-- Resolving a component from its written configuration, which holds only data: the component
built is to own nothing. --/
theorem resolve_ofMembers_step (ctx : Context) (cap : Capability) (c : ComponentRef) :
    Step Kept (resolve ctx.files ctx.registry cap c.name (Config.ofMembers c.config))
      (fun s b => Pending (fun _ => False) s b) :=
  (resolve_step _ _ cap c.name _ (fun _ => False)).mono (fun b hk => ⟨hk, fun k t ht => by
    obtain ⟨v, rfl⟩ := Config.data_of_mem_ofMembers ht
    trivial, fun _ h => h.elim⟩) fun _ _ h => h.1.mono fun id hid => by
      obtain ⟨v, hv⟩ := Config.data_of_mem_ofMembers (Config.mem_of_get?_str hid)
      cases hv

/-- A propagator is recorded when it has a shutdown, and only described after. --/
theorem propagatorStep_kept (ctx : Context) (c : ComponentRef) :
    Step Kept (propagatorStep ctx c) (fun _ b => Kept b) := by
  unfold propagatorStep
  refine Step.bind (resolve_ofMembers_step ctx _ c) fun p => acquire_then ?_
  exact Step.bind (get_step fun _ h => h.1.sane) fun _ => Step.pure fun _ h => h.1

theorem resolvePropagator_kept (ctx : Context) (sec : Option PropagatorSection) :
    Step Kept (resolvePropagator ctx sec) (fun _ b => Kept b) := by
  cases sec with
  | none => exact Step.pure fun _ h => h
  | some sec =>
    simp only [resolvePropagator]
    refine Step.bind (Step.forIn _ (J := fun _ b => Kept b) (fun c _ views => ?_) _) fun _ => Step.pure fun _ h => h
    exact Step.bind (propagatorStep_kept ctx c) fun _ => Step.pure fun _ h => h

/-- A detector is recorded before it detects, so a failed detection leaves it recorded. --/
theorem detectOne_kept (ctx : Context) (c : ComponentRef) : Step Kept (detectOne ctx c) (fun _ b => Kept b) := by
  unfold detectOne
  refine Step.bind (resolve_ofMembers_step ctx _ c) fun d => acquire_then ?_
  refine Step.bind (get_step fun _ h => h.1.sane) fun b => ?_
  split
  · exact Step.pure fun _ h => h.1
  · exact Step.throw fun _ h => h.1.sane

theorem runDetectors_kept (ctx : Context) (detectors : List ComponentRef) :
    Step Kept (runDetectors ctx detectors) (fun _ b => Kept b) := by
  simp only [runDetectors]
  refine Step.bind (Step.forIn _ (J := fun _ b => Kept b) (fun c _ detected => ?_) _) fun _ => Step.pure fun _ h => h
  exact Step.bind (detectOne_kept ctx c) fun _ => Step.pure fun _ h => h

theorem sectionAttributes_readOnly (sec : ResourceSection) : ReadOnly (sectionAttributes sec) := by
  simp only [sectionAttributes]
  -- the listed attributes are read or refused, and each entry after them is only coerced
  split <;> refine ReadOnly.bind ?_ fun _ => ReadOnly.bind (ReadOnly.forIn _ _ fun _ _ =>
    ReadOnly.bind (ReadOnly.ofExcept _) fun _ => ReadOnly.pure _) fun _ => ReadOnly.pure _
  · exact ReadOnly.pure _
  · exact ReadOnly.throw _

theorem resolveResource_kept (ctx : Context) (sec : Option ResourceSection) :
    Step Kept (resolveResource ctx sec) (fun _ b => Kept b) := by
  cases sec with
  | none => exact Step.pure fun _ h => h
  | some sec =>
    simp only [resolveResource]
    -- the detectors run first, if any; the attributes after them are only read
    split <;> refine Step.bind (Q := fun _ b => Kept b) ?_ fun _ =>
      Step.bind (Step.of_readOnly (sectionAttributes_readOnly sec) (fun _ _ h _ => h.sane) fun _ _ h _ => h) fun _ =>
        Step.pure fun _ h => h
    · exact runDetectors_kept ctx _
    · exact Step.pure fun _ h => h

/-! ### The whole assembly -/

/-- Each signal gets its provider, or a provider that does nothing when the document has none. --/
theorem assembleLogging_kept (ctx : Context) (doc : Document) :
    Step Kept (assembleLogging ctx doc) (fun _ b => Kept b) := by
  unfold assembleLogging
  split
  · exact noopProvider_kept _
  · exact assembleSignal_kept _ (buildLogging_provided ctx _ _)

theorem assembleTracing_kept (ctx : Context) (doc : Document) :
    Step Kept (assembleTracing ctx doc) (fun _ b => Kept b) := by
  unfold assembleTracing
  split
  · exact noopProvider_kept _
  · exact assembleSignal_kept _ (buildTracing_provided ctx _ _)

theorem assembleMetering_kept (ctx : Context) (doc : Document) :
    Step Kept (assembleMetering ctx doc) (fun _ b => Kept b) := by
  unfold assembleMetering
  split
  · exact noopProvider_kept _
  · exact assembleSignal_kept _ (buildMetering_provided ctx _)

theorem assemble_kept (ctx : Context) (doc : Document) (flushTimeout : Json) :
    Step Kept (assemble ctx doc flushTimeout) (fun _ b => Kept b) := by
  unfold assemble
  refine Step.bind (resolvePropagator_kept ctx _) fun _ => Step.bind (resolveResource_kept ctx _) fun _ => ?_
  refine Step.bind (assembleLogging_kept ctx doc) fun _ => Step.bind (assembleTracing_kept ctx doc) fun _ => ?_
  exact Step.bind (assembleMetering_kept ctx doc) fun _ => Step.pure fun _ h => h

end Telemetry.Assembly
