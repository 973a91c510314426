import Telemetry.Components.Factory

/-!
What building a component does to the bench.

An assembly step runs on a bench and answers or fails, leaving a bench behind (`run_bind` says how
two steps in a row run). A step that only reads the bench (`ReadOnly`) leaves it as it was, whether
it answers or fails: reading and checking settings, describing a value, looking a factory up.

A factory does one of two things (`MakesAt`): it leaves the bench as it was, and then whatever it
answers is plain data or a value of the configuration it was given (a pull reader answers its
exporter); or it puts one new component on the bench, which is not a limiting processor, and
answers that component. So a factory that fails has built nothing, and a factory builds at most
the one component it answers.
-/

namespace Telemetry.Pipeline

theorem Config.mem_of_get? {c : Config} {k : String} {t : Slot} (h : c.get? k = some t) : ∃ key, (key, t) ∈ c := by
  unfold Config.get? at h
  obtain ⟨m, hm, rfl⟩ := Option.map_eq_some_iff.mp h
  exact ⟨m.1, List.mem_of_find?_eq_some hm⟩

/-- A role holds the exporter it names. --/
theorem Role.mem_holds_of_exporter {r : Role} {c : PartId} (h : r.exporter? = some (.part c)) : c ∈ r.holds := by
  cases r with
  | simple ex _ | batch ex _ _ | periodic ex _ => cases h; exact List.mem_singleton_self c
  | scripted s =>
    obtain ⟨k, hk⟩ := Config.mem_of_get? h
    exact List.mem_filterMap.mpr ⟨(k, .part c), hk, rfl⟩
  | _ => cases h

end Telemetry.Pipeline

namespace Telemetry.Components

open Pipeline Schema

variable {α β : Type}

theorem run_bind {ε : Type} (x : ExceptT ε (StateM Bench) α) (f : α → ExceptT ε (StateM Bench) β) (b : Bench) :
    (x >>= f).run.run b = match x.run.run b with
      | (.ok a, b') => (f a).run.run b'
      | (.error e, b') => (.error e, b') := by
  simp only [ExceptT.run_bind, StateT.run_bind]
  rcases x.run.run b with ⟨_ | _, _⟩ <;> rfl

theorem run_bind_eq_ok {x : Build α} {f : α → Build β} {b b' : Bench} {r : β}
    (h : (x >>= f).run.run b = (.ok r, b')) :
    ∃ a b₁, x.run.run b = (.ok a, b₁) ∧ (f a).run.run b₁ = (.ok r, b') := by
  rw [run_bind] at h
  rcases hx : x.run.run b with ⟨_ | a, b₁⟩
  · rw [hx] at h
    cases h
  · rw [hx] at h
    exact ⟨a, b₁, rfl, h⟩

theorem run_addPart (cls : String) (v : Json) (r : Role) (b : Bench) :
    (addPart cls v r : Build PartId).run.run b = (.ok b.parts.length, (b.add ⟨cls, v, r⟩).1) := rfl

/-! ### Steps that only read the bench -/

/-- A step that leaves the bench as it was, whatever it answers. --/
def ReadOnly (x : Build α) : Prop := ∀ b, (x.run.run b).2 = b

namespace ReadOnly

theorem pure (a : α) : ReadOnly (Pure.pure a : Build α) := fun _ => rfl

theorem throw (e : Fault) : ReadOnly (MonadExcept.throw e : Build α) := fun _ => rfl

theorem get : ReadOnly (MonadState.get : Build Bench) := fun _ => rfl

theorem bind {x : Build α} {f : α → Build β} (hx : ReadOnly x) (hf : ∀ a, ReadOnly (f a)) :
    ReadOnly (x >>= f) := by
  intro b
  have hb := hx b
  rw [run_bind]
  rcases h : x.run.run b with ⟨_ | a, b'⟩
  · rw [h] at hb; exact hb
  · rw [h] at hb; subst hb; exact hf a _

theorem ofExcept (e : Except Fault α) : ReadOnly (Build.ofExcept e) := by
  intro b; cases e <;> rfl

theorem ite {c : Prop} [Decidable c] {x y : Build α} (hx : ReadOnly x) (hy : ReadOnly y) :
    ReadOnly (if c then x else y) := by
  split
  · exact hx
  · exact hy

/-- A check that fails or goes on to a continuation that only reads the bench. --/
theorem check {c : Prop} [Decidable c] {e : Fault} {k : Unit → Build Unit} (hk : ∀ u, ReadOnly (k u)) :
    ReadOnly (if c then (MonadExcept.throw e >>= k) else k ()) :=
  ReadOnly.ite (ReadOnly.bind (ReadOnly.throw e) hk) (hk ())

/-- A loop whose every round only reads the bench only reads it. --/
theorem forIn {γ : Type} (xs : List γ) (init : β) {f : γ → β → Build (ForInStep β)}
    (hf : ∀ x acc, ReadOnly (f x acc)) : ReadOnly (ForIn.forIn xs init f) := by
  induction xs generalizing init with
  | nil => exact ReadOnly.pure init
  | cons x xs ih =>
    rw [List.forIn_cons]
    refine ReadOnly.bind (hf x init) fun step => ?_
    cases step with
    | done acc => exact ReadOnly.pure acc
    | yield acc => exact ih acc

end ReadOnly

theorem readSettings_readOnly (title : String) (c : Checked α) : ReadOnly (readSettings title c) :=
  ReadOnly.ofExcept _

theorem run_readSettings (title : String) (c : Checked α) (b : Bench) :
    (readSettings title c).run.run b = (settingsOf title c, b) := by
  unfold readSettings Build.ofExcept
  cases settingsOf title c <;> rfl

theorem describeSlot_readOnly (s : Slot) : ReadOnly (describeSlot s : Build Json) :=
  ReadOnly.bind ReadOnly.get fun _ => ReadOnly.pure _

theorem takesNothing_readOnly (what : String) (c : Config) : ReadOnly (takesNothing what c) := by
  unfold takesNothing
  refine ReadOnly.ite (ReadOnly.pure _) ?_
  split
  · exact ReadOnly.throw _
  · exact ReadOnly.throw _

theorem requireExporter_readOnly (what : String) (s : Option Slot) : ReadOnly (requireExporter what s) := by
  cases s with
  | none => exact ReadOnly.throw _
  | some s => exact ReadOnly.pure s

theorem batchChecks_readOnly (s : BatchSettings) : ReadOnly (batchChecks s) := by
  unfold batchChecks
  extract_lets queue delay batch last overflow order size positive
  -- six checks in a row, each failing or going on to the next; the join points are
  -- named innermost first
  have hlast : ∀ u, ReadOnly (last u) := fun _ => ReadOnly.ite (ReadOnly.throw _) (ReadOnly.pure _)
  have hoverflow : ∀ u, ReadOnly (overflow u) := fun _ => ReadOnly.check hlast
  have horder : ∀ u, ReadOnly (order u) := fun _ => ReadOnly.check hoverflow
  have hsize : ∀ u, ReadOnly (size u) := fun _ => ReadOnly.check horder
  have hpositive : ∀ u, ReadOnly (positive u) := fun _ => ReadOnly.check hsize
  exact ReadOnly.check hpositive

/-! ### The exporter a configuration gives -/

theorem settingsOf_eq_ok {title : String} {r : Checked α} {a : α} (h : settingsOf title r = .ok a) : r = .ok a := by
  cases r with
  | ok _ => cases h; rfl
  | failed _ => cases h

/-- The first entry of a configuration's text keys under `k` is what `get?` finds under `k`. --/
theorem Config.get?_of_find?_texts {c : Config} {k : String} {m : String × Slot}
    (h : c.texts.find? (·.1 == k) = some m) : c.get? k = some m.2 := by
  induction c with
  | nil => cases h
  | cons e c ih =>
    obtain ⟨key, v⟩ := e
    cases key with
    | str k' =>
      by_cases hk : k' = k
      · subst hk
        simp only [Config.texts, List.filterMap_cons, List.find?_cons, beq_self_eq_true] at h
        cases h
        simp [Config.get?, isTextKey]
      · have hk' : (k' == k) = false := by simpa using hk
        simp only [Config.texts, List.filterMap_cons, List.find?_cons, hk'] at h
        simpa [Config.get?, isTextKey, hk] using ih h
    | _ => simpa [Config.get?, isTextKey, Config.texts] using ih h

/-- The exporter read from a configuration is the value it holds under its text key `exporter`. --/
theorem get?_of_readExporter {c : Config} {s : Slot}
    (h : optionalField c.texts ["exporter"] readAny none = .ok (some s)) : c.get? "exporter" = some s := by
  unfold optionalField at h
  split at h
  · next k v hl =>
    have hv : readAny v = .ok (some s) := Checked.under_eq_ok h
    have hs : v = s := by
      unfold readAny at hv
      split at hv
      · cases hv
      · cases hv; rfl
    subst hs
    exact Config.get?_of_find?_texts (lookup_single hl)
  · cases h

theorem readExporterOnly_exporter {c : Config} {e : Option Slot} (h : readExporterOnly c = .ok e) :
    optionalField c.texts ["exporter"] readAny none = .ok e :=
  Checked.alsoFailing_eq_ok h

theorem BatchSettings.read_exporter {c : Config} {s : BatchSettings} (h : BatchSettings.read c = .ok s) :
    optionalField c.texts ["exporter"] readAny none = .ok s.exporter := by
  -- the exporter is the first of the five fields read
  obtain ⟨_, _, h4, -, rfl⟩ := Checked.seq_eq_ok (Checked.alsoFailing_eq_ok h)
  obtain ⟨_, _, h3, -, rfl⟩ := Checked.seq_eq_ok h4
  obtain ⟨_, _, h2, -, rfl⟩ := Checked.seq_eq_ok h3
  obtain ⟨_, _, h1, -, rfl⟩ := Checked.seq_eq_ok h2
  obtain ⟨_, hex, rfl⟩ := Checked.map_eq_ok h1
  exact hex

theorem PeriodicSettings.read_exporter {c : Config} {s : PeriodicSettings} (h : PeriodicSettings.read c = .ok s) :
    optionalField c.texts ["exporter"] readAny none = .ok s.exporter := by
  obtain ⟨_, _, h2, -, rfl⟩ := Checked.seq_eq_ok (Checked.alsoFailing_eq_ok h)
  obtain ⟨_, _, h1, -, rfl⟩ := Checked.seq_eq_ok h2
  obtain ⟨_, hex, rfl⟩ := Checked.map_eq_ok h1
  exact hex

/-- Dropping another key keeps what a configuration holds under `k`. --/
theorem Config.get?_without {c : Config} {k k' : String} (h : k ≠ k') : (c.without k').get? k = c.get? k := by
  induction c with
  | nil => rfl
  | cons m c ih =>
    obtain ⟨key, v⟩ := m
    cases key with
    | str s =>
      by_cases hs : s = k'
      · subst hs
        simpa [Config.without, Config.get?, isTextKey, Ne.symm h] using ih
      · have hkeep : Config.without ((.str s, v) :: c) k' = (.str s, v) :: Config.without c k' := by
          simp [Config.without, isTextKey, hs]
        rw [hkeep]
        by_cases hk : s = k
        · simp [Config.get?, isTextKey, hk]
        · simpa [Config.get?, isTextKey, hk] using ih
    | _ => simpa [Config.without, Config.get?, isTextKey] using ih

theorem readSettings_ok {title : String} {r : Checked α} {a : α} {b : Bench}
    (h : ((readSettings title r).run.run b).1 = .ok a) : r = .ok a := by
  rw [run_readSettings] at h
  exact settingsOf_eq_ok h

theorem requireExporter_ok {what : String} {o : Option Slot} {ex : Slot} {b : Bench}
    (h : ((requireExporter what o).run.run b).1 = .ok ex) : o = some ex := by
  cases o with
  | none => cases h
  | some s => cases h; rfl

/-! ### What a factory leaves behind -/

theorem held_of_mem {c : Config} {k : Json} {s : Slot} (h : (k, s) ∈ c) : Held c s := by
  cases s with
  | data _ => trivial
  | part _ => exact ⟨k, h⟩

/-- A role that holds nothing. --/
theorem BuiltFrom.leaf {c : Config} {r : Role} (hw : r.wraps = false) (hp : r.isProvider = false)
    (hh : r.holds = []) (he : r.exporter? = none) : BuiltFrom c r where
  plain := hw
  notProvider := hp
  holds := fun _ h => by rw [hh] at h; cases h
  exporter := fun _ h => by rw [he] at h; cases h

/-- A role that holds only the exporter read from `c`. --/
theorem BuiltFrom.exporter_only {c : Config} {r : Role} {ex : Slot} (hw : r.wraps = false)
    (hp : r.isProvider = false) (hh : r.holds = ex.partId?.toList) (he : r.exporter? = some ex)
    (hget : c.get? "exporter" = some ex) : BuiltFrom c r where
  plain := hw
  notProvider := hp
  holds := fun id h => by
    rw [hh] at h
    cases ex with
    | data _ => cases h
    | part c' =>
      obtain rfl : id = c' := List.mem_singleton.mp h
      exact Config.mem_of_get? hget
  exporter := fun _ h => by rw [he] at h; cases h; exact hget

/-- A scripted component holds its configuration without its label. --/
theorem BuiltFrom.scripted {c : Config} {s : Scripted} (hs : s.config = c.without "label") :
    BuiltFrom c (.scripted s) where
  plain := rfl
  notProvider := rfl
  holds := fun id h => by
    obtain ⟨⟨k, v⟩, hm, he⟩ := List.mem_filterMap.mp h
    cases v with
    | data _ => cases he
    | part _ =>
      cases he
      rw [hs] at hm
      exact ⟨k, (List.mem_filter.mp hm).1⟩
  exporter := fun ex h => by
    simp only [Role.exporter?, hs] at h
    rwa [Config.get?_without (by decide)] at h

namespace MakesAt

variable {c : Config} {b : Bench}

theorem bind {x : Build α} {f : α → Build Slot} (hx : ReadOnly x)
    (hf : ∀ a, (x.run.run b).1 = .ok a → MakesAt c (f a) b) : MakesAt c (x >>= f) b := by
  have hb := hx b
  unfold MakesAt
  rw [run_bind]
  rcases h : x.run.run b with ⟨_ | a, b'⟩
  · rw [h] at hb; subst hb
    exact .inl ⟨rfl, fun s hs => by cases hs⟩
  · rw [h] at hb; subst hb
    exact hf a (by rw [h])

theorem throw (e : Fault) : MakesAt c (MonadExcept.throw e) b :=
  .inl ⟨rfl, fun s hs => by cases hs⟩

theorem pure_data (v : Json) : MakesAt c (Pure.pure (Slot.data v)) b :=
  .inl ⟨rfl, fun s hs => by cases hs; trivial⟩

theorem pure_held {s : Slot} (hs : Held c s) : MakesAt c (Pure.pure s) b :=
  .inl ⟨rfl, fun s' h => by cases h; exact hs⟩

/-- Putting a component built from `c` on the bench and answering it. --/
theorem addPart (cls : String) (v : Json) {r : Role} (hr : BuiltFrom c r) :
    MakesAt c (do return .part (← Pipeline.addPart cls v r)) b :=
  .inr ⟨⟨cls, v, r⟩, hr, rfl⟩

/-- Putting a component that holds nothing on the bench and answering it. --/
theorem addLeaf (cls : String) (v : Json) {r : Role} (hw : r.wraps = false) (hp : r.isProvider = false)
    (hh : r.holds = []) (he : r.exporter? = none) :
    MakesAt c (do return .part (← Pipeline.addPart cls v r)) b :=
  addPart cls v (.leaf hw hp hh he)

theorem addInert (cls : String) (v : Json) : MakesAt c (Components.addInert cls v) b :=
  addLeaf cls v rfl rfl rfl rfl

end MakesAt

/-! ### The factories -/

section Builders

variable (c : Config) (b : Bench)

theorem buildPropagator_makes (name cls : String) (args : List Json) :
    MakesAt c (buildPropagator name cls args c) b :=
  MakesAt.bind (takesNothing_readOnly _ c) fun _ _ => MakesAt.addInert _ _

theorem buildParentBased_makes : MakesAt c (buildParentBased c) b := by
  unfold buildParentBased
  refine MakesAt.bind (readSettings_readOnly _ _) fun delegates _ => ?_
  refine MakesAt.bind ReadOnly.get fun b' _ => ?_
  -- every delegate is checked before anything is built
  refine MakesAt.bind (ReadOnly.forIn _ _ fun d _ => ?_) fun _ _ => MakesAt.addLeaf (r := .sampler) _ _ rfl rfl rfl rfl
  rcases d with ⟨k, _ | s⟩
  · exact ReadOnly.pure _
  · exact ReadOnly.ite (ReadOnly.bind (ReadOnly.throw _) fun _ => ReadOnly.pure _) (ReadOnly.pure _)

theorem buildHttpExporter_makes (form : ExporterForm) (cls name : String) :
    MakesAt c (buildHttpExporter form cls name c) b :=
  MakesAt.bind (readSettings_readOnly _ _) fun _ _ =>
    MakesAt.bind (ReadOnly.ofExcept _) fun _ _ => MakesAt.addLeaf _ _ rfl rfl rfl rfl

theorem buildGrpcExporter_makes (files : FileSystem) (form : ExporterForm) (cls name : String) :
    MakesAt c (buildGrpcExporter files form cls name c) b := by
  unfold buildGrpcExporter
  refine MakesAt.bind (readSettings_readOnly _ _) fun s _ => ?_
  refine MakesAt.bind (ReadOnly.ofExcept _) fun _ _ => ?_
  dsimp only
  -- the endpoint is checked as a URL when one is set
  split
  · split
    · exact MakesAt.bind (ReadOnly.ofExcept _) fun _ _ => MakesAt.addLeaf _ _ rfl rfl rfl rfl
    · exact MakesAt.addLeaf _ _ rfl rfl rfl rfl
  · exact MakesAt.addLeaf _ _ rfl rfl rfl rfl

theorem buildConsoleExporter_makes (form : ExporterForm) (cls : String) :
    MakesAt c (buildConsoleExporter form cls c) b :=
  MakesAt.bind (readSettings_readOnly _ _) fun _ _ => MakesAt.addLeaf _ _ rfl rfl rfl rfl

theorem buildBatch_makes (cls : String) : MakesAt c (buildBatch cls c) b :=
  MakesAt.bind (readSettings_readOnly _ _) fun s hs =>
    MakesAt.bind (requireExporter_readOnly _ _) fun ex hex =>
      MakesAt.bind (batchChecks_readOnly s) fun _ _ =>
        MakesAt.bind (describeSlot_readOnly _) fun _ _ =>
          MakesAt.addPart _ _ (.exporter_only rfl rfl rfl rfl (get?_of_readExporter (by
            rw [BatchSettings.read_exporter (readSettings_ok hs), requireExporter_ok hex])))

theorem buildSimple_makes (cls : String) : MakesAt c (buildSimple cls c) b :=
  MakesAt.bind (readSettings_readOnly _ _) fun e he =>
    MakesAt.bind (requireExporter_readOnly _ _) fun ex hex =>
      MakesAt.bind (describeSlot_readOnly _) fun _ _ =>
        MakesAt.addPart _ _ (.exporter_only rfl rfl rfl rfl (get?_of_readExporter (by
          rw [readExporterOnly_exporter (readSettings_ok he), requireExporter_ok hex])))

theorem buildPeriodic_makes : MakesAt c (buildPeriodic c) b := by
  unfold buildPeriodic
  refine MakesAt.bind (readSettings_readOnly _ _) fun s hs => ?_
  refine MakesAt.bind (requireExporter_readOnly _ _) fun ex hex => ?_
  refine MakesAt.bind ReadOnly.get fun b' _ => ?_
  have hbuilt : BuiltFrom c (.periodic ex false) := .exporter_only rfl rfl rfl rfl (get?_of_readExporter (by
    rw [PeriodicSettings.read_exporter (readSettings_ok hs), requireExporter_ok hex]))
  dsimp only
  -- an exporter that states no preferences is refused
  split
  · exact MakesAt.bind (ReadOnly.throw _) fun _ _ => MakesAt.addPart _ _ hbuilt
  · exact MakesAt.addPart _ _ hbuilt

/-- A pull reader builds nothing: it answers the exporter it was given. --/
theorem buildPull_makes : MakesAt c (buildPull c) b := by
  unfold buildPull
  refine MakesAt.bind (readSettings_readOnly _ _) fun ex hex => ?_
  rw [run_readSettings] at hex
  refine MakesAt.bind ReadOnly.get fun b' _ => ?_
  rcases ex with _ | s
  · exact MakesAt.throw _
  · have hread : readExporterOnly c = .ok (some s) := by
      unfold settingsOf at hex
      split at hex <;> cases hex
      assumption
    obtain ⟨k, hk⟩ := Config.mem_of_get? (get?_of_readExporter (readExporterOnly_exporter hread))
    dsimp only
    split
    · exact MakesAt.pure_held (held_of_mem hk)
    · exact MakesAt.throw _

theorem buildPlainAggregation_makes (cls : String) : MakesAt c (buildPlainAggregation cls c) b :=
  MakesAt.bind (readSettings_readOnly _ _) fun _ _ => MakesAt.addInert _ _

theorem buildExplicitHistogram_makes : MakesAt c (buildExplicitHistogram c) b :=
  MakesAt.bind (readSettings_readOnly _ _) fun _ _ => MakesAt.addInert _ _

theorem buildExponentialHistogram_makes : MakesAt c (buildExponentialHistogram c) b :=
  MakesAt.bind (readSettings_readOnly _ _) fun _ _ => MakesAt.addInert _ _

theorem Builtin.build_makes (files : FileSystem) (bi : Builtin) : MakesAt c (bi.build files c) b := by
  cases bi with
  | tracecontext | baggage | b3 | b3multi | noPropagation => exact buildPropagator_makes c b _ _ _
  | processDetector => exact MakesAt.bind (takesNothing_readOnly _ c) fun _ _ => MakesAt.addLeaf _ _ rfl rfl rfl rfl
  | alwaysOn | alwaysOff | traceIdRatio =>
    exact MakesAt.bind (readSettings_readOnly _ _) fun _ _ => MakesAt.addLeaf _ _ rfl rfl rfl rfl
  | parentBased => exact buildParentBased_makes c b
  | httpSpans | httpLogs | httpMetrics => exact buildHttpExporter_makes c b _ _ _
  | grpcSpans | grpcLogs | grpcMetrics => exact buildGrpcExporter_makes c b files _ _ _
  | consoleSpans | consoleLogs | consoleMetrics => exact buildConsoleExporter_makes c b _ _
  | batchSpans | batchLogs => exact buildBatch_makes c b _
  | simpleSpans | simpleLogs => exact buildSimple_makes c b _
  | periodic => exact buildPeriodic_makes c b
  | pull => exact buildPull_makes c b
  | defaultAggregation | dropAggregation | sumAggregation | lastValueAggregation =>
    exact buildPlainAggregation_makes c b _
  | explicitHistogram => exact buildExplicitHistogram_makes c b
  | exponentialHistogram => exact buildExponentialHistogram_makes c b

theorem buildScripted_makes (closeable : Bool) (cap : Capability) : MakesAt c (buildScripted closeable cap c) b := by
  unfold buildScripted
  dsimp only
  -- a scripted factory told to raise fails before building anything
  split
  · exact MakesAt.bind (ReadOnly.throw _) fun _ h => nomatch h
  · exact MakesAt.bind ReadOnly.get fun _ _ => MakesAt.addPart _ _ (.scripted rfl)

theorem buildMemory_makes (cap : Capability) : MakesAt c (buildMemory cap) b := by
  unfold buildMemory
  split
  · exact MakesAt.addLeaf _ _ rfl rfl rfl rfl
  · exact MakesAt.addLeaf _ _ rfl rfl rfl rfl
  · exact MakesAt.addLeaf _ _ rfl rfl rfl rfl

theorem Factory.make_makes (files : FileSystem) (cap : Capability) (f : Factory) :
    MakesAt c (f.make files cap c) b := by
  cases f with
  | builtin bi => exact Builtin.build_makes c b files bi
  | scripted closeable => exact buildScripted_makes c b closeable cap
  | memory => exact buildMemory_makes c b cap
  | foreign f =>
    simp only [Factory.make]
    split
    · exact MakesAt.throw _
    · exact MakesAt.throw _
    · exact MakesAt.bind ReadOnly.get fun _ _ => MakesAt.pure_data _
  | custom f => exact f.disciplined files cap c b

end Builders

theorem run_tryCatch {ε : Type} (x : ExceptT ε (StateM Bench) α) (h : ε → ExceptT ε (StateM Bench) α) (b : Bench) :
    (tryCatch x h).run.run b = match x.run.run b with
      | (.ok a, b') => (.ok a, b')
      | (.error e, b') => (h e).run.run b' := by
  show (ExceptT.tryCatch x h).run.run b = _
  simp only [ExceptT.tryCatch, ExceptT.run_mk, StateT.run_bind]
  change (x.run.run b >>= _) = _
  rcases x.run.run b with ⟨_ | _, _⟩ <;> rfl

/-- Reporting a step's errors anew keeps its answers: an answer is the step's own. --/
theorem run_tryCatch_eq_ok {x : Build α} {h : Fault → Build α} (hh : ∀ e, ∃ e', h e = throw e') {b b' : Bench}
    {a : α} (hrun : (tryCatch x h).run.run b = (.ok a, b')) : x.run.run b = (.ok a, b') := by
  rw [run_tryCatch] at hrun
  rcases hx : x.run.run b with ⟨e | a', b''⟩
  · obtain ⟨e', he⟩ := hh e
    have hthrow : (h e).run.run b'' = (.ok a, b') := by rwa [hx] at hrun
    rw [he] at hthrow
    cases hthrow
  · rw [hx] at hrun
    exact hrun

/-- A factory's errors reported anew leave what it did to the bench as it was. --/
theorem MakesAt.tryCatch {c : Config} {b : Bench} {x : Build Slot} {h : Fault → Build Slot}
    (hx : MakesAt c x b) (hh : ∀ e, ∃ e', h e = MonadExcept.throw e') : MakesAt c (tryCatch x h) b := by
  unfold MakesAt at hx ⊢
  rw [run_tryCatch]
  rcases hx with ⟨hb, hs⟩ | ⟨p, hp, hrun⟩
  · rcases hres : x.run.run b with ⟨e | s, b'⟩
    · have hb' : b' = b := by rw [hres] at hb; exact hb
      subst hb'
      obtain ⟨e', he⟩ := hh e
      dsimp only
      rw [he]
      exact .inl ⟨rfl, fun s hs => nomatch hs⟩
    · rw [hres] at hb hs
      exact .inl ⟨hb, hs⟩
  · rw [hrun]
    exact .inr ⟨p, hp, rfl⟩

/-- Resolving a component through any registry: looking the factory up only reads the bench, and
the errors of the factory are only reported anew. --/
theorem resolve_makes (files : FileSystem) (reg : Registry Factory) (cap : Capability) (name : String)
    (c : Config) (b : Bench) : MakesAt c (resolve files reg cap name c) b := by
  unfold resolve resolveWith
  refine MakesAt.bind (ReadOnly.ofExcept _) fun f _ => ?_
  refine MakesAt.tryCatch (Factory.make_makes c b files cap f) fun e => ?_
  split
  · exact ⟨_, rfl⟩
  · exact ⟨_, rfl⟩

end Telemetry.Components
