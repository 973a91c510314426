import Telemetry.Pipeline.Bench
import Telemetry.Pipeline.Attributes

/-!
What components do when they are shut down, flushed or handed a log record.

Shutting down is passed down the references: a provider shuts down its processors or readers in
order, a processor or reader its exporter. A tracer or logger provider stops at the first
processor that fails; a meter provider shuts every reader down, at most once, and reports all
that failed together. A batch processor or a periodic reader shuts down once, a batch processor
exporting what it still queues first; a simple processor passes every shutdown on.

Flushing answers whether everything was flushed in time. A provider is given a deadline, which
may already be over, or may not be a time at all when the timeout was not a number. A tracer or
logger provider flushes every processor and answers whether all of them answered yes; a meter
provider flushes every reader and reports all that failed together. A reader is flushed by
collecting, which never fails: a periodic reader hands what it collects to its exporter and drops
the failure of that export, and then flushes the exporter, whose answer it drops but whose failure
it passes on.

A log record goes through a logger provider's processors in order. A limiting processor bounds
the record's attributes, and the record it hands on is the bounded one, also for the processors
after it. Exporting never fails: an exporter that cannot take records loses them.

Each component only refers to components built before it, so every step recurses on a smaller
place.
-/

namespace Telemetry.Pipeline

/-- How much time a flush is given. --/
inductive Deadline where
  /-- There is time left. --/
  | ahead
  /-- The deadline passed before anything ran. --/
  | over
  /-- The timeout is no time at all; computing the deadline raises this failure. --/
  | unusable (f : Failure)
  deriving Inhabited

/-- The failure of reaching for a member a component does not have. --/
def missing (cls attr : String) : Failure := Failure.noAttribute cls attr

/-- Run a step, catching the failure it raises. --/
def attempt (a : Act Unit) : Act (Option Failure) :=
  tryCatch (do a; pure none) (fun e => pure (some e))

/-- The failure of a meter provider step, listing every reader that failed. --/
def readersFailed (what during : String) (fs : List (String × Failure)) : Failure :=
  ⟨.generic, "MeterProvider." ++ what ++ " failed because the following metric readers failed during " ++
    during ++ ":\n" ++ "\n".intercalate (fs.map (fun f => f.1 ++ ": " ++ f.2.shown))⟩

/-- Hand records to an exporter. Only an exporter keeping log records in memory and not yet
stopped keeps them. --/
def exportRecords (ex : Slot) (rs : List LogRecord) : Act Unit := do
  match ex with
  | .part c =>
    match ((← get).part? c).map (·.role) with
    | some (Role.logMemory false fin) => setRole c (.logMemory false (fin ++ rs))
    | _ => pure ()
  | .data _ => pure ()

/-! ### Shutdown -/

/-- Shut a component down. --/
def shutdown (id : PartId) : Act Unit := do
  match (← get).part? id with
  | none => pure ()
  | some p =>
    match p.role with
    | .remote _ | .metricMemory => pure ()
    | .spanMemory _ => setRole id (.spanMemory true)
    | .logMemory _ fin => setRole id (.logMemory true fin)
    | .simple ex _ =>
      setRole id (.simple ex true)
      match ex with
      | .part c => if c < id then shutdown c else pure ()
      | .data v => throw (missing v.kindName "shutdown")
    | .batch ex stopped q =>
      if stopped then pure ()
      else
        setRole id (.batch ex true [])
        exportRecords ex q
        match ex with
        | .part c => if c < id then shutdown c else pure ()
        | .data v => throw (missing v.kindName "shutdown")
    | .periodic ex stopped =>
      if stopped then pure ()
      else
        setRole id (.periodic ex true)
        match ex with
        | .part c => if c < id then shutdown c else pure ()
        | .data v => throw (missing v.kindName "shutdown")
    | .limiting d _ _ => if d < id then shutdown d else pure ()
    | .tracerProvider ps | .loggerProvider ps =>
      ps.attach.forM fun ⟨c, _⟩ => if c < id then shutdown c else pure ()
    | .meterProvider rs stopped =>
      if stopped then pure ()
      else
        setRole id (.meterProvider rs true)
        let outcomes ← rs.attach.mapM fun ⟨r, _⟩ => do
          let o ← if r < id then attempt (shutdown r) else pure none
          let b ← get
          pure (o.map (fun f => (b.className (.part r), f)))
        let fs := outcomes.filterMap (fun o => o)
        if fs.isEmpty then pure () else throw (readersFailed "shutdown" "shutdown" fs)
    | .scripted s =>
      if !s.closeable then throw (missing p.cls "shutdown")
      else if s.done then pure ()
      else
        setRole id (.scripted { s with done := true })
        recordEvent s.label
        if s.failsShutdown then throw ⟨.runtimeError, Json.display s.label ++ " refused to shut down"⟩
        else
          match s.config.get? "exporter" with
          | some (.part c) =>
            let closeable := (((← get).part? c).map (·.role.closeable)).getD false
            if c < id then (if closeable then shutdown c else pure ()) else pure ()
          | _ => pure ()
    | .sampler | .processDetector | .inert => throw (missing p.cls "shutdown")
termination_by id

/-! ### Flushing -/

/-- Flush a component, given the deadline of the provider it belongs to. --/
def flush (deadline : Deadline) (id : PartId) : Act Bool := do
  match (← get).part? id with
  | none => pure true
  | some p =>
    match p.role with
    | .remote _ | .spanMemory _ | .logMemory .. | .metricMemory | .simple .. => pure true
    | .batch ex stopped q =>
      if stopped then pure false
      else
        setRole id (.batch ex false [])
        exportRecords ex q
        pure true
    | .periodic ex _ =>
      match ex with
      | .part e => if e < id then do let _ ← flush deadline e; pure true else pure true
      | .data _ => pure true
    | .limiting d _ _ => if d < id then flush deadline d else pure true
    | .tracerProvider ps | .loggerProvider ps =>
      match deadline with
      | .unusable f => throw f
      | .over => pure ps.isEmpty
      | .ahead =>
        ps.attach.foldlM (fun ok ⟨c, _⟩ => do
          let answer ← if c < id then flush deadline c else pure true
          pure (ok && answer)) true
    | .meterProvider rs _ =>
      match deadline with
      | .unusable f => throw f
      | _ =>
        let outcomes ← rs.attach.mapM fun ⟨r, _⟩ => do
          let o ← match deadline with
            | .over => pure (some ⟨.metricsTimeoutError, "Timed out while flushing metric readers"⟩)
            | _ => if r < id then attempt (do let _ ← flush deadline r) else pure none
          let b ← get
          pure (o.map (fun f => (b.className (.part r), f)))
        let fs := outcomes.filterMap (fun o => o)
        if fs.isEmpty then pure true else throw (readersFailed "force_flush" "collect" fs)
    | .scripted s =>
      match s.flush with
      | .answers ok => pure ok
      | .raises => throw ⟨.runtimeError, Json.display s.label ++ " cannot flush"⟩
    | .sampler | .processDetector | .inert => throw (missing p.cls "force_flush")
termination_by id

/-! ### Log records -/

/-- Hand a log record to a component; the answer is the record as later processors see it. --/
def emit (record : LogRecord) (id : PartId) : Act LogRecord := do
  match (← get).part? id with
  | none => pure record
  | some p =>
    match p.role with
    | .limiting d maxCount maxLength =>
      let bounded :=
        if record.attributes.isEmpty then record
        else { record with attributes := (Bounds.mk maxCount maxLength true).fill record.attributes }
      if d < id then emit bounded d else pure bounded
    | .simple ex stopped =>
      if stopped then pure record
      else
        exportRecords ex [record]
        pure record
    | .batch ex stopped q =>
      if stopped then pure record
      else
        setRole id (.batch ex stopped (q ++ [record]))
        pure record
    | .loggerProvider ps =>
      ps.attach.foldlM (fun r ⟨c, _⟩ => if c < id then emit r c else pure r) record
    | _ => pure record
termination_by id

/-- Take the records an in-memory log exporter keeps, leaving it empty. --/
def takeRecords (id : PartId) : Act (List LogRecord) := do
  match ((← get).part? id).map (·.role) with
  | some (Role.logMemory stopped fin) =>
    setRole id (.logMemory stopped [])
    pure fin
  | _ => pure []

theorem shutdown_remote (b : Bench) (id : PartId) (p : Instance) (metric : Bool)
    (hp : b.part? id = some p) (hr : p.role = .remote metric) :
    (shutdown id).run b = (.ok (), b) := by
  unfold shutdown
  simp [hp, hr, ExceptT.run, bind, ExceptT.bind, ExceptT.mk, ExceptT.bindCont, get, getThe,
    MonadStateOf.get, ExceptT.lift, liftM, monadLift, MonadLift.monadLift, StateT.get, StateT.bind,
    pure, ExceptT.pure, Bench.statePure_apply, Functor.map, StateT.map]

theorem flush_simple (b : Bench) (d : Deadline) (id : PartId) (p : Instance) (ex : Slot) (stopped : Bool)
    (hp : b.part? id = some p) (hr : p.role = .simple ex stopped) :
    (flush d id).run b = (.ok true, b) := by
  unfold flush
  simp [hp, hr, ExceptT.run, bind, ExceptT.bind, ExceptT.mk, ExceptT.bindCont, get, getThe,
    MonadStateOf.get, ExceptT.lift, liftM, monadLift, MonadLift.monadLift, StateT.get, StateT.bind,
    pure, ExceptT.pure, Bench.statePure_apply, Functor.map, StateT.map]

end Telemetry.Pipeline
