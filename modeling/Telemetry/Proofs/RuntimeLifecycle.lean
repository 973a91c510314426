import Telemetry.Proofs.AllOrNothing

/-!
The lifecycle of a runtime: flushing it, shutting it down, and leaving it as a context.

A flush never touches the ledger and never changes which components can be flushed
(`flush_safe`). It only empties the queues of batch processors into in-memory exporters. So
flushing a live runtime works on its providers as they were when the flush began. Each provider
that can be flushed is flushed once, logging first, then tracing, then metering. The answer is yes
exactly when every one of them answered yes without failing (`forceFlush_live`). The first
shutdown, or the first exit from the runtime as a context, releases the ledger. After it, every
call answers as on a runtime that is shut down, and changes nothing.
-/

namespace Telemetry

namespace Pipeline

variable {α β : Type}

namespace Act

theorem run_setRole_bind (id : PartId) (r : Role) (f : Unit → Act α) (b : Bench) :
    (setRole id r >>= f).run.run b = (f ()).run.run (b.setRole id r) := rfl

end Act

theorem Bench.part?_setRole (b : Bench) (id : PartId) (r : Role) (j : PartId) :
    (b.setRole id r).part? j = if j = id then (b.part? j).map ({ · with role := r }) else b.part? j := by
  simp only [Bench.setRole, Bench.part?, List.getElem?_modify]
  by_cases h : j = id
  · subst h
    simp
  · simp [h, Ne.symm h]

end Pipeline

namespace Assembly

open Pipeline

namespace Runtime

variable {b : Bench} {id : PartId} {p : Instance}

theorem flushable_of_part? (hp : b.part? id = some p) (h : p.role ≠ .inert) : flushable b id = true := by
  simp only [flushable, hp, Option.map_some]
  split
  · next h' => exact absurd (Option.some.inj h') h
  · next h' => cases h'
  · rfl

/-- Giving a component that can be flushed another role that can be flushed changes nothing that
can be flushed. --/
theorem flushable_setRole (hp : b.part? id = some p) (hold : p.role ≠ .inert) {r : Role} (hnew : r ≠ .inert)
    (j : PartId) : flushable (b.setRole id r) j = flushable b j := by
  by_cases h : j = id
  · subst h
    have hp' : (b.setRole j r).part? j = some { p with role := r } := by simp [Bench.part?_setRole, hp]
    rw [flushable_of_part? hp hold, flushable_of_part? hp' hnew]
  · simp [flushable, Bench.part?_setRole, h]

end Runtime

/-! ### What a flush leaves as it was -/

/-- What a flush leaves as it was: the ledger, and which components can be flushed. --/
structure FlushFrame (b b' : Bench) : Prop where
  ledger : b'.ledger = b.ledger
  flushable : ∀ id, Runtime.flushable b' id = Runtime.flushable b id

namespace FlushFrame

theorem refl (b : Bench) : FlushFrame b b := ⟨rfl, fun _ => rfl⟩

theorem trans {b₁ b₂ b₃ : Bench} (h₁ : FlushFrame b₁ b₂) (h₂ : FlushFrame b₂ b₃) : FlushFrame b₁ b₃ :=
  ⟨h₂.ledger.trans h₁.ledger, fun id => (h₂.flushable id).trans (h₁.flushable id)⟩

theorem setRole {b : Bench} {id : PartId} {p : Instance} (hp : b.part? id = some p) (hold : p.role ≠ .inert)
    {r : Role} (hnew : r ≠ .inert) : FlushFrame b (b.setRole id r) :=
  ⟨rfl, Runtime.flushable_setRole hp hold hnew⟩

end FlushFrame

variable {α β : Type}

/-- A step after which the bench is as a flush leaves it, whatever the step answers. --/
def FlushSafe (x : Act α) : Prop := ∀ b, FlushFrame b (x.run.run b).2

namespace FlushSafe

theorem pure (a : α) : FlushSafe (Pure.pure a : Act α) := fun b => FlushFrame.refl b

theorem throw (f : Failure) : FlushSafe (MonadExcept.throw f : Act α) := fun b => FlushFrame.refl b

theorem bind {x : Act α} {f : α → Act β} (hx : FlushSafe x) (hf : ∀ a, FlushSafe (f a)) : FlushSafe (x >>= f) := by
  intro b
  rw [Components.run_bind]
  rcases h : x.run.run b with ⟨e | a, b'⟩
  · simpa [h] using hx b
  · exact (by simpa [h] using hx b : FlushFrame b b').trans (hf a b')

theorem get_bind {f : Bench → Act α} (hf : ∀ b, FlushFrame b ((f b).run.run b).2) : FlushSafe (get >>= f) :=
  fun b => hf b

theorem tryCatch {x : Act α} {h : Failure → Act α} (hx : FlushSafe x) (hh : ∀ e, FlushSafe (h e)) :
    FlushSafe (tryCatch x h) := by
  intro b
  rw [Components.run_tryCatch]
  rcases hr : x.run.run b with ⟨e | a, b'⟩
  · exact (by simpa [hr] using hx b : FlushFrame b b').trans (hh e b')
  · simpa [hr] using hx b

theorem attempt {a : Act Unit} (h : FlushSafe a) : FlushSafe (Pipeline.attempt a) :=
  tryCatch (bind h fun _ => pure none) fun e => pure (some e)

theorem foldlM {γ : Type} {f : β → γ → Act β} (hf : ∀ acc x, FlushSafe (f acc x)) :
    ∀ (xs : List γ) (init : β), FlushSafe (xs.foldlM f init)
  | [], init => pure init
  | x :: xs, init => by
    rw [List.foldlM_cons]
    exact bind (hf init x) fun acc => foldlM hf xs acc

theorem mapM {γ : Type} {f : γ → Act β} (hf : ∀ x, FlushSafe (f x)) : ∀ xs : List γ, FlushSafe (xs.mapM f)
  | [] => pure []
  | x :: xs => by
    rw [List.mapM_cons]
    exact bind (hf x) fun _ => bind (mapM hf xs) fun _ => pure _

theorem ite {c : Prop} [Decidable c] {x y : Act α} (hx : FlushSafe x) (hy : FlushSafe y) :
    FlushSafe (if c then x else y) := by
  split
  · exact hx
  · exact hy

/-- A step followed by a look at the bench, to name the components that failed in it. --/
theorem bind_get {x : Act α} {g : α → Bench → β} (hx : FlushSafe x) :
    FlushSafe (x >>= fun a => get >>= fun b => Pure.pure (g a b)) :=
  bind hx fun _ => get_bind fun b => FlushFrame.refl b

end FlushSafe

theorem exportRecords_safe (ex : Slot) (rs : List LogRecord) : FlushSafe (exportRecords ex rs) := by
  cases ex with
  | data v => exact FlushSafe.pure ()
  | part c =>
    apply FlushSafe.get_bind
    intro b
    split
    · next fin hm =>
      obtain ⟨p, hp, hrole⟩ := Option.map_eq_some_iff.mp hm
      exact FlushFrame.setRole hp (by rw [hrole]; nofun) nofun
    · exact FlushFrame.refl b

/-- A flush leaves the ledger and which components can be flushed as they were, whether it
succeeds or fails. --/
theorem flush_safe (d : Deadline) (id : PartId) : FlushSafe (flush d id) := by
  -- a component only refers to components built before it, so flush recurses on smaller places
  induction id using Nat.strongRecOn with
  | ind id ih =>
    rw [flush]
    apply FlushSafe.get_bind
    intro b
    cases hp : b.part? id with
    | none => exact FlushFrame.refl b
    | some p =>
      dsimp only
      cases hr : p.role with
      | batch ex stopped q =>
        dsimp only
        split
        · exact FlushFrame.refl b
        · -- the processor stays a batch processor, with its queue handed to its exporter
          rw [Act.run_setRole_bind]
          have hnew : Role.batch ex false [] ≠ .inert := nofun
          exact (FlushFrame.setRole hp (by rw [hr]; nofun) hnew).trans
            (FlushSafe.bind (exportRecords_safe ex q) (fun _ => FlushSafe.pure true) _)
      | periodic ex stopped =>
        cases ex with
        | data v => exact FlushFrame.refl b
        | part e =>
          dsimp only
          split
          · next he => exact FlushSafe.bind (ih e he) (fun _ => FlushSafe.pure true) b
          · exact FlushFrame.refl b
      | limiting c maxCount maxLength =>
        dsimp only
        split
        · next hc => exact ih c hc b
        · exact FlushFrame.refl b
      | tracerProvider ps | loggerProvider ps =>
        dsimp only
        match d with
        | .unusable f => exact FlushFrame.refl b
        | .over => exact FlushFrame.refl b
        | .ahead =>
          refine FlushSafe.foldlM (fun ok x => ?_) ps.attach true b
          split
          · next hx => exact FlushSafe.bind (ih x hx) (fun _ => FlushSafe.pure _)
          · exact FlushSafe.pure _
      | meterProvider rs stopped =>
        dsimp only
        -- the readers are flushed or timed out in turn; only the answer depends on the outcomes
        match d with
        | .unusable f => exact FlushFrame.refl b
        | .over =>
          refine FlushSafe.bind (FlushSafe.mapM (fun x => ?_) rs.attach)
            (fun _ => FlushSafe.ite (FlushSafe.pure true) (FlushSafe.throw _)) b
          exact FlushSafe.bind_get (FlushSafe.pure _)
        | .ahead =>
          refine FlushSafe.bind (FlushSafe.mapM (fun x => ?_) rs.attach)
            (fun _ => FlushSafe.ite (FlushSafe.pure true) (FlushSafe.throw _)) b
          dsimp only
          split
          · next hx => exact FlushSafe.bind_get (FlushSafe.attempt (FlushSafe.bind (ih x hx) fun _ => FlushSafe.pure ()))
          · exact FlushSafe.bind_get (FlushSafe.pure _)
      | scripted s =>
        dsimp only
        cases s.flush with
        | answers ok => exact FlushFrame.refl b
        | raises => exact FlushFrame.refl b
      -- the rest answer at once, or fail, without touching the bench
      | _ => exact FlushFrame.refl b

/-! ### Flushing the providers -/

/-- Whether a flush answered yes without failing. --/
def answeredYes : Except Failure Bool → Bool
  | .ok true => true
  | _ => false

/-- The bench goes from `b` to `b'` through exactly these flushes, in order, each with deadline
`d` and each from the bench the one before left; every call is listed with what it answered. --/
inductive Flushes (d : Deadline) : Bench → List (PartId × Except Failure Bool) → Bench → Prop
  | nil (b : Bench) : Flushes d b [] b
  | cons {b b₁ b' : Bench} {id : PartId} {o : Except Failure Bool} {calls : List (PartId × Except Failure Bool)} :
      (flush d id).run.run b = (o, b₁) → Flushes d b₁ calls b' → Flushes d b ((id, o) :: calls) b'

theorem Flushes.frame {d : Deadline} {b b' : Bench} {calls : List (PartId × Except Failure Bool)}
    (h : Flushes d b calls b') : FlushFrame b b' := by
  induction h with
  | nil b => exact FlushFrame.refl b
  | @cons b b₁ _ id _ _ hrun _ ih =>
    have h₁ : FlushFrame b b₁ := by simpa [hrun] using flush_safe d id b
    exact h₁.trans ih

theorem run_forIn_cons {γ : Type} (x : γ) (xs : List γ) (init : Bool) (f : γ → Bool → StateM Bench (ForInStep Bool))
    (b : Bench) : (forIn (x :: xs) init f).run b = match (f x init).run b with
      | (.done a, b') => (a, b')
      | (.yield a, b') => (forIn xs a f).run b' := by
  rw [List.forIn_cons]
  rcases h : (f x init).run b with ⟨_ | _, _⟩ <;> simp [StateT.run_bind, h] <;> rfl

namespace Runtime

/-- One round of flushing the providers: flush the provider given when it can be flushed, and
note whether it answered yes. --/
def flushRound (d : Deadline) (x : Signal × PartId) (ok : Bool) : StateM Bench (ForInStep Bool) :=
  match x with
  | (_, id) => do
    if flushable (← get) id then
      match ← (flush d id).run with
      | .ok true => pure (.yield ok)
      | _ => pure (.yield false)
    else pure (.yield ok)

theorem forceFlush_eq (r : Runtime) (t : Json) : r.forceFlush t = (do
    if isShutdown (← get) then return false
    let ok ← forIn r.providers true (flushRound (deadlineOf (if t.truthy then t else r.flushTimeout)))
    return ok) := rfl

theorem run_flushRound (d : Deadline) (x : Signal × PartId) (ok : Bool) (b : Bench) :
    (flushRound d x ok).run b = if flushable b x.2 then
      (.yield (ok && answeredYes ((flush d x.2).run.run b).1), ((flush d x.2).run.run b).2) else (.yield ok, b) := by
  rcases x with ⟨_, id⟩
  by_cases hx : flushable b id = true
  · rcases hrun : (flush d id).run.run b with ⟨o, b₁⟩
    -- only a flush that answered yes keeps the answer as it was
    cases o with
    | error f => simp [flushRound, hx, hrun, answeredYes]; rfl
    | ok answer => cases answer <;> simp [flushRound, hx, hrun, answeredYes] <;> rfl
  · simp [flushRound, hx]
    rfl

/-- Flushing the providers in turn flushes exactly those that can be flushed, in order, each once,
and answers yes exactly when every one of them did. --/
theorem forIn_flushRound (d : Deadline) :
    ∀ (ps : List (Signal × PartId)) (ok : Bool) (b : Bench), ∃ calls b',
      (forIn ps ok (flushRound d)).run b = (ok && calls.all (fun c => answeredYes c.2), b') ∧
      calls.map Prod.fst = (ps.map Prod.snd).filter (flushable b) ∧ Flushes d b calls b'
  | [], ok, b => ⟨[], b, by simp; rfl, rfl, Flushes.nil b⟩
  | x :: ps, ok, b => by
    rw [run_forIn_cons, run_flushRound]
    by_cases hx : flushable b x.2 = true
    · rcases hrun : (flush d x.2).run.run b with ⟨o, b₁⟩
      -- the flush leaves what can be flushed as it was, so the rest are chosen alike
      have hframe : FlushFrame b b₁ := by simpa [hrun] using flush_safe d x.2 b
      obtain ⟨calls, b', hloop, hcalls, hflushes⟩ := forIn_flushRound d ps (ok && answeredYes o) b₁
      refine ⟨(x.2, o) :: calls, b', ?_, ?_, Flushes.cons hrun hflushes⟩
      · simp [hx, hloop, Bool.and_assoc]
      · have hsame : flushable b₁ = flushable b := funext hframe.flushable
        simp [hx, hcalls, hsame]
    · obtain ⟨calls, b', hloop, hcalls, hflushes⟩ := forIn_flushRound d ps ok b
      exact ⟨calls, b', by simp [hx, hloop], by simp [hx, hcalls], hflushes⟩

/-- A live runtime flushes each of its providers that can be flushed once, logging first, then
tracing, then metering, with the timeout given or else its default, and answers whether every one
answered yes. Its ledger stays as it was. --/
theorem forceFlush_live (r : Runtime) (t : Json) {b : Bench} (h : isShutdown b = false) :
    ∃ calls b', (r.forceFlush t).run b = (calls.all (fun c => answeredYes c.2), b') ∧
      calls.map Prod.fst = [r.logging, r.tracing, r.metering].filter (flushable b) ∧
      Flushes (deadlineOf (if t.truthy then t else r.flushTimeout)) b calls b' ∧ b'.ledger = b.ledger := by
  obtain ⟨calls, b', hloop, hcalls, hflushes⟩ :=
    forIn_flushRound (deadlineOf (if t.truthy then t else r.flushTimeout)) r.providers true b
  refine ⟨calls, b', ?_, hcalls, hflushes, hflushes.frame.ledger⟩
  rw [forceFlush_eq]
  simp [h, hloop]

/-! ### Shutting down -/

theorem releaseAll_run_ledger {σ : Type} (run : PartId → StateM σ (Option Failure)) (l : Ledger PartId PartId)
    (w : σ) : ((l.releaseAll run).run w).1.1 = l.close.1 := by
  unfold Ledger.releaseAll
  rcases hc : l.close with ⟨l', _ | es⟩
  · rfl
  · simp only [StateT.run_bind]
    rfl

/-- Releasing the ledger leaves the runtime shut down, whatever it was before. --/
theorem isShutdown_releaseLedger (b : Bench) : isShutdown (releaseLedger.run b).2 = true := by
  rw [run_releaseLedger]
  exact (releaseAll_run_ledger shutdownAction b.ledger b).symm ▸ Ledger.close_closed b.ledger

/-- A live runtime shuts down by releasing its ledger. --/
theorem shutdown_live {b : Bench} (h : isShutdown b = false) : shutdown.run b = releaseLedger.run b := by
  simp [shutdown, h, StateT.run_bind]

/-! ### Sequences of calls -/

/-- What a caller does with a runtime's lifecycle: shut it down, flush it, or leave it as a
context, which shuts it down. --/
inductive Call where
  | shutdown
  | forceFlush (timeout : Json)
  | exit

namespace Call

/-- The request a call makes. --/
def request : Call → Request
  | shutdown => .shutdown
  | forceFlush t => .forceFlush t
  | exit => .context

/-- Whether the call shuts the runtime down. --/
def stops : Call → Bool
  | forceFlush _ => false
  | _ => true

/-- What a call answers on a runtime that is shut down, given what releasing its ledger reported:
a shutdown answers that report, a flush answers no, and leaving the context that the runtime is
shut down. --/
def shutAnswer (e : Option ReleaseError) : Call → Response
  | shutdown => .released e true
  | forceFlush _ => .flushed false
  | exit => .entered true true

end Call

theorem run_mapM_cons {γ δ : Type} (f : γ → StateM Bench δ) (x : γ) (xs : List γ) (b : Bench) :
    ((x :: xs).mapM f).run b =
      (((f x).run b).1 :: ((xs.mapM f).run ((f x).run b).2).1, ((xs.mapM f).run ((f x).run b).2).2) := by
  simp only [List.mapM_cons, StateT.run_bind, StateT.run_pure]
  rfl

theorem run_mapM_append {γ δ : Type} (f : γ → StateM Bench δ) (xs ys : List γ) (b : Bench) :
    ((xs ++ ys).mapM f).run b =
      (((xs.mapM f).run b).1 ++ ((ys.mapM f).run ((xs.mapM f).run b).2).1, ((ys.mapM f).run ((xs.mapM f).run b).2).2) := by
  simp only [List.mapM_append, StateT.run_bind, StateT.run_pure]
  rfl

theorem run_shutdown (r : Runtime) (b : Bench) :
    (r.run .shutdown).run b = (.released (shutdown.run b).1 (isShutdown (shutdown.run b).2), (shutdown.run b).2) :=
  rfl

theorem run_forceFlush (r : Runtime) (t : Json) (b : Bench) :
    (r.run (.forceFlush t)).run b = (.flushed ((r.forceFlush t).run b).1, ((r.forceFlush t).run b).2) :=
  rfl

theorem run_context (r : Runtime) (b : Bench) :
    (r.run .context).run b = (.entered true (isShutdown (shutdown.run b).2), (shutdown.run b).2) :=
  rfl

/-- On a runtime that is shut down, every call answers as shut down and changes nothing. --/
theorem run_shut (r : Runtime) {b : Bench} (h : isShutdown b = true) (q : Call) :
    (r.run q.request).run b = (q.shutAnswer none, b) := by
  cases q with
  | shutdown => rw [Call.request, run_shutdown, shutdown_twice b h, h]; rfl
  | forceFlush t => rw [Call.request, run_forceFlush, forceFlush_closed r t b h]; rfl
  | exit => rw [Call.request, run_context, shutdown_twice b h, h]; rfl

/-- On a live runtime, a call that shuts it down releases its ledger, answers what releasing
reported, and leaves it shut down. --/
theorem run_stop (r : Runtime) {b : Bench} (h : isShutdown b = false) {q : Call} (hq : q.stops = true) :
    (r.run q.request).run b = (q.shutAnswer (releaseLedger.run b).1, (releaseLedger.run b).2) := by
  cases q with
  | shutdown => rw [Call.request, run_shutdown, shutdown_live h, isShutdown_releaseLedger]; rfl
  | forceFlush t => cases hq
  | exit => rw [Call.request, run_context, shutdown_live h, isShutdown_releaseLedger]; rfl

/-- A flush leaves the ledger as it was, on a live runtime or on one shut down. --/
theorem run_forceFlush_ledger (r : Runtime) (t : Json) (b : Bench) :
    ((r.run (.forceFlush t)).run b).2.ledger = b.ledger := by
  rw [run_forceFlush]
  cases h : isShutdown b with
  | true => rw [forceFlush_closed r t b h]
  | false =>
    obtain ⟨calls, b', hrun, -, -, hledger⟩ := forceFlush_live r t h
    rw [hrun]
    exact hledger

theorem runAll_shut (r : Runtime) {b : Bench} (h : isShutdown b = true) :
    ∀ qs : List Call, ((qs.map Call.request).mapM r.run).run b = (qs.map (Call.shutAnswer none), b)
  | [] => rfl
  | q :: qs => by
    rw [List.map_cons, run_mapM_cons, run_shut r h q, runAll_shut r h qs]
    rfl

theorem runAll_flushes_ledger (r : Runtime) :
    ∀ (qs : List Call), (∀ q ∈ qs, q.stops = false) → ∀ b : Bench,
      (((qs.map Call.request).mapM r.run).run b).2.ledger = b.ledger
  | [], _, _ => rfl
  | q :: qs, hq, b => by
    cases q with
    | forceFlush t =>
      rw [List.map_cons, run_mapM_cons]
      exact (runAll_flushes_ledger r qs (fun q hq' => hq q (List.mem_cons_of_mem _ hq')) _).trans
        (run_forceFlush_ledger r t b)
    | shutdown => cases hq .shutdown List.mem_cons_self
    | exit => cases hq .exit List.mem_cons_self

/-- The lifecycle of a runtime over any sequence of shutdowns, flushes and exits from its context.
A flush on a live runtime flushes each provider that can be flushed once, in order, with the
timeout given or else the default, and answers whether all of them answered yes. Calls before the
first shutdown or exit leave the ledger as it was; that first one releases it and answers what
releasing reported; every call after it answers as on a runtime shut down and changes nothing. --/
structure LifecycleLaws (r : Runtime) : Prop where
  flush : ∀ (t : Json) (b : Bench), isShutdown b = false → ∃ calls b',
    (r.run (.forceFlush t)).run b = (.flushed (calls.all fun c => answeredYes c.2), b') ∧
    calls.map Prod.fst = [r.logging, r.tracing, r.metering].filter (flushable b) ∧
    Flushes (deadlineOf (if t.truthy then t else r.flushTimeout)) b calls b' ∧ b'.ledger = b.ledger
  shut : ∀ (b : Bench) (qs : List Call), isShutdown b = true →
    ((qs.map Call.request).mapM r.run).run b = (qs.map (Call.shutAnswer none), b)
  sequence : ∀ (b : Bench) (pre : List Call), isShutdown b = false → (∀ q ∈ pre, q.stops = false) →
    ∃ os b₁, ((pre.map Call.request).mapM r.run).run b = (os, b₁) ∧ b₁.ledger = b.ledger ∧
      ∀ (q : Call) (post : List Call), q.stops = true →
        isShutdown (releaseLedger.run b₁).2 = true ∧
        (((pre ++ q :: post).map Call.request).mapM r.run).run b =
          (os ++ q.shutAnswer (releaseLedger.run b₁).1 :: post.map (Call.shutAnswer none),
            (releaseLedger.run b₁).2)

theorem lifecycle_laws (r : Runtime) : LifecycleLaws r where
  flush t b h := by
    obtain ⟨calls, b', hrun, hcalls, hflushes, hledger⟩ := forceFlush_live r t h
    exact ⟨calls, b', by rw [run_forceFlush, hrun], hcalls, hflushes, hledger⟩
  shut b qs h := runAll_shut r h qs
  sequence b pre h hpre := by
    have hledger := runAll_flushes_ledger r pre hpre b
    rcases hrun : ((pre.map Call.request).mapM r.run).run b with ⟨os, b₁⟩
    rw [hrun] at hledger
    refine ⟨os, b₁, rfl, hledger, fun q post hq => ⟨isShutdown_releaseLedger b₁, ?_⟩⟩
    -- the calls before the first stop leave the runtime live, so that stop releases the ledger
    have hlive : isShutdown b₁ = false := by
      rw [isShutdown, hledger]
      exact h
    rw [List.map_append, run_mapM_append, hrun, List.map_cons, run_mapM_cons, run_stop r hlive hq,
      runAll_shut r (isShutdown_releaseLedger b₁)]

end Runtime

end Assembly

end Telemetry
