import Telemetry.Proofs.AssemblyRecords

/-!
What a call of `create` leaves behind, by how far it got.

A document that is not read, or whose file format is not accepted, stops the call before anything
is built, with a configuration error that carries no teardown error. A document that disables
telemetry gets the three providers that do nothing, and nothing is recorded. Otherwise the
stages run; when one fails, the bench it failed on holds on its open ledger every component with a
shutdown built so far (`assemble_kept`), and one release of that ledger, which walks the records
by the ownership law, gives the final bench and the teardown error the reported error carries.
A call that answers a runtime leaves its ledger open.
-/

namespace Telemetry

/-- The teardown error a configuration error carries; other errors carry none. --/
def Fault.releaseError : Fault → Option ReleaseError
  | .unsupportedVersion _ r | .unknownProvider _ _ _ r | .invalidCombination _ _ r | .documentParse _ _ r => r
  | _ => none

namespace Assembly

open Pipeline Components Model

/-- The input is refused before assembling: it is not read as a document, or its file format is
not accepted. --/
def Refused (input : Json) (e : Fault) : Prop :=
  Document.parse input = .error e ∨
    ∃ doc, Document.parse input = .ok doc ∧ checkFileFormat doc.fileFormat = .error e

/-- The input reads as the document `doc`, of an accepted file format. --/
def Accepted (input : Json) (doc : Document) : Prop :=
  Document.parse input = .ok doc ∧ ∃ f, checkFileFormat doc.fileFormat = .ok f

/-- The provider of a signal that does nothing, as it stands on the bench. --/
def Signal.noopInstance (s : Signal) : Instance := ⟨s.noopClass, newView s.noopClass [] [], .inert⟩

theorem parse_error {v : Json} {e : Fault} (h : Document.parse v = .error e) :
    e.isConfiguration = true ∧ e.releaseError = none := by
  unfold Document.parse at h
  split at h
  · split at h
    · cases h
    · cases h
      exact ⟨rfl, rfl⟩
  · cases h
    exact ⟨rfl, rfl⟩

theorem checkFileFormat_error {v : Json} {e : Fault} (h : checkFileFormat v = .error e) :
    e.isConfiguration = true ∧ e.releaseError = none := by
  unfold checkFileFormat at h
  split at h
  · split at h
    · cases h
    · cases h
      exact ⟨rfl, rfl⟩
  · cases h
    exact ⟨rfl, rfl⟩

theorem Refused.error {input : Json} {e : Fault} (h : Refused input e) :
    e.isConfiguration = true ∧ e.releaseError = none := by
  rcases h with hp | ⟨_, _, hf⟩
  · exact parse_error hp
  · exact checkFileFormat_error hf

/-- Every input is refused before assembling or read as a document of an accepted file format. --/
theorem refused_or_accepted (input : Json) : (∃ e, Refused input e) ∨ ∃ doc, Accepted input doc := by
  cases hp : Document.parse input with
  | error e => exact .inl ⟨e, .inl hp⟩
  | ok doc =>
    cases hf : checkFileFormat doc.fileFormat with
    | error e => exact .inl ⟨e, .inr ⟨doc, hp, hf⟩⟩
    | ok f => exact .inr ⟨doc, hp, f, hf⟩

/-! ### The three ways past the document -/

section Create

variable {ctx : Context} {options : AssemblyOptions} {input : Json}

theorem run_create_refused (valid : options.validate = .ok ()) {e : Fault} (h : Refused input e) (b : Bench) :
    (create ctx options input).run b = (.error e, b) := by
  rcases h with hp | ⟨doc, hp, hf⟩
  · simp [create, valid, hp, pure, Bench.statePure_apply, StateT.run]
  · simp [create, valid, hp, hf, pure, Bench.statePure_apply, StateT.run]

theorem run_create_disabled (valid : options.validate = .ok ()) {doc : Document} (h : Accepted input doc)
    (hd : doc.disabled = some true) (b : Bench) :
    (create ctx options input).run b =
      (.ok ((inertRuntime options.flushTimeoutMillis).run b).1, ((inertRuntime options.flushTimeoutMillis).run b).2) := by
  obtain ⟨hp, f, hf⟩ := h
  simp [create, valid, hp, hf, hd, pure, StateT.run]
  rfl

theorem run_create_assemble (valid : options.validate = .ok ()) {doc : Document} (h : Accepted input doc)
    (hd : doc.disabled ≠ some true) (b : Bench) :
    (create ctx options input).run b =
      match (assemble ctx doc options.flushTimeoutMillis).run.run b with
      | (.ok rt, b') => (.ok rt, b')
      | (.error x, b') => (.error ((abort x).run b').1, ((abort x).run b').2) := by
  obtain ⟨hp, f, hf⟩ := h
  simp only [create, valid, hp, hf]
  rw [if_neg (by simpa using hd), StateT.run_bind]
  rcases hr : (assemble ctx doc options.flushTimeoutMillis).run.run b with ⟨x | rt, b'⟩ <;> rfl

end Create

/-- A disabled document only puts the three providers that do nothing on the bench. --/
theorem run_inertRuntime (t : Json) (b : Bench) :
    ((inertRuntime t).run b).2 =
      { b with parts := b.parts ++ [Signal.logging, .tracing, .metering].map Signal.noopInstance } := by
  -- each provider is put after the ones before it
  have h : ((inertRuntime t).run b).2 = { b with parts :=
      ((b.parts ++ [Signal.logging.noopInstance]) ++ [Signal.tracing.noopInstance]) ++ [Signal.metering.noopInstance] } :=
    rfl
  rw [h]
  simp

/-! ### Tearing a failed assembly down -/

theorem run_releaseLedger (b : Bench) :
    releaseLedger.run b = (((b.ledger.releaseAll shutdownAction).run b).1.2,
      { ((b.ledger.releaseAll shutdownAction).run b).2 with ledger := ((b.ledger.releaseAll shutdownAction).run b).1.1 }) :=
  rfl

section Fresh

variable {ctx : Context} {options : AssemblyOptions} {input : Json}

theorem create_disabled (valid : options.validate = .ok ()) {doc : Document} (h : Accepted input doc)
    (hd : doc.disabled = some true) :
    (∃ rt, ((create ctx options input).run Bench.start).1 = .ok rt) ∧
      ((create ctx options input).run Bench.start).2.ledger = Ledger.empty ∧
      ((create ctx options input).run Bench.start).2.parts =
        [Signal.logging, .tracing, .metering].map Signal.noopInstance := by
  rw [run_create_disabled valid h hd, run_inertRuntime]
  exact ⟨⟨_, rfl⟩, rfl, rfl⟩

end Fresh

end Assembly

end Telemetry
