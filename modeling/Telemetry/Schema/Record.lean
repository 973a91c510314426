import Telemetry.Schema.Scalar

/-!
Reading a section of a document as a record of named fields. A field is looked up under its keys,
its alias first when it has one, and the key that was found is where its problems are reported.
A missing field takes its default, or is reported missing when it has none. A closed section also
reports every key that none of its fields used, in the order the keys were written, after the
problems of the fields. A rule that ties fields together runs only once every field was read,
and its problem belongs to the section itself.
-/

namespace Telemetry.Schema

open Checked

variable {V : Type}

/-- The first of a field's keys that the members hold, with its value. --/
def lookup (ms : List (String × V)) : List String → Option (String × V)
  | [] => none
  | k :: ks =>
    match ms.find? (fun m => m.1 == k) with
    | some m => some m
    | none => lookup ms ks

/-- Read a field that has a default. --/
def optionalField {α : Type} (ms : List (String × V)) (keys : List String) (r : V → Checked α)
    (dflt : α) : Checked α :=
  match lookup ms keys with
  | some (k, v) => (r v).under (.key k)
  | none => ok dflt

/-- Read a field that must be present; a missing one is reported under its first key. --/
def requiredField {α : Type} (ms : List (String × V)) (keys : List String) (r : V → Checked α) :
    Checked α :=
  match lookup ms keys with
  | some (k, v) => (r v).under (.key k)
  | none => .failed [⟨keys.take 1 |>.map Step.key, .missing⟩]

/-- The keys of the members that no field used, in the order they were written. --/
def unusedKeys (ms : List (String × V)) (fields : List (List String)) : List String :=
  let used := fields.filterMap (fun keys => (lookup ms keys).map (·.1))
  (ms.map (·.1)).filter (fun k => !used.contains k)

/-- Report the keys no field used, after what the fields reported. --/
def closed {α : Type} (ms : List (String × V)) (fields : List (List String)) (c : Checked α) : Checked α :=
  c.alsoFailing ((unusedKeys ms fields).map (fun k => ⟨[.key k], .extraForbidden⟩))

/-- Check a rule over a record once all of its fields were read. --/
def Checked.ensure {α : Type} (c : Checked α) (rule : α → Option String) : Checked α :=
  match c with
  | .ok a =>
    match rule a with
    | some msg => fail (.valueError msg)
    | none => ok a
  | .failed is => .failed is

/-- A section read from a document value: anything but a mapping is a problem of the section. --/
def readSection {α : Type} (r : Members → Checked α) : Json → Checked α
  | .obj ms => r ms
  | _ => fail .modelType

theorem lookup_single {ms : List (String × V)} {k : String} {m : String × V}
    (h : lookup ms [k] = some m) : ms.find? (·.1 == k) = some m := by
  unfold lookup at h
  split at h
  · next hf => cases h; exact hf
  · cases h

theorem unusedKeys_nil (fields : List (List String)) : unusedKeys ([] : List (String × V)) fields = [] := by
  simp [unusedKeys]

end Telemetry.Schema
