import Telemetry.Fault
import Telemetry.Json.Equal

/-!
The registry of component factories. A factory is registered under an extension point and a
name, at most once per pair, and the registry remembers the order of registration, which is the
order in which it lists names. A name is any value that can be a key: not a list or a mapping;
names are compared as keys, so `1` and `1.0` are one name, and not a number is one name with
itself. Resolving a pair that nothing is registered under names what is available instead.

Packages may advertise factories for each extension point. Loading them walks the extension
points in discovery order and each one's advertisements in order: one that does not load is
passed over, one whose factory is already registered under its name is passed over, and one
that would replace a different factory is a conflict, which stops the walk and keeps what was
registered before it.
-/

namespace Telemetry

/-- A factory registered under an extension point and a name. --/
structure Registration (F : Type) where
  cap : Capability
  name : Json
  factory : F

/-- Factories by extension point and name, in registration order. --/
structure Registry (F : Type) where
  entries : List (Registration F)

/-- A factory a package advertises: its name, the target it points at, and the factory it loads
to, if it loads. --/
structure Advertised (F : Type) where
  name : String
  target : String
  loaded : Option F

namespace Registry

variable {F : Type}

/-- The registry that holds nothing. --/
def empty : Registry F := ⟨[]⟩

/-- Remove every registration. --/
def clear (_ : Registry F) : Registry F := empty

/-- Whether a registration is the one for an extension point and a name. --/
def Registration.isFor (cap : Capability) (name : Json) (e : Registration F) : Bool :=
  e.cap == cap && Json.sameKey e.name name

/-- A name as a key: a list or a mapping cannot be one. --/
def checkKey (name : Json) : Except Fault Unit :=
  match name with
  | .arr _ => .error (.failure ⟨.typeError, "unhashable type: 'list'"⟩)
  | .obj _ => .error (.failure ⟨.typeError, "unhashable type: 'dict'"⟩)
  | _ => .ok ()

/-- The factory registered under an extension point and a name. --/
def find? (r : Registry F) (cap : Capability) (name : Json) : Option F :=
  (r.entries.find? (Registration.isFor cap name)).map (·.factory)

/-- Whether anything is registered under an extension point and a name. --/
def isRegistered (r : Registry F) (cap : Capability) (name : Json) : Except Fault Bool := do
  checkKey name
  pure (r.find? cap name).isSome

/-- The names registered under an extension point, in registration order. --/
def names (r : Registry F) (cap : Capability) : List Json :=
  (r.entries.filter (·.cap == cap)).map (·.name)

/-- Add a registration at the end. --/
def push (r : Registry F) (cap : Capability) (name : Json) (f : F) : Registry F :=
  ⟨r.entries ++ [⟨cap, name, f⟩]⟩

/-- Register a factory; a pair that is taken is refused, naming the factory that holds it. --/
def register (r : Registry F) (display : F → String) (cap : Capability) (name : Json) (f : F) :
    Except Fault (Registry F) := do
  checkKey name
  match r.find? cap name with
  | some g =>
    throw (.registration ("A " ++ cap.value ++ " provider named '" ++ Json.display name ++
      "' is already registered (" ++ display g ++ ")"))
  | none => pure (r.push cap name f)

/-- Remove what is registered under an extension point and a name, if anything. --/
def unregister (r : Registry F) (cap : Capability) (name : Json) : Except Fault (Registry F) := do
  checkKey name
  pure ⟨r.entries.filter (fun e => !Registration.isFor cap name e)⟩

/-- The factory to call for a component, or the error naming what is available. --/
def lookup (r : Registry F) (cap : Capability) (name : Json) : Except Fault F := do
  checkKey name
  match r.find? cap name with
  | some f => pure f
  | none => throw (.unknownProvider cap name (r.names cap) none)

/-! ### Advertised factories -/

/-- The error of two packages claiming one name. --/
def conflict (cap : Capability) (name existing target : String) : Fault :=
  .registration ("Conflict: " ++ cap.value ++ " provider '" ++ name ++
    "' registered by multiple packages:\n  - " ++ existing ++ "\n  - " ++ target)

/-- Register the advertised factories of one extension point, counting the new ones; a conflict
stops, keeping what was registered before it. `home` names where a factory comes from. --/
def loadGroup [BEq F] (home : F → String) (cap : Capability) :
    Registry F → Nat → List (Advertised F) → Registry F × Except Fault Nat
  | r, n, [] => (r, .ok n)
  | r, n, a :: rest =>
    match a.loaded with
    | none => loadGroup home cap r n rest
    | some f =>
      match r.find? cap (.str a.name) with
      | some g =>
        if g == f then loadGroup home cap r n rest
        else (r, .error (conflict cap a.name (home g) a.target))
      | none => loadGroup home cap (r.push cap (.str a.name) f) (n + 1) rest

/-- Register the advertised factories of the given extension points in order. --/
def loadGroups [BEq F] (home : F → String) (advertised : Capability → List (Advertised F)) :
    Registry F → Nat → List Capability → Registry F × Except Fault Nat
  | r, n, [] => (r, .ok n)
  | r, n, cap :: caps =>
    match loadGroup home cap r n (advertised cap) with
    | (r', .ok n') => loadGroups home advertised r' n' caps
    | (r', .error e) => (r', .error e)

/-- Register every advertised factory, extension point by extension point in discovery order;
the count is of the factories newly registered. --/
def loadAdvertised [BEq F] (home : F → String) (advertised : Capability → List (Advertised F))
    (r : Registry F) : Registry F × Except Fault Nat :=
  loadGroups home advertised r 0 Capability.all

/-! ### Laws -/

theorem find?_push_self (r : Registry F) (cap : Capability) (name : Json) (f : F)
    (hs : Json.sameKey name name = true) (h : r.find? cap name = none) :
    (r.push cap name f).find? cap name = some f := by
  unfold find? at h
  simp only [Option.map_eq_none_iff] at h
  simp [find?, push, List.find?_append, h, Registration.isFor, hs]

theorem find?_register (r r' : Registry F) (display : F → String) (cap : Capability) (name : String)
    (f : F) (h : r.register display cap (.str name) f = .ok r') : r'.find? cap (.str name) = some f := by
  unfold register at h
  simp only [checkKey, bind, Except.bind, pure, Except.pure] at h
  split at h
  · cases h
  · next hn =>
    cases h
    exact find?_push_self r cap (.str name) f (Json.sameKey_self_text name) hn

theorem names_unregister (r r' : Registry F) (cap : Capability) (name : Json)
    (h : r.unregister cap name = .ok r') :
    r'.names cap = (r.names cap).filter (fun n => !Json.sameKey n name) := by
  unfold unregister at h
  cases hk : checkKey name with
  | error e => simp [hk, bind, Except.bind] at h
  | ok u =>
    simp only [hk, bind, Except.bind, pure, Except.pure, Except.ok.injEq] at h
    subst h
    simp only [names]
    induction r.entries with
    | nil => rfl
    | cons e es ih =>
      by_cases hc : e.cap = cap <;> by_cases hn : Json.sameKey e.name name = true <;>
        simp_all [Registration.isFor]

end Registry

end Telemetry
