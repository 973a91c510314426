import Telemetry.Proofs.Factories

/-!
# The registry as an ordered table

A registry is a table from an extension point and a name to a factory. Registering a pair that is
taken is refused and changes nothing; registering a free pair adds it last; unregistering removes
the pair, whether or not it was there; clearing empties the table. So no pair is ever held twice
(`Distinct`), and the names listed for an extension point are those registered and not removed
since, in the order of their last registration.

Resolving reads the table and never changes it. A pair that is not held calls no factory and
reports what the extension point offers; a held pair calls its factory once, with the mapping the
configuration stands for, hands back what it answers, passes a configuration error on unchanged,
and reports any other error as an invalid configuration of the named component.

Names are texts, as the registry's callers write them.
-/

namespace Telemetry.Registry

variable {F : Type}

/-! ### Names as keys -/

theorem sameKey_str (a b : String) : Json.sameKey (.str a) (.str b) = (a == b) := by
  simp [Json.sameKey, Json.sameValue, Json.isNotANumber]

theorem eq_of_sameKey_str {v : Json} {b : String} (h : Json.sameKey v (.str b) = true) : v = .str b := by
  cases v <;> simp_all [Json.sameKey, Json.sameValue, Json.isNotANumber]

theorem isFor_str_iff {cap : Capability} {n : String} {e : Registration F} :
    Registration.isFor cap (.str n) e = true ↔ e.cap = cap ∧ e.name = .str n := by
  constructor
  · intro h
    simp only [Registration.isFor, Bool.and_eq_true, beq_iff_eq] at h
    exact ⟨h.1, eq_of_sameKey_str h.2⟩
  · rintro ⟨hc, hn⟩
    simp [Registration.isFor, hc, hn, sameKey_str]

/-! ### One lemma per call -/

/-- What a registration that went through did: the pair was free, and it went last. --/
theorem register_eq_ok {r r' : Registry F} {display : F → String} {cap : Capability} {name : Json} {f : F}
    (h : r.register display cap name f = .ok r') : r.find? cap name = none ∧ r' = r.push cap name f := by
  unfold register at h
  cases hk : checkKey name with
  | error e => simp [hk, bind, Except.bind] at h
  | ok u =>
    simp only [hk, bind, Except.bind] at h
    split at h
    · cases h
    · next hn =>
      cases h
      exact ⟨hn, rfl⟩

theorem register_free (r : Registry F) (display : F → String) (cap : Capability) (n : String) (f : F)
    (h : r.find? cap (.str n) = none) : r.register display cap (.str n) f = .ok (r.push cap (.str n) f) := by
  simp [register, checkKey, h, bind, Except.bind, pure, Except.pure]

theorem register_taken (r : Registry F) (display : F → String) (cap : Capability) (n : String) (f g : F)
    (h : r.find? cap (.str n) = some g) :
    r.register display cap (.str n) f = .error (.registration ("A " ++ cap.value ++ " provider named '" ++ n ++
      "' is already registered (" ++ display g ++ ")")) := by
  simp [register, checkKey, h, bind, Except.bind, throw, throwThe, MonadExceptOf.throw, Json.display]

theorem unregister_str (r : Registry F) (cap : Capability) (n : String) :
    r.unregister cap (.str n) = .ok ⟨r.entries.filter fun e => !Registration.isFor cap (.str n) e⟩ := rfl

/-! ### Lookups after each call -/

theorem find?_push (r : Registry F) (cap cap' : Capability) (n n' : String) (f : F)
    (h : r.find? cap (.str n) = none) :
    (r.push cap (.str n) f).find? cap' (.str n') = if cap = cap' ∧ n = n' then some f else r.find? cap' (.str n') := by
  split
  · next hk =>
    obtain ⟨rfl, rfl⟩ := hk
    exact find?_push_self r cap (.str n) f (Json.sameKey_self_text n) h
  · next hk =>
    -- the new registration is not for the pair looked up, so only the old ones can be
    have hnew : Registration.isFor cap' (.str n') (⟨cap, .str n, f⟩ : Registration F) = false := by
      rw [Bool.eq_false_iff]
      intro hi
      obtain ⟨hc, hn⟩ := isFor_str_iff.mp hi
      exact hk ⟨hc, by simpa using hn⟩
    simp [find?, push, List.find?_append, hnew]

theorem find?_unregister (r : Registry F) (cap cap' : Capability) (n n' : String) :
    (⟨r.entries.filter fun e => !Registration.isFor cap (.str n) e⟩ : Registry F).find? cap' (.str n') =
      if cap = cap' ∧ n = n' then none else r.find? cap' (.str n') := by
  unfold find?
  rw [List.find?_filter]
  split
  · next hk =>
    obtain ⟨rfl, rfl⟩ := hk
    simp
  · next hk =>
    -- whatever is for the pair looked up is not for the pair removed
    congr 1
    congr 1
    funext e
    by_cases he : Registration.isFor cap' (.str n') e = true
    · obtain ⟨hc, hn⟩ := isFor_str_iff.mp he
      have hold : Registration.isFor cap (.str n) e = false := by
        rw [Bool.eq_false_iff]
        intro ho
        obtain ⟨hc', hn'⟩ := isFor_str_iff.mp ho
        exact hk ⟨hc' ▸ hc, by rw [hn'] at hn; simpa using hn⟩
      simp [he, hold]
    · simp [he]

theorem names_push (r : Registry F) (cap cap' : Capability) (name : Json) (f : F) :
    (r.push cap name f).names cap' = if cap = cap' then r.names cap' ++ [name] else r.names cap' := by
  split
  · next hc =>
    subst hc
    simp [names, push]
  · next hc =>
    simp [names, push, hc]

theorem unregister_eq_ok {r r' : Registry F} {cap : Capability} {name : Json} (h : r.unregister cap name = .ok r') :
    r' = ⟨r.entries.filter fun e => !Registration.isFor cap name e⟩ := by
  unfold unregister at h
  cases hk : checkKey name with
  | error e => simp [hk, bind, Except.bind] at h
  | ok u =>
    simp only [hk, bind, Except.bind, pure, Except.pure, Except.ok.injEq] at h
    exact h.symm

theorem names_unregister_other (r : Registry F) {cap cap' : Capability} (name : Json) (hc : cap ≠ cap') :
    (⟨r.entries.filter fun e => !Registration.isFor cap name e⟩ : Registry F).names cap' = r.names cap' := by
  unfold names
  rw [List.filter_filter]
  congr 1
  congr 1
  funext e
  by_cases he : e.cap = cap'
  · simp [he, Registration.isFor, Ne.symm hc]
  · simp [he]

/-! ### Every reached registry holds each pair once -/

/-- No two registrations are for one extension point and name. --/
def Distinct (r : Registry F) : Prop :=
  r.entries.Pairwise fun a b => ¬ (a.cap = b.cap ∧ Json.sameKey a.name b.name = true)

theorem Distinct.empty : Distinct (empty : Registry F) := List.Pairwise.nil

theorem Distinct.push {r : Registry F} {cap : Capability} {name : Json} {f : F} (hd : Distinct r)
    (h : r.find? cap name = none) : Distinct (r.push cap name f) := by
  have hfree : ∀ a ∈ r.entries, Registration.isFor cap name a = false := by
    unfold find? at h
    simpa [List.find?_eq_none] using h
  unfold Distinct Registry.push
  rw [List.pairwise_append]
  refine ⟨hd, List.pairwise_singleton _ _, fun a ha b hb => ?_⟩
  rw [List.mem_singleton] at hb
  subst hb
  simpa [Registration.isFor] using hfree a ha

theorem Distinct.filter {r : Registry F} (hd : Distinct r) (p : Registration F → Bool) :
    Distinct ⟨r.entries.filter p⟩ :=
  List.Pairwise.filter p hd

/-- The registries that calls on one registry reach from `start`: registering, unregistering and
clearing, where a call that fails leaves the registry as it was. Looking up, listing and resolving
only read a registry. --/
inductive Reached (display : F → String) (start : Registry F) : Registry F → Prop
  | start : Reached display start start
  | register {r r' : Registry F} {cap : Capability} {name : Json} {f : F} :
      Reached display start r → r.register display cap name f = .ok r' → Reached display start r'
  | unregister {r r' : Registry F} {cap : Capability} {name : Json} :
      Reached display start r → r.unregister cap name = .ok r' → Reached display start r'
  | clear {r : Registry F} : Reached display start r → Reached display start r.clear

theorem Reached.distinct {display : F → String} {start r : Registry F} (hs : Distinct start)
    (h : Reached display start r) : Distinct r := by
  induction h with
  | start => exact hs
  | register _ hr ih =>
    obtain ⟨hn, rfl⟩ := register_eq_ok hr
    exact ih.push hn
  | unregister _ hr ih =>
    rw [unregister_eq_ok hr]
    exact ih.filter _
  | clear _ _ => exact Distinct.empty

end Telemetry.Registry

namespace Telemetry.Components

open Pipeline

/-! ### Resolving through a registry -/

/-- How resolving runs: the lookup first, then the build with the factory found, whose errors other
than configuration errors are reported as an invalid configuration of the component. --/
theorem run_resolveWith (reg : Registry Factory) (cap : Capability) (name : Json) (build : Factory → Build Slot)
    (b : Bench) : (resolveWith reg cap name build).run.run b =
      match reg.lookup cap name with
      | .error e => (.error e, b)
      | .ok f =>
        match (build f).run.run b with
        | (.ok s, b') => (.ok s, b')
        | (.error e, b') => (.error (if e.isConfiguration then e else
            Fault.wrap ("Invalid configuration for " ++ cap.value ++ " '" ++ Json.display name ++ "': ") e), b') := by
  unfold resolveWith
  rw [run_bind]
  cases reg.lookup cap name with
  | error e => rfl
  | ok f =>
    dsimp only
    show (tryCatch (build f) _).run.run b = _
    rw [run_tryCatch]
    cases hres : (build f).run.run b with
    | mk res b' =>
      cases res with
      | ok s => rfl
      | error e =>
        dsimp only
        cases e.isConfiguration <;> rfl

theorem lookup_str (reg : Registry Factory) (cap : Capability) (n : String) :
    reg.lookup cap (.str n) = match reg.find? cap (.str n) with
      | some f => .ok f
      | none => .error (.unknownProvider cap (.str n) (reg.names cap) none) := by
  simp only [Registry.lookup, Registry.checkKey, bind, Except.bind]
  cases reg.find? cap (.str n) <;> rfl

/-- Resolving a pair that is not held calls no factory: the bench is left as it was, and the error
names the extension point, the name, and what the extension point holds. --/
theorem run_resolveValue_unknown (files : FileSystem) (reg : Registry Factory) (cap : Capability) (n : String)
    (config : Json) (h : reg.find? cap (.str n) = none) (b : Bench) :
    (resolveValue files reg cap (.str n) config).run.run b =
      (.error (.unknownProvider cap (.str n) (reg.names cap) none), b) := by
  unfold resolveValue
  rw [run_resolveWith, lookup_str, h]

/-- Resolving a held pair calls its factory once, with the mapping the configuration stands for,
and answers what the factory answers; a configuration error is passed on unchanged, and any other
error is reported as an invalid configuration of the component. --/
theorem run_resolveValue_held (files : FileSystem) (reg : Registry Factory) (cap : Capability) (n : String)
    (config : Json) {f : Factory} {es : Json.Entries} (hf : reg.find? cap (.str n) = some f)
    (hm : Json.mappingOf config = .ok es) (b : Bench) :
    (resolveValue files reg cap (.str n) config).run.run b =
      match (f.make files cap (Config.ofEntries es)).run.run b with
      | (.ok s, b') => (.ok s, b')
      | (.error e, b') => (.error (if e.isConfiguration then e else
          Fault.wrap ("Invalid configuration for " ++ cap.value ++ " '" ++ n ++ "': ") e), b') := by
  unfold resolveValue
  rw [run_resolveWith, lookup_str, hf]
  dsimp only
  rw [run_bind, hm]
  rfl

end Telemetry.Components

namespace Telemetry.Registry

open Components Pipeline

/-! ### The table laws -/

/-- What a registry promises about the next call on it, for names that are texts. It holds each
pair once. Registering a taken pair is refused with an error naming the factory that holds it;
registering a free pair adds it last, after which the pair finds the new factory, every other pair
what it found before, and the name is listed last for its extension point. Unregistering always
goes through, after which the pair finds nothing, every other pair what it found before, and the
name is no longer listed. Asking whether a pair is registered is finding it. Resolving a pair that
is not held calls no factory and names what is available; resolving a held pair calls its factory
once, with the mapping the configuration stands for. --/
structure TableLaws (files : FileSystem) (r : Registry Factory) : Prop where
  distinct : Distinct r
  register_taken : ∀ cap n f g, r.find? cap (.str n) = some g →
    r.register Factory.display cap (.str n) f = .error (.registration ("A " ++ cap.value ++ " provider named '" ++
      n ++ "' is already registered (" ++ g.display ++ ")"))
  register_free : ∀ cap n f, r.find? cap (.str n) = none →
    r.register Factory.display cap (.str n) f = .ok (r.push cap (.str n) f) ∧
      (∀ cap' n', (r.push cap (.str n) f).find? cap' (.str n') =
        if cap = cap' ∧ n = n' then some f else r.find? cap' (.str n')) ∧
      ∀ cap', (r.push cap (.str n) f).names cap' = if cap = cap' then r.names cap' ++ [.str n] else r.names cap'
  unregister : ∀ cap n, ∃ r', r.unregister cap (.str n) = .ok r' ∧
    (∀ cap' n', r'.find? cap' (.str n') = if cap = cap' ∧ n = n' then none else r.find? cap' (.str n')) ∧
    ∀ cap', r'.names cap' =
      if cap = cap' then (r.names cap').filter (fun m => !Json.sameKey m (.str n)) else r.names cap'
  isRegistered : ∀ cap n, r.isRegistered cap (.str n) = .ok (r.find? cap (.str n)).isSome
  resolve_unknown : ∀ cap n config b, r.find? cap (.str n) = none →
    (resolveValue files r cap (.str n) config).run.run b =
      (.error (.unknownProvider cap (.str n) (r.names cap) none), b)
  resolve_held : ∀ cap n config f es b, r.find? cap (.str n) = some f → Json.mappingOf config = .ok es →
    (resolveValue files r cap (.str n) config).run.run b =
      match (f.make files cap (Config.ofEntries es)).run.run b with
      | (.ok s, b') => (.ok s, b')
      | (.error e, b') => (.error (if e.isConfiguration then e else
          Fault.wrap ("Invalid configuration for " ++ cap.value ++ " '" ++ n ++ "': ") e), b')

theorem names_unregister_str (r : Registry Factory) (cap cap' : Capability) (n : String) :
    (⟨r.entries.filter fun e => !Registration.isFor cap (.str n) e⟩ : Registry Factory).names cap' =
      if cap = cap' then (r.names cap').filter (fun m => !Json.sameKey m (.str n)) else r.names cap' := by
  split
  · next hc =>
    subst hc
    exact names_unregister r _ cap (.str n) (unregister_str r cap n)
  · next hc => exact names_unregister_other r (.str n) hc

/-- A registry that calls reach from one that holds each pair once keeps the table laws. --/
theorem reached_tableLaws (files : FileSystem) {start r : Registry Factory} (hs : Distinct start)
    (h : Reached Factory.display start r) : TableLaws files r where
  distinct := h.distinct hs
  register_taken := fun cap n f g hg => register_taken r _ cap n f g hg
  register_free := fun cap n f hn =>
    ⟨register_free r _ cap n f hn, fun cap' n' => find?_push r cap cap' n n' f hn,
      fun cap' => names_push r cap cap' _ f⟩
  unregister := fun cap n =>
    ⟨_, unregister_str r cap n, fun cap' n' => find?_unregister r cap cap' n n',
      fun cap' => names_unregister_str r cap cap' n⟩
  isRegistered := fun _ _ => rfl
  resolve_unknown := fun cap n config b hn => run_resolveValue_unknown files r cap n config hn b
  resolve_held := fun cap n config _ _ b hf hm => run_resolveValue_held files r cap n config hf hm b

/-- Registering `a` and `b`, then unregistering `a` and registering it again, lists `b` first. --/
theorem reached_tableLaws_reregistered :
    Distinct (empty : Registry Factory) ∧
      Reached Factory.display empty (⟨[⟨.spanExporter, .str "b", .memory⟩, ⟨.spanExporter, .str "a", .scripted true⟩]⟩ :
        Registry Factory) ∧
      TableLaws FileSystem.host (⟨[⟨.spanExporter, .str "b", .memory⟩, ⟨.spanExporter, .str "a", .scripted true⟩]⟩ :
        Registry Factory) :=
  have h1 : (empty : Registry Factory).register Factory.display .spanExporter (.str "a") (.scripted true) =
      .ok ⟨[⟨.spanExporter, .str "a", .scripted true⟩]⟩ := rfl
  have h2 : (⟨[⟨.spanExporter, .str "a", .scripted true⟩]⟩ : Registry Factory).register Factory.display .spanExporter
      (.str "b") .memory = .ok ⟨[⟨.spanExporter, .str "a", .scripted true⟩, ⟨.spanExporter, .str "b", .memory⟩]⟩ := rfl
  have h3 : (⟨[⟨.spanExporter, .str "a", .scripted true⟩, ⟨.spanExporter, .str "b", .memory⟩]⟩ :
      Registry Factory).unregister .spanExporter (.str "a") = .ok ⟨[⟨.spanExporter, .str "b", .memory⟩]⟩ := rfl
  have h4 : (⟨[⟨.spanExporter, .str "b", .memory⟩]⟩ : Registry Factory).register Factory.display .spanExporter
      (.str "a") (.scripted true) =
        .ok ⟨[⟨.spanExporter, .str "b", .memory⟩, ⟨.spanExporter, .str "a", .scripted true⟩]⟩ := rfl
  have hr : Reached Factory.display empty (⟨[⟨.spanExporter, .str "b", .memory⟩,
      ⟨.spanExporter, .str "a", .scripted true⟩]⟩ : Registry Factory) :=
    .register (.unregister (.register (.register .start h1) h2) h3) h4
  ⟨Distinct.empty, hr, reached_tableLaws FileSystem.host Distinct.empty hr⟩

end Telemetry.Registry
