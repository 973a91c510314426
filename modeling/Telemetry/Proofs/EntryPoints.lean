import Telemetry.Components.Factory

/-!
Loading the factories that packages advertise.

Loading walks every advertisement once, extension point by extension point in discovery order and
each one's advertisements in order, as one left fold over them (`loadAdvertised_eq_foldl`). An
advertisement that does not load is passed over, as is one whose factory is the one registered
under its name already; one that would replace a different factory stops the walk with a
conflict, and the registrations made before it stay; any other is registered at the end. The
count is the number of registrations made, and a registration, once made, is never removed or
replaced. So a second load of the same advertisements finds each of their factories registered:
it registers nothing and counts nothing.
-/

namespace Telemetry.Registry

variable {F : Type} [BEq F]

/-- Every advertisement with its extension point, extension point by extension point in discovery
order. --/
def advertisements (advertised : Capability → List (Advertised F)) : List (Capability × Advertised F) :=
  Capability.all.flatMap fun c => (advertised c).map (c, ·)

/-- Load one advertisement over the registry and the count of registrations made so far. --/
def loadEntry (home : F → String) (r : Registry F) (n : Nat) (c : Capability) (a : Advertised F) :
    Registry F × Except Fault Nat :=
  match a.loaded with
  | none => (r, .ok n)
  | some f =>
    match r.find? c (.str a.name) with
    | some g => if g == f then (r, .ok n) else (r, .error (conflict c a.name (home g) a.target))
    | none => (r.push c (.str a.name) f, .ok (n + 1))

/-- One step of the walk; after a conflict nothing more is loaded. --/
def loadStep (home : F → String) : Registry F × Except Fault Nat → Capability × Advertised F →
    Registry F × Except Fault Nat
  | (r, .ok n), (c, a) => loadEntry home r n c a
  | s, _ => s

/-- Every factory an advertisement loads to is registered under its name, as one it counts as the
same. --/
def Found (r : Registry F) (c : Capability) (a : Advertised F) : Prop :=
  ∀ f, a.loaded = some f → ∃ g, r.find? c (.str a.name) = some g ∧ (g == f) = true

variable (home : F → String)

/-! ### The walk is a left fold -/

theorem foldl_loadStep_error (r : Registry F) (e : Fault) :
    ∀ l : List (Capability × Advertised F), l.foldl (loadStep home) (r, .error e) = (r, .error e)
  | [] => rfl
  | _ :: l => foldl_loadStep_error r e l

theorem loadGroup_eq_foldl (c : Capability) :
    ∀ (r : Registry F) (n : Nat) (as : List (Advertised F)),
      loadGroup home c r n as = (as.map (c, ·)).foldl (loadStep home) (r, .ok n)
  | _, _, [] => rfl
  | r, n, a :: as => by
    simp only [loadGroup, List.map_cons, List.foldl_cons, loadStep, loadEntry]
    cases a.loaded with
    | none => exact loadGroup_eq_foldl c r n as
    | some f =>
      cases r.find? c (.str a.name) with
      | none => exact loadGroup_eq_foldl c _ _ as
      | some g =>
        by_cases hg : (g == f) = true
        · simp only [hg, if_true]
          exact loadGroup_eq_foldl c r n as
        · simp only [hg, Bool.false_eq_true, if_false]
          exact (foldl_loadStep_error home r _ _).symm

theorem loadGroups_eq_foldl (advertised : Capability → List (Advertised F)) :
    ∀ (r : Registry F) (n : Nat) (caps : List Capability),
      loadGroups home advertised r n caps =
        (caps.flatMap fun c => (advertised c).map (c, ·)).foldl (loadStep home) (r, .ok n)
  | _, _, [] => rfl
  | r, n, c :: caps => by
    rw [List.flatMap_cons, List.foldl_append, ← loadGroup_eq_foldl]
    simp only [loadGroups]
    -- a group that ends in a conflict ends the walk there
    rcases loadGroup home c r n (advertised c) with ⟨r', _ | n'⟩
    · exact (foldl_loadStep_error home r' _ _).symm
    · exact loadGroups_eq_foldl advertised r' n' caps

theorem loadAdvertised_eq_foldl (advertised : Capability → List (Advertised F)) (r : Registry F) :
    r.loadAdvertised home advertised = (advertisements advertised).foldl (loadStep home) (r, .ok 0) :=
  loadGroups_eq_foldl home advertised r 0 Capability.all

/-! ### What the walk registers -/

/-- One advertisement registers at most one factory, at the end, and counts what it registers. --/
theorem loadEntry_grows {r r' : Registry F} {n : Nat} {c : Capability} {a : Advertised F}
    {res : Except Fault Nat} (h : loadEntry home r n c a = (r', res)) :
    ∃ new, r'.entries = r.entries ++ new ∧ ∀ m, res = .ok m → m = n + new.length := by
  unfold loadEntry at h
  split at h
  · cases h
    exact ⟨[], by simp, fun m hm => by cases hm; rfl⟩
  · split at h
    · split at h <;> cases h
      · exact ⟨[], by simp, fun m hm => by cases hm; rfl⟩
      · exact ⟨[], by simp, fun m hm => by cases hm⟩
    · cases h
      exact ⟨[_], rfl, fun m hm => by cases hm; rfl⟩

theorem foldl_loadStep_grows :
    ∀ (l : List (Capability × Advertised F)) (r : Registry F) (n : Nat),
      ∃ new, (l.foldl (loadStep home) (r, .ok n)).1.entries = r.entries ++ new ∧
        ∀ m, (l.foldl (loadStep home) (r, .ok n)).2 = .ok m → m = n + new.length
  | [], r, n => ⟨[], by simp, fun m hm => by cases hm; rfl⟩
  | (c, a) :: l, r, n => by
    rw [List.foldl_cons]
    simp only [loadStep]
    rcases he : loadEntry home r n c a with ⟨r₁, _ | n₁⟩
    · -- a conflict: the walk stops where it is
      obtain ⟨new, hnew, -⟩ := loadEntry_grows home he
      rw [foldl_loadStep_error]
      exact ⟨new, hnew, fun m hm => by cases hm⟩
    · obtain ⟨new, hnew, hcount⟩ := loadEntry_grows home he
      obtain ⟨rest, hrest, hcount'⟩ := foldl_loadStep_grows l r₁ n₁
      refine ⟨new ++ rest, by rw [hrest, hnew, List.append_assoc], fun m hm => ?_⟩
      rw [hcount' m hm, hcount n₁ rfl, List.length_append, Nat.add_assoc]

/-! ### A second walk over the same advertisements -/

omit [BEq F] in
theorem find?_push_of_some {r : Registry F} {c c' : Capability} {k k' : Json} {f g : F}
    (h : r.find? c k = some g) : (r.push c' k' f).find? c k = some g := by
  unfold find? at h ⊢
  obtain ⟨e, he, rfl⟩ := Option.map_eq_some_iff.mp h
  simp [push, List.find?_append, he]

/-- A registration found under a key stays found: loading only adds registrations under keys that
are free. --/
theorem loadEntry_find? {r : Registry F} {n : Nat} {c : Capability} {a : Advertised F}
    {c' : Capability} {k : Json} {g : F} (h : r.find? c' k = some g) :
    (loadEntry home r n c a).1.find? c' k = some g := by
  unfold loadEntry
  split
  · exact h
  · split
    · split <;> exact h
    · exact find?_push_of_some h

theorem foldl_loadStep_find? {c : Capability} {k : Json} {g : F} :
    ∀ (l : List (Capability × Advertised F)) (s : Registry F × Except Fault Nat), s.1.find? c k = some g →
      (l.foldl (loadStep home) s).1.find? c k = some g
  | [], _, h => h
  | (c', a) :: l, (r, res), h => by
    rw [List.foldl_cons]
    cases res with
    | error e => exact foldl_loadStep_find? l _ h
    | ok n => exact foldl_loadStep_find? l _ (loadEntry_find? home h)

/-- After an advertisement is loaded without conflict, its factory is found under its name, when
every factory counts as the same as itself. --/
theorem loadEntry_found {r r' : Registry F} {n m : Nat} {c : Capability} {a : Advertised F}
    (hrefl : ∀ f, a.loaded = some f → (f == f) = true) (h : loadEntry home r n c a = (r', .ok m)) :
    Found r' c a := by
  intro f hf
  unfold loadEntry at h
  rw [hf] at h
  simp only at h
  split at h
  · next g hg =>
    split at h
    · next hgf =>
      cases h
      exact ⟨g, hg, hgf⟩
    · cases h
  · next hg =>
    cases h
    exact ⟨f, find?_push_self r c _ f (Json.sameKey_self_text a.name) hg, hrefl f hf⟩

theorem loadEntry_of_found {r : Registry F} {n : Nat} {c : Capability} {a : Advertised F}
    (h : Found r c a) : loadEntry home r n c a = (r, .ok n) := by
  unfold loadEntry
  cases hl : a.loaded with
  | none => rfl
  | some f =>
    obtain ⟨g, hg, hgf⟩ := h f hl
    simp [hg, hgf]

/-- A walk that ends without conflict leaves every advertisement it walked found. --/
theorem foldl_loadStep_found :
    ∀ (l : List (Capability × Advertised F)) (r r' : Registry F) (n m : Nat),
      (∀ p ∈ l, ∀ f, p.2.loaded = some f → (f == f) = true) →
      l.foldl (loadStep home) (r, .ok n) = (r', .ok m) → ∀ p ∈ l, Found r' p.1 p.2
  | [], _, _, _, _, _, _, p, hp => by cases hp
  | (c, a) :: l, r, r', n, m, hrefl, h, p, hp => by
    rw [List.foldl_cons] at h
    simp only [loadStep] at h
    rcases he : loadEntry home r n c a with ⟨r₁, _ | n₁⟩
    · rw [he, foldl_loadStep_error] at h
      cases h
    · rw [he] at h
      rcases List.mem_cons.mp hp with rfl | hp
      · -- the advertisement just loaded stays found through the rest of the walk
        have hfound := loadEntry_found home (hrefl (c, a) List.mem_cons_self) he
        intro f hf
        obtain ⟨g, hg, hgf⟩ := hfound f hf
        refine ⟨g, ?_, hgf⟩
        have := foldl_loadStep_find? home l (r₁, .ok n₁) hg
        rwa [h] at this
      · exact foldl_loadStep_found l r₁ r' n₁ m (fun q hq => hrefl q (List.mem_cons_of_mem _ hq)) h p hp

theorem foldl_loadStep_of_found (r : Registry F) (n : Nat) :
    ∀ l : List (Capability × Advertised F), (∀ p ∈ l, Found r p.1 p.2) →
      l.foldl (loadStep home) (r, .ok n) = (r, .ok n)
  | [], _ => rfl
  | (c, a) :: l, h => by
    rw [List.foldl_cons]
    simp only [loadStep]
    rw [loadEntry_of_found home (h (c, a) List.mem_cons_self)]
    exact foldl_loadStep_of_found r n l fun p hp => h p (List.mem_cons_of_mem _ hp)

omit [BEq F] in
theorem mem_advertisements {advertised : Capability → List (Advertised F)} {p : Capability × Advertised F}
    (h : p ∈ advertisements advertised) : p.2 ∈ advertised p.1 := by
  simp only [advertisements, List.mem_flatMap, List.mem_map] at h
  obtain ⟨c, -, a, ha, rfl⟩ := h
  exact ha

/-! ### Loading advertised factories -/

/-- Loading advertised factories is the left fold of `loadStep` over the advertisements; the
registrations it leaves are those it found followed by the ones it made, which it counts; and
once it ends without conflict, loading the same advertisements again changes nothing and counts
nothing, when every factory counts as the same as itself. --/
theorem loadAdvertised_laws (advertised : Capability → List (Advertised F)) (r : Registry F) :
    r.loadAdvertised home advertised = (advertisements advertised).foldl (loadStep home) (r, .ok 0) ∧
    (∃ new, (r.loadAdvertised home advertised).1.entries = r.entries ++ new ∧
      ∀ n, (r.loadAdvertised home advertised).2 = .ok n → n = new.length) ∧
    ((∀ c, ∀ a ∈ advertised c, ∀ f, a.loaded = some f → (f == f) = true) →
      ∀ n, (r.loadAdvertised home advertised).2 = .ok n →
        (r.loadAdvertised home advertised).1.loadAdvertised home advertised =
          ((r.loadAdvertised home advertised).1, .ok 0)) := by
  have hfold := loadAdvertised_eq_foldl home advertised r
  refine ⟨hfold, ?_, ?_⟩
  · obtain ⟨new, hnew, hcount⟩ := foldl_loadStep_grows home (advertisements advertised) r 0
    refine ⟨new, by rw [hfold]; exact hnew, fun n hn => ?_⟩
    rw [hfold] at hn
    simpa using hcount n hn
  · intro hrefl n hn
    -- every advertisement is found after the first load, so the second finds each one again
    have hfound := foldl_loadStep_found home (advertisements advertised) r
      (r.loadAdvertised home advertised).1 0 n (fun p hp => hrefl p.1 p.2 (mem_advertisements hp))
      (by rw [← hfold]; exact Prod.ext rfl hn)
    rw [loadAdvertised_eq_foldl home advertised]
    exact foldl_loadStep_of_found home _ 0 _ hfound

/-- A package advertising one sampler factory, and one that does not load. --/
def samplerPlugin : Capability → List (Advertised Components.Factory)
  | .sampler =>
    [⟨"custom", "plugin:make_sampler",
      some (.foreign ⟨"<function make_sampler>", "plugin", .str "entry_point:make_sampler", .builds⟩)⟩,
     ⟨"broken", "plugin:missing", none⟩]
  | _ => []

theorem loadAdvertised_laws_sampler :
    (∀ c, ∀ a ∈ samplerPlugin c, ∀ f, a.loaded = some f → (f == f) = true) ∧
      (empty.loadAdvertised Components.Factory.home samplerPlugin).2 = .ok 1 ∧
      (empty.loadAdvertised Components.Factory.home samplerPlugin).1.loadAdvertised Components.Factory.home
        samplerPlugin = ((empty.loadAdvertised Components.Factory.home samplerPlugin).1, .ok 0) := by
  have hrefl : ∀ c, ∀ a ∈ samplerPlugin c, ∀ f, a.loaded = some f → (f == f) = true := by
    intro c a ha f hf
    cases c <;> simp only [samplerPlugin, List.mem_cons, List.not_mem_nil, or_false] at ha
    rcases ha with rfl | rfl
    · cases hf
      decide
    · cases hf
  exact ⟨hrefl, rfl, (loadAdvertised_laws Components.Factory.home samplerPlugin empty).2.2 hrefl 1 rfl⟩

end Telemetry.Registry
