import Telemetry.Proofs.ReleaseWalk

/-!
# What a ledger keeps across calls

A ledger is built by calls: acquiring resources, adopting one resource as owned by another, and
releasing. `Built fits` collects the ledgers such calls reach from the empty one, every adopt that
records an owner satisfying `fits`. Every such ledger holds each resource once and holds nothing
once released (`Sound`). When every adopt names an owner acquired after what it owns
(`OwnerAfter`), every owner stays recorded after what it owns (`OwnersLater`), so the release walk
meets each owner before what it owns and the ownership rule of `Follows.ran_iff` applies.
-/

namespace Telemetry.Ledger

variable {α ρ : Type} [BEq α]

/-- Whether adopting records an owner: the two differ and both are recorded. --/
def records (l : Ledger α ρ) (child owner : α) : Bool :=
  !(child == owner) && l.tracks child && l.tracks owner

/-- `owner` is recorded after every record of `child`. --/
def OwnerAfter (l : Ledger α ρ) (child owner : α) : Prop :=
  ∀ xs e ys, l.entries = xs ++ e :: ys → e.handle = child → owner ∈ ys.map (·.handle)

/-- Every owner is recorded after what it owns. --/
def OwnersLater (es : List (Entry α ρ)) : Prop :=
  ∀ xs e ys o, es = xs ++ e :: ys → e.owner = some o → o ∈ ys.map (·.handle)

/-- The ledgers that calls build from the empty one: acquiring, adopting, where every adopt that
records an owner satisfies `fits`, and releasing. A call that fails leaves the ledger as it was. --/
inductive Built (fits : Ledger α ρ → α → α → Prop) : Ledger α ρ → Prop
  | empty : Built fits empty
  | acquire {l l' : Ledger α ρ} {h : α} {a : Option ρ} {cls : String} {label : Json} :
      Built fits l → l.acquire h a cls label = .ok l' → Built fits l'
  | adopt {l : Ledger α ρ} {c o : α} :
      Built fits l → (l.records c o = true → fits l c o) → Built fits (l.adopt c o)
  | release {l : Ledger α ρ} : Built fits l → Built fits l.close.1

/-- What every built ledger keeps: each resource recorded once, and nothing recorded once
released. --/
structure Sound (l : Ledger α ρ) : Prop where
  distinct : (l.entries.map (·.handle)).Nodup
  closed_empty : l.closed = true → l.entries = []

/-! ### One lemma per call -/

/-- What a successful acquire did: the ledger is open and the call has an action, and it kept
the ledger when the resource was recorded, or recorded it last, without an owner. --/
theorem acquire_eq_ok {l l' : Ledger α ρ} {h : α} {a : Option ρ} {cls : String} {label : Json}
    (hl : l.acquire h a cls label = .ok l') :
    ∃ x, a = some x ∧ l.closed = false ∧
      (l.tracks h = true ∧ l' = l ∨
        l.tracks h = false ∧ l' = { l with entries := l.entries ++ [⟨h, x, label, none⟩] }) := by
  unfold acquire at hl
  cases a with
  | none => cases hl
  | some x =>
    refine ⟨x, rfl, ?_⟩
    cases hc : l.closed
    · cases ht : l.tracks h
      · simp only [hc, ht, Bool.false_eq_true, if_false, Except.ok.injEq] at hl
        exact ⟨rfl, .inr ⟨rfl, hl.symm⟩⟩
      · simp only [hc, ht, Bool.false_eq_true, if_false, if_true, Except.ok.injEq] at hl
        exact ⟨rfl, .inl ⟨rfl, hl.symm⟩⟩
    · simp [hc] at hl

/-- The records after adopting: the child's record names its owner when the adopt records one. --/
theorem adopt_entries (l : Ledger α ρ) (c o : α) :
    (l.adopt c o).entries = if l.records c o then
      l.entries.map (fun e => if e.handle == c then { e with owner := some o } else e) else l.entries := by
  unfold adopt records
  cases (c == o) <;> cases l.tracks c <;> cases l.tracks o <;> simp

theorem adopt_closed (l : Ledger α ρ) (c o : α) : (l.adopt c o).closed = l.closed := by
  unfold adopt
  split
  · rfl
  · split <;> rfl

theorem adopt_handles (l : Ledger α ρ) (c o : α) :
    (l.adopt c o).entries.map (·.handle) = l.entries.map (·.handle) := by
  rw [adopt_entries]
  split
  · simp only [List.map_map]
    congr 1
    funext e
    simp only [Function.comp]
    split <;> rfl
  · rfl

omit [BEq α] in
theorem close_entries (l : Ledger α ρ) : l.close.1.entries = if l.closed then l.entries else [] := by
  unfold close
  cases l.closed <;> rfl

/-! ### Every built ledger is sound -/

omit [BEq α] in
theorem Sound.empty : Sound (empty : Ledger α ρ) := ⟨List.nodup_nil, fun _ => rfl⟩

theorem Sound.adopt {l : Ledger α ρ} (hs : Sound l) (c o : α) : Sound (l.adopt c o) where
  distinct := by
    rw [adopt_handles]
    exact hs.distinct
  closed_empty := fun hc => by
    rw [adopt_closed] at hc
    rw [adopt_entries, hs.closed_empty hc]
    split <;> rfl

omit [BEq α] in
theorem Sound.release {l : Ledger α ρ} (hs : Sound l) : Sound l.close.1 where
  distinct := by
    rw [close_entries]
    split
    · exact hs.distinct
    · exact List.nodup_nil
  closed_empty := fun _ => by
    rw [close_entries]
    split
    · next hc => exact hs.closed_empty hc
    · rfl

section Lawful
variable [LawfulBEq α]

theorem tracks_eq_false_iff {l : Ledger α ρ} {h : α} : l.tracks h = false ↔ h ∉ l.entries.map (·.handle) := by
  simp [tracks]

theorem Sound.acquire {l l' : Ledger α ρ} {h : α} {a : Option ρ} {cls : String} {label : Json}
    (hs : Sound l) (hl : l.acquire h a cls label = .ok l') : Sound l' := by
  obtain ⟨x, -, hc, ⟨-, rfl⟩ | ⟨ht, rfl⟩⟩ := acquire_eq_ok hl
  · exact hs
  · -- a new resource goes last, and it was not recorded before
    refine ⟨?_, fun h' => by simp [hc] at h'⟩
    rw [List.map_append, List.nodup_append]
    exact ⟨hs.distinct, List.nodup_singleton _, fun a ha b hb => by
      simp only [List.map_cons, List.map_nil, List.mem_singleton] at hb
      subst hb
      rintro rfl
      exact tracks_eq_false_iff.mp ht ha⟩

theorem Built.sound {fits : Ledger α ρ → α → α → Prop} {l : Ledger α ρ} (hb : Built fits l) : Sound l := by
  induction hb with
  | empty => exact Sound.empty
  | acquire _ hl ih => exact ih.acquire hl
  | adopt _ _ ih => exact ih.adopt _ _
  | release _ ih => exact ih.release

end Lawful

/-! ### Owners stay recorded after what they own -/

omit [BEq α] in
theorem OwnersLater.append_fresh {es : List (Entry α ρ)} (ho : OwnersLater es) (h : α) (x : ρ)
    (label : Json) : OwnersLater (es ++ [⟨h, x, label, none⟩]) := by
  intro xs e ys o hsplit hown
  rcases List.eq_nil_or_concat ys with rfl | ⟨ys', y, rfl⟩
  · -- the record split off last is the new one, which has no owner
    obtain ⟨-, he⟩ := List.append_inj' hsplit rfl
    cases he
    cases hown
  · have hsplit' : es ++ [⟨h, x, label, none⟩] = (xs ++ e :: ys') ++ [y] := by
      rw [hsplit]
      simp
    obtain ⟨hes, -⟩ := List.append_inj' hsplit' rfl
    have := ho xs e ys' o hes hown
    simp only [List.concat_eq_append, List.map_append, List.mem_append]
    exact .inl this

theorem OwnersLater.adopt [LawfulBEq α] {l : Ledger α ρ} {c o : α} (ho : OwnersLater l.entries)
    (hfit : l.records c o = true → OwnerAfter l c o) : OwnersLater (l.adopt c o).entries := by
  rw [adopt_entries]
  split
  · next hr =>
    intro xs' e' ys' o' hsplit hown
    -- the split of the new records comes from a split of the old ones, record by record
    obtain ⟨xs, rest, hl, -, hrest⟩ := List.map_eq_append_iff.mp hsplit
    obtain ⟨e, ys, rfl, he, rfl⟩ := List.map_eq_cons_iff.mp hrest
    have hhandles : (ys.map (fun e => if e.handle == c then { e with owner := some o } else e)).map (·.handle) =
        ys.map (·.handle) := by
      simp only [List.map_map]
      congr 1
      funext y
      simp only [Function.comp]
      split <;> rfl
    rw [hhandles]
    by_cases hc : (e.handle == c) = true
    · simp only [hc, if_true] at he
      subst he
      cases hown
      exact hfit hr xs e ys hl (eq_of_beq hc)
    · simp only [hc, Bool.false_eq_true, if_false] at he
      subst he
      exact ho xs e ys o' hl hown
  · exact ho

omit [BEq α] in
/-- An owner recorded last is recorded after any other resource. --/
theorem OwnerAfter.of_last {l : Ledger α ρ} {c o : α} {eo : Entry α ρ} (hl : l.entries.getLast? = some eo)
    (heo : eo.handle = o) (hne : c ≠ o) : OwnerAfter l c o := by
  intro xs e ys hsplit he
  rw [hsplit] at hl
  rcases List.eq_nil_or_concat ys with rfl | ⟨ys', y, rfl⟩
  · -- `e` is the last record, hence the owner itself
    rw [List.getLast?_concat, Option.some.injEq] at hl
    subst hl
    exact absurd (he.symm.trans heo) hne
  · rw [List.concat_eq_append] at hl ⊢
    rw [show xs ++ e :: (ys' ++ [y]) = (xs ++ e :: ys') ++ [y] by simp, List.getLast?_concat,
      Option.some.injEq] at hl
    subst hl
    simp [heo]

theorem Built.ownersLater [LawfulBEq α] {l : Ledger α ρ} (hb : Built OwnerAfter l) : OwnersLater l.entries := by
  induction hb with
  | empty =>
    intro xs e ys o h
    change [] = xs ++ e :: ys at h
    simp at h
  | acquire _ hl ih =>
    obtain ⟨x, -, -, ⟨-, rfl⟩ | ⟨-, rfl⟩⟩ := acquire_eq_ok hl
    · exact ih
    · exact ih.append_fresh _ x _
  | adopt _ hfit ih => exact ih.adopt hfit
  | release _ ih =>
    rw [close_entries]
    split
    · exact ih
    · intro xs e ys o h; simp at h

/-! ### What a built ledger promises -/

/-- How a release's answer reports the failures of its walk: nothing when no action failed, else
an error listing each failure with the name of its record, in the order the actions ran, whose
message first gives their number. --/
def Reports (err : Option ReleaseError) (vs : List (Entry α ρ × Visit)) : Prop :=
  (err = none ↔ ∀ p ∈ vs, ∀ f, p.2 ≠ .ran (some f)) ∧
  ∀ r, err = some r → r.failures = failuresOf vs ∧
    ∃ rest, r.message = "Failed to release " ++ toString r.failures.length ++ " resource(s): " ++ rest

omit [BEq α] in
theorem reports_failuresError (vs : List (Entry α ρ × Visit)) : Reports (failuresError (failuresOf vs)) vs := by
  unfold Reports
  rw [← failuresOf_eq_nil_iff]
  cases failuresOf vs with
  | nil => exact ⟨iff_of_true rfl rfl, fun r hr => by cases hr⟩
  | cons x xs =>
    refine ⟨iff_of_false (by simp [failuresError]) (by simp), fun r hr => ?_⟩
    cases hr
    exact ⟨rfl, _, rfl⟩

/-- What a ledger built by calls promises about itself and the next call on it: no resource is
recorded twice; acquiring a recorded resource again keeps the ledger, its first action and name
included; once released, it holds nothing, refuses to acquire (as released when the call has an
action, and as any ledger does when it has none) and releases nothing more, in any monad; and the
first release visits each record once, last acquired first, skips a record only when its owner
was released cleanly before it, lets the world see exactly the actions that ran, leaves the ledger
closed and empty, and reports the failures. --/
structure Lifecycle (l : Ledger α ρ) : Prop where
  distinct : (l.entries.map (·.handle)).Nodup
  reacquire : ∀ h a cls label l', l.tracks h = true → l.acquire h a cls label = .ok l' → l' = l
  released : l.closed = true → l.size = 0 ∧ l.names = [] ∧
    (∀ h x cls label, l.acquire h (some x) cls label =
      .error ⟨.runtimeError, "Cannot acquire '" ++ Json.display label ++ "': ledger already released"⟩) ∧
    (∀ h cls label, l.acquire h none cls label =
      .error ⟨.typeError, cls ++ " has no shutdown() and no release action"⟩) ∧
    ∀ (m : Type → Type) [Monad m] (run : ρ → m (Option Failure)), l.releaseAll run = pure (l, none)
  first : l.closed = false → ∀ (σ : Type) (run : ρ → StateM σ (Option Failure)) (w : σ),
    ∃ vs : List (Entry α ρ × Visit), vs.map Prod.fst = l.entries.reverse ∧ Follows [] vs ∧
      Replays run vs w ((l.releaseAll run).run w).2 ∧ ((l.releaseAll run).run w).1.1 = ⟨[], true⟩ ∧
      Reports ((l.releaseAll run).run w).1.2 vs

theorem acquire_of_tracks {l l' : Ledger α ρ} {h : α} {a : Option ρ} {cls : String} {label : Json}
    (ht : l.tracks h = true) (hl : l.acquire h a cls label = .ok l') : l' = l := by
  obtain ⟨x, -, -, ⟨-, rfl⟩ | ⟨hf, -⟩⟩ := acquire_eq_ok hl
  · rfl
  · rw [ht] at hf
    cases hf

theorem built_lifecycle [LawfulBEq α] {l : Ledger α ρ} (hb : Built (fun _ _ _ => True) l) : Lifecycle l where
  distinct := hb.sound.distinct
  reacquire := fun _ _ _ _ _ ht hl => acquire_of_tracks ht hl
  released := fun hc => by
    have he := hb.sound.closed_empty hc
    refine ⟨by simp [size, he], by simp [names, he], fun h x cls label => acquire_closed_error l h x cls label hc,
      fun h cls label => rfl, fun m _ run => releaseAll_closed run hc⟩
  first := fun hc σ run w => by
    obtain ⟨vs, hmap, hf, hrep, hres⟩ := releaseAll_walk run hc w
    exact ⟨vs, hmap, hf, hrep, by rw [hres], by rw [hres]; exact reports_failuresError vs⟩

/-- A released ledger refuses a resource that has no release action the way any ledger does,
with a type error, not with the error of a released ledger. --/
theorem acquire_released_without_action :
    (empty.close.1 : Ledger Nat Nat).closed = true ∧
      (empty.close.1 : Ledger Nat Nat).acquire 0 none "Plain" (.str "Plain") =
        .error ⟨.typeError, "Plain has no shutdown() and no release action"⟩ := ⟨rfl, rfl⟩

/-- An exporter, then a processor adopting it, then a release. --/
theorem built_lifecycle_released :
    Built (fun _ _ _ => True) ((⟨[⟨1, 1, .str "exporter", none⟩, ⟨2, 2, .str "processor", none⟩], false⟩ :
        Ledger Nat Nat).adopt 1 2).close.1 ∧
      Lifecycle ((⟨[⟨1, 1, .str "exporter", none⟩, ⟨2, 2, .str "processor", none⟩], false⟩ :
        Ledger Nat Nat).adopt 1 2).close.1 :=
  have h1 : (empty : Ledger Nat Nat).acquire 1 (some 1) "Closeable" (.str "exporter") =
      .ok ⟨[⟨1, 1, .str "exporter", none⟩], false⟩ := rfl
  have h2 : (⟨[⟨1, 1, .str "exporter", none⟩], false⟩ : Ledger Nat Nat).acquire 2 (some 2) "Closeable"
      (.str "processor") = .ok ⟨[⟨1, 1, .str "exporter", none⟩, ⟨2, 2, .str "processor", none⟩], false⟩ := rfl
  have hb : Built (fun _ _ _ => True) ((⟨[⟨1, 1, .str "exporter", none⟩, ⟨2, 2, .str "processor", none⟩], false⟩ :
      Ledger Nat Nat).adopt 1 2).close.1 :=
    .release (.adopt (.acquire (.acquire .empty h1) h2) fun _ => trivial)
  ⟨hb, built_lifecycle hb⟩

/-! ### The ownership law -/

/-- The ownership law of a release walk: an entry's action runs exactly when it has no owner or
its owner ran and failed; along owners, an entry is skipped exactly when the nearest ancestor
that ran succeeded; so when no action fails exactly the entries without an owner run, and when an
owner's action fails each entry it owns directly runs its own. --/
structure OwnershipLaw (vs : List (Entry α ρ × Visit)) : Prop where
  ran_iff : ∀ p ∈ vs, p.2 ≠ .skipped ↔
    p.1.owner = none ∨ ∃ eo f, (eo, .ran (some f)) ∈ vs ∧ p.1.owner = some eo.handle
  skipped_iff : ∀ p ∈ vs, p.2 = .skipped ↔ ∃ a, NearestRun vs p.1 (a, .ran none)
  clean : (∀ p ∈ vs, ∀ f, p.2 ≠ .ran (some f)) → ∀ p ∈ vs, p.2 ≠ .skipped ↔ p.1.owner = none
  owner_failed : ∀ eo f, (eo, .ran (some f)) ∈ vs → ∀ p ∈ vs, p.1.owner = some eo.handle → p.2 ≠ .skipped

theorem OwnershipLaw.of_follows [LawfulBEq α] {vs : List (Entry α ρ × Visit)} (hf : Follows [] vs)
    (hd : (vs.map (·.1.handle)).Nodup) (ho : OwnersFirst vs) : OwnershipLaw vs where
  ran_iff := fun _ hp => hf.ran_iff hd ho hp
  skipped_iff := fun _ hp => hf.skipped_iff_nearestRun hd ho hp
  clean := fun hc _ hp => hf.ran_iff_of_clean hd ho hc hp
  owner_failed := fun _ _ hfail _ hp hown => hf.ran_of_owner_failed hd ho hfail hp hown

omit [BEq α] in
/-- A walk over the records last acquired first meets every owner before what it owns. --/
theorem ownersFirst_of_reverse {es : List (Entry α ρ)} {vs : List (Entry α ρ × Visit)}
    (hmap : vs.map Prod.fst = es.reverse) (ho : OwnersLater es) : OwnersFirst vs := by
  intro pre e v post o hvs hown
  rw [hvs, List.map_append, List.map_cons] at hmap
  have hes : es = (post.map Prod.fst).reverse ++ e :: (pre.map Prod.fst).reverse := by
    rw [← List.reverse_reverse es, ← hmap]
    simp
  have := ho _ e _ o hes hown
  simpa [List.map_reverse] using this

omit [BEq α] in
theorem nodup_handles_of_reverse {es : List (Entry α ρ)} {vs : List (Entry α ρ × Visit)}
    (hmap : vs.map Prod.fst = es.reverse) (hd : (es.map (·.handle)).Nodup) : (vs.map (·.1.handle)).Nodup := by
  have : vs.map (·.1.handle) = (es.map (·.handle)).reverse := by
    rw [← List.map_reverse, ← hmap, List.map_map]
    rfl
  rw [this, List.nodup_reverse]
  exact hd

/-- The first release of `l`, from the world `w`, follows the ownership law: it visits the
records last acquired first, the world sees exactly the actions that ran, and the law holds. --/
def ReleasesByOwnership {σ : Type} (run : ρ → StateM σ (Option Failure)) (w : σ) (l : Ledger α ρ) : Prop :=
  ∃ vs : List (Entry α ρ × Visit), vs.map Prod.fst = l.entries.reverse ∧
    Replays run vs w ((l.releaseAll run).run w).2 ∧ OwnershipLaw vs

/-- The first release of a ledger whose owners were all acquired after what they own follows the
ownership law. --/
theorem releasesByOwnership_first [LawfulBEq α] {l : Ledger α ρ} (hb : Built OwnerAfter l) (hc : l.closed = false)
    {σ : Type} (run : ρ → StateM σ (Option Failure)) (w : σ) : ReleasesByOwnership run w l := by
  obtain ⟨vs, hmap, hf, hrep, -⟩ := releaseAll_walk run hc w
  exact ⟨vs, hmap, hrep, .of_follows hf (nodup_handles_of_reverse hmap hb.sound.distinct)
    (ownersFirst_of_reverse hmap hb.ownersLater)⟩

/-- Releasing a ledger whose owners were all acquired after what they own follows the ownership
law. --/
theorem releaseAll_ownership [LawfulBEq α] {l : Ledger α ρ} (hb : Built OwnerAfter l) {σ : Type}
    (run : ρ → StateM σ (Option Failure)) (w : σ) : ReleasesByOwnership run w l := by
  cases hc : l.closed with
  | false => exact releasesByOwnership_first hb hc run w
  | true =>
    -- a released ledger holds nothing and runs nothing
    unfold ReleasesByOwnership
    rw [releaseAll_closed run hc, hb.sound.closed_empty hc]
    exact ⟨[], rfl, rfl, .of_follows trivial List.nodup_nil (fun pre _ _ _ _ h _ => by simp at h)⟩

/-- An exporter owned by the processor acquired after it; the processor fails to shut down, so the
exporter is released on its own. --/
theorem releaseAll_ownership_failed_owner :
    Built OwnerAfter ((⟨[⟨1, 1, .str "exporter", none⟩, ⟨2, 2, .str "processor", none⟩], false⟩ :
        Ledger Nat Nat).adopt 1 2) ∧
      ReleasesByOwnership (fun a w => (if a = 2 then some ⟨.runtimeError, "refused"⟩ else none, w ++ [a]) :
          Nat → StateM (List Nat) (Option Failure)) []
        ((⟨[⟨1, 1, .str "exporter", none⟩, ⟨2, 2, .str "processor", none⟩], false⟩ : Ledger Nat Nat).adopt 1 2) :=
  have h1 : (empty : Ledger Nat Nat).acquire 1 (some 1) "Closeable" (.str "exporter") =
      .ok ⟨[⟨1, 1, .str "exporter", none⟩], false⟩ := rfl
  have h2 : (⟨[⟨1, 1, .str "exporter", none⟩], false⟩ : Ledger Nat Nat).acquire 2 (some 2) "Closeable"
      (.str "processor") = .ok ⟨[⟨1, 1, .str "exporter", none⟩, ⟨2, 2, .str "processor", none⟩], false⟩ := rfl
  have hb : Built OwnerAfter ((⟨[⟨1, 1, .str "exporter", none⟩, ⟨2, 2, .str "processor", none⟩], false⟩ :
      Ledger Nat Nat).adopt 1 2) :=
    .adopt (.acquire (.acquire .empty h1) h2) fun _ => OwnerAfter.of_last rfl rfl (by decide)
  ⟨hb, releaseAll_ownership hb _ []⟩

end Telemetry.Ledger
