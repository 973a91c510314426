import Telemetry.Ledger.Basic
import Mathlib.Data.List.Nodup

/-!
# One release walk, entry by entry

Releasing a ledger walks its entries once, last acquired first. Each entry is either skipped,
when its owner was released cleanly before it, or has its action run, once, and the action
answers whether it failed. A walk is described here by its visits: the entries in the order
walked, each with what was done to it. `Follows` says which visits skip, `Replays` that the world
went through exactly the actions that ran, in order, and `failuresOf` what the walk reports.
-/

namespace Telemetry.Ledger

/-- What the walk did with an entry: skipped it, or ran its action, which answered. --/
inductive Visit where
  | skipped
  | ran (answer : Option Failure)

/-- Whether the entry counts as released cleanly after its visit: skipped, or run without failing. --/
def Visit.clean : Visit → Bool
  | .skipped => true
  | .ran r => r.isNone

theorem Visit.clean_eq_false_iff {v : Visit} : v.clean = false ↔ ∃ f, v = .ran (some f) := by
  cases v with
  | skipped => simp [clean]
  | ran r => cases r <;> simp [clean]

variable {α ρ σ : Type}

/-- The failure a visit reports, with the entry's name: only a run that failed reports one. --/
def Visit.failure (e : Entry α ρ) : Visit → Option (Json × Failure)
  | .ran (some f) => some (e.name, f)
  | _ => none

/-- The failures a walk reports, in the order the actions ran. --/
def failuresOf (vs : List (Entry α ρ × Visit)) : List (Json × Failure) :=
  vs.filterMap fun v => v.2.failure v.1

@[simp] theorem failuresOf_nil : failuresOf ([] : List (Entry α ρ × Visit)) = [] := rfl

@[simp] theorem failuresOf_cons (e : Entry α ρ) (v : Visit) (vs : List (Entry α ρ × Visit)) :
    failuresOf ((e, v) :: vs) = (v.failure e).toList ++ failuresOf vs := by
  cases h : v.failure e <;> simp [failuresOf, h]

theorem failuresOf_eq_nil_iff {vs : List (Entry α ρ × Visit)} :
    failuresOf vs = [] ↔ ∀ p ∈ vs, ∀ f, p.2 ≠ .ran (some f) := by
  induction vs with
  | nil => simp
  | cons p vs ih =>
    obtain ⟨e, v⟩ := p
    cases v with
    | skipped => simp [Visit.failure, ih]
    | ran r => cases r <;> simp [Visit.failure, ih]

variable [BEq α]

/-- Each visit skips exactly when the entry's owner was released cleanly before it, `done`
holding what was released before the walk and whether cleanly. --/
def Follows : List (α × Bool) → List (Entry α ρ × Visit) → Prop
  | _, [] => True
  | done, (e, v) :: vs => (v = .skipped ↔ skips done e = true) ∧ Follows ((e.handle, v.clean) :: done) vs

/-- From the world `w`, the actions of the visits that ran, run in order, answer as recorded and
lead to the world `w'`; a skipped entry runs nothing. --/
def Replays (run : ρ → StateM σ (Option Failure)) : List (Entry α ρ × Visit) → σ → σ → Prop
  | [], w, w' => w = w'
  | (_, .skipped) :: vs, w, w' => Replays run vs w w'
  | (e, .ran r) :: vs, w, w' => ∃ w₁, (run e.action).run w = (r, w₁) ∧ Replays run vs w₁ w'

/-! ### The walk, one entry at a time -/

section Run
variable (run : ρ → StateM σ (Option Failure)) (done : List (α × Bool)) (e : Entry α ρ)
  (es : List (Entry α ρ)) (w : σ)

theorem run_releaseEntries_skip (h : skips done e = true) :
    (releaseEntries run done (e :: es)).run w = (releaseEntries run ((e.handle, true) :: done) es).run w := by
  simp only [releaseEntries, h, if_true]

theorem run_releaseEntries_clean (h : skips done e = false) {w₁ : σ} (hr : (run e.action).run w = (none, w₁)) :
    (releaseEntries run done (e :: es)).run w = (releaseEntries run ((e.handle, true) :: done) es).run w₁ := by
  simp only [releaseEntries, h, Bool.false_eq_true, if_false, StateT.run_bind, hr]
  rfl

theorem run_releaseEntries_fail (h : skips done e = false) {w₁ : σ} {f : Failure}
    (hr : (run e.action).run w = (some f, w₁)) :
    (releaseEntries run done (e :: es)).run w =
      ((e.name, f) :: ((releaseEntries run ((e.handle, false) :: done) es).run w₁).1,
        ((releaseEntries run ((e.handle, false) :: done) es).run w₁).2) := by
  simp only [releaseEntries, h, Bool.false_eq_true, if_false, StateT.run_bind, hr]
  rfl

end Run

/-- Every walk is described by its visits: the entries in the order given, each skipped as
`Follows` says, the world replaying exactly the actions that ran, and the failures they gave. --/
theorem releaseEntries_walk (run : ρ → StateM σ (Option Failure)) :
    ∀ (done : List (α × Bool)) (es : List (Entry α ρ)) (w : σ), ∃ vs : List (Entry α ρ × Visit),
      vs.map Prod.fst = es ∧ Follows done vs ∧ Replays run vs w ((releaseEntries run done es).run w).2 ∧
        ((releaseEntries run done es).run w).1 = failuresOf vs
  | _, [], _ => ⟨[], rfl, trivial, rfl, rfl⟩
  | done, e :: es, w => by
    cases hs : skips done e with
    | true =>
      obtain ⟨vs, hmap, hf, hrep, hfs⟩ := releaseEntries_walk run ((e.handle, true) :: done) es w
      rw [run_releaseEntries_skip run done e es w hs]
      exact ⟨(e, .skipped) :: vs, by simp [hmap], ⟨by simp [hs], hf⟩, hrep, by simp [hfs, Visit.failure]⟩
    | false =>
      rcases hr : (run e.action).run w with ⟨_ | f, w₁⟩
      · -- the action ran cleanly: the entry counts as released cleanly for what it owns
        obtain ⟨vs, hmap, hf, hrep, hfs⟩ := releaseEntries_walk run ((e.handle, true) :: done) es w₁
        rw [run_releaseEntries_clean run done e es w hs hr]
        exact ⟨(e, .ran none) :: vs, by simp [hmap], ⟨by simp [hs], hf⟩, ⟨w₁, hr, hrep⟩,
          by simp [hfs, Visit.failure]⟩
      · -- the action failed: its failure is reported first, and what it owns is released itself
        obtain ⟨vs, hmap, hf, hrep, hfs⟩ := releaseEntries_walk run ((e.handle, false) :: done) es w₁
        rw [run_releaseEntries_fail run done e es w hs hr]
        exact ⟨(e, .ran (some f)) :: vs, by simp [hmap], ⟨by simp [hs], hf⟩, ⟨w₁, hr, hrep⟩,
          by simp [hfs, Visit.failure]⟩

/-! ### Releasing a whole ledger -/

/-- A closed ledger releases nothing and reports nothing, whatever the monad. --/
theorem releaseAll_closed {m : Type → Type} [Monad m] (run : ρ → m (Option Failure)) {l : Ledger α ρ}
    (h : l.closed = true) : l.releaseAll run = pure (l, none) := by
  simp [releaseAll, close, h]

/-- The first release walks the entries last acquired first, closes the ledger and reports the
failures of the actions that ran, if there were any. --/
theorem releaseAll_walk (run : ρ → StateM σ (Option Failure)) {l : Ledger α ρ} (h : l.closed = false)
    (w : σ) : ∃ vs : List (Entry α ρ × Visit), vs.map Prod.fst = l.entries.reverse ∧ Follows [] vs ∧
      Replays run vs w ((l.releaseAll run).run w).2 ∧
      ((l.releaseAll run).run w).1 = (⟨[], true⟩, failuresError (failuresOf vs)) := by
  obtain ⟨vs, hmap, hf, hrep, hfs⟩ := releaseEntries_walk run [] l.entries.reverse w
  have hrun : (l.releaseAll run).run w =
      ((⟨[], true⟩, failuresError ((releaseEntries run [] l.entries.reverse).run w).1),
        ((releaseEntries run [] l.entries.reverse).run w).2) := by
    simp only [releaseAll, close, h, Bool.false_eq_true, if_false, StateT.run_bind]
    rfl
  rw [hrun]
  exact ⟨vs, hmap, hf, hrep, by rw [hfs]⟩

/-! ### Who released cleanly -/

/-- What is recorded as released after the visits `pre`, most recent first, on top of `done`. --/
def releasedAfter (done : List (α × Bool)) (pre : List (Entry α ρ × Visit)) : List (α × Bool) :=
  pre.foldl (fun d p => (p.1.handle, p.2.clean) :: d) done

theorem skips_of_owner {done : List (α × Bool)} {e : Entry α ρ} {o : α} (h : e.owner = some o) :
    skips done e = releasedCleanly done o := by
  simp [skips, h]

theorem skips_of_no_owner {done : List (α × Bool)} {e : Entry α ρ} (h : e.owner = none) :
    skips done e = false := by
  simp [skips, h]

theorem follows_append {done : List (α × Bool)} {pre post : List (Entry α ρ × Visit)} :
    Follows done (pre ++ post) ↔ Follows done pre ∧ Follows (releasedAfter done pre) post := by
  induction pre generalizing done with
  | nil => simp [Follows, releasedAfter]
  | cons p pre ih =>
    obtain ⟨e, v⟩ := p
    simp only [List.cons_append, Follows, ih, releasedAfter, List.foldl_cons, and_assoc]

/-- The visit of an entry in the middle of a walk skips exactly when its owner is recorded as
released cleanly by the visits before it. --/
theorem Follows.skipped_iff {done : List (α × Bool)} {pre post : List (Entry α ρ × Visit)}
    {e : Entry α ρ} {v : Visit} (hf : Follows done (pre ++ (e, v) :: post)) :
    v = .skipped ↔ skips (releasedAfter done pre) e = true :=
  (follows_append.mp hf).2.1

@[simp] theorem releasedCleanly_nil (o : α) : releasedCleanly ([] : List (α × Bool)) o = false := rfl

section Lawful
variable [LawfulBEq α]

theorem releasedCleanly_cons_self (o : α) (b : Bool) (done : List (α × Bool)) :
    releasedCleanly ((o, b) :: done) o = b := by
  simp [releasedCleanly]

theorem releasedCleanly_cons_of_ne {h o : α} (hne : h ≠ o) (b : Bool) (done : List (α × Bool)) :
    releasedCleanly ((h, b) :: done) o = releasedCleanly done o := by
  simp [releasedCleanly, hne]

theorem releasedCleanly_after_of_not_mem {o : α} :
    ∀ (done : List (α × Bool)) {pre : List (Entry α ρ × Visit)}, o ∉ pre.map (·.1.handle) →
      releasedCleanly (releasedAfter done pre) o = releasedCleanly done o
  | _, [], _ => rfl
  | done, p :: pre, ho => by
    simp only [List.map_cons, List.mem_cons, not_or] at ho
    have hrest := releasedCleanly_after_of_not_mem ((p.1.handle, p.2.clean) :: done) ho.2
    rw [releasedCleanly_cons_of_ne (Ne.symm ho.1)] at hrest
    exact hrest

/-- After visits of distinct entries, an entry visited among them counts as released cleanly
exactly when its own visit was clean. --/
theorem releasedCleanly_after_of_mem {eo : Entry α ρ} {vo : Visit} :
    ∀ (done : List (α × Bool)) {pre : List (Entry α ρ × Visit)}, (pre.map (·.1.handle)).Nodup →
      (eo, vo) ∈ pre → releasedCleanly (releasedAfter done pre) eo.handle = vo.clean
  | _, [], _, hm => by cases hm
  | done, p :: pre, hd, hm => by
    rw [List.map_cons, List.nodup_cons] at hd
    rcases List.mem_cons.mp hm with rfl | hm
    · -- the visit is the first: the later ones are of other entries
      exact (releasedCleanly_after_of_not_mem _ hd.1).trans (releasedCleanly_cons_self _ _ _)
    · exact releasedCleanly_after_of_mem ((p.1.handle, p.2.clean) :: done) hd.2 hm

end Lawful

/-! ### Walks where owners come first -/

/-- Every owner is visited before what it owns. --/
def OwnersFirst (vs : List (Entry α ρ × Visit)) : Prop :=
  ∀ pre e v post o, vs = pre ++ (e, v) :: post → e.owner = some o → o ∈ pre.map (·.1.handle)

/-- `a` is the nearest ancestor of `e` whose action ran: going up from `e` through owners, every
owner met before `a` was skipped. --/
inductive NearestRun (vs : List (Entry α ρ × Visit)) : Entry α ρ → Entry α ρ × Visit → Prop
  | owner {e eo : Entry α ρ} {r : Option Failure} :
      e.owner = some eo.handle → (eo, .ran r) ∈ vs → NearestRun vs e (eo, .ran r)
  | skipped {e eo : Entry α ρ} {a : Entry α ρ × Visit} :
      e.owner = some eo.handle → (eo, .skipped) ∈ vs → NearestRun vs eo a → NearestRun vs e a

section OwnersFirst
variable [LawfulBEq α] {vs : List (Entry α ρ × Visit)} (hf : Follows [] vs)
  (hd : (vs.map (·.1.handle)).Nodup) (ho : OwnersFirst vs)
include hf hd ho

/-- An entry whose owner was visited first has its action run exactly when it has no owner or
its owner ran and failed: a skipped owner counts as released cleanly. --/
theorem Follows.ran_iff {e : Entry α ρ} {v : Visit} (hv : (e, v) ∈ vs) :
    v ≠ .skipped ↔ e.owner = none ∨ ∃ eo f, (eo, .ran (some f)) ∈ vs ∧ e.owner = some eo.handle := by
  obtain ⟨pre, post, rfl⟩ := List.append_of_mem hv
  have hskip := hf.skipped_iff
  cases hown : e.owner with
  | none =>
    simp only [skips_of_no_owner hown, Bool.false_eq_true, iff_false] at hskip
    simp [hskip]
  | some o =>
    -- the owner's own visit, found before `e`, decides
    obtain ⟨⟨eo, vo⟩, hmem, hoe⟩ := List.mem_map.mp (ho pre e v post o rfl hown)
    simp only at hoe
    subst hoe
    have hdpre : (pre.map (·.1.handle)).Nodup := by
      rw [List.map_append] at hd
      exact (List.nodup_append.mp hd).1
    rw [skips_of_owner hown, releasedCleanly_after_of_mem [] hdpre hmem] at hskip
    have hvs : (eo, vo) ∈ pre ++ (e, v) :: post := List.mem_append_left _ hmem
    simp only [reduceCtorEq, false_or, Option.some.injEq]
    constructor
    · intro hne
      obtain ⟨f, rfl⟩ := Visit.clean_eq_false_iff.mp (by simpa [hne] using hskip)
      exact ⟨eo, f, hvs, rfl⟩
    · rintro ⟨eo', f, hmem', heq⟩ hv'
      have hsame := List.inj_on_of_nodup_map hd hvs hmem' heq
      simp only [Prod.mk.injEq] at hsame
      rw [hv', hsame.2] at hskip
      simp [Visit.clean] at hskip

/-- A skipped entry has a nearest ancestor that ran, and that one succeeded. The induction is on
the place of the entry in the walk: its owner is visited earlier. --/
theorem Follows.nearestRun_of_skipped :
    ∀ (n : Nat) (pre : List (Entry α ρ × Visit)) (e : Entry α ρ) (post : List (Entry α ρ × Visit)),
      pre.length = n → vs = pre ++ (e, .skipped) :: post → ∃ a, NearestRun vs e (a, .ran none) := by
  intro n
  induction n using Nat.strongRecOn with
  | ind n ih =>
    intro pre e post hlen hvs
    have hskip := (hvs ▸ hf).skipped_iff
    cases hown : e.owner with
    | none => simp [skips_of_no_owner hown] at hskip
    | some o =>
      obtain ⟨⟨eo, vo⟩, hmem, hoe⟩ := List.mem_map.mp (ho pre e .skipped post o hvs hown)
      simp only at hoe
      subst hoe
      have hdpre : (pre.map (·.1.handle)).Nodup := by
        rw [hvs, List.map_append] at hd
        exact (List.nodup_append.mp hd).1
      rw [skips_of_owner hown, releasedCleanly_after_of_mem [] hdpre hmem] at hskip
      have hvs' : (eo, vo) ∈ vs := hvs ▸ List.mem_append_left _ hmem
      cases vo with
      | skipped =>
        -- the owner was skipped too: go up from it, one place earlier in the walk
        obtain ⟨pre', mid, rfl⟩ := List.append_of_mem hmem
        obtain ⟨a, ha⟩ := ih pre'.length (by simp [← hlen]) pre' eo (mid ++ (e, .skipped) :: post) rfl
          (by simp [hvs])
        exact ⟨a, .skipped hown hvs' ha⟩
      | ran r =>
        cases r with
        | none => exact ⟨eo, .owner hown hvs'⟩
        | some f => simp [Visit.clean] at hskip

/-- Along a chain of owners, an entry is skipped exactly when the nearest ancestor whose action
ran succeeded. --/
theorem Follows.skipped_iff_nearestRun {e : Entry α ρ} {v : Visit} (hv : (e, v) ∈ vs) :
    v = .skipped ↔ ∃ a, NearestRun vs e (a, .ran none) := by
  constructor
  · rintro rfl
    obtain ⟨pre, post, hvs⟩ := List.append_of_mem hv
    exact hf.nearestRun_of_skipped hd ho pre.length pre e post rfl hvs
  · rintro ⟨a, hn⟩
    by_contra hne
    -- a run entry has an owner that failed, but the nearest ancestor is that owner's one visit
    rcases (hf.ran_iff hd ho hv).mp hne with hnone | ⟨eo', f, hmem', howner'⟩
    · cases hn with
      | owner hown => rw [hown] at hnone; cases hnone
      | skipped hown => rw [hown] at hnone; cases hnone
    · cases hn with
      | owner hown hmem =>
        rw [hown, Option.some.injEq] at howner'
        cases List.inj_on_of_nodup_map hd hmem hmem' howner'
      | skipped hown hmem =>
        rw [hown, Option.some.injEq] at howner'
        cases List.inj_on_of_nodup_map hd hmem hmem' howner'

/-- When no action fails, exactly the entries without an owner have their actions run. --/
theorem Follows.ran_iff_of_clean (hclean : ∀ p ∈ vs, ∀ f, p.2 ≠ .ran (some f)) {e : Entry α ρ}
    {v : Visit} (hv : (e, v) ∈ vs) : v ≠ .skipped ↔ e.owner = none := by
  rw [hf.ran_iff hd ho hv]
  constructor
  · rintro (h | ⟨eo, f, hmem, -⟩)
    · exact h
    · exact absurd rfl (hclean _ hmem f)
  · exact Or.inl

/-- When an owner's action fails, each entry it owns directly has its own action run. --/
theorem Follows.ran_of_owner_failed {eo : Entry α ρ} {f : Failure} (hfail : (eo, .ran (some f)) ∈ vs)
    {e : Entry α ρ} {v : Visit} (hv : (e, v) ∈ vs) (hown : e.owner = some eo.handle) : v ≠ .skipped :=
  (hf.ran_iff hd ho hv).mpr (.inr ⟨eo, f, hfail, hown⟩)

end OwnersFirst

end Telemetry.Ledger
