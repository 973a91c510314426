import Telemetry.Sorting.Merge

/-!
An adaptive merge sort with a comparison that may fail: it finds the sorted runs already in the
keys and merges them, and stops at the first comparison that fails.

The keys are walked once from the left. Each step finds the run that starts there, ascending or
strictly descending (a descending run is turned around), and a run shorter than `minRun` keys is
made that long by binary insertion of the keys after it. A new run is given a power: the depth, in
a tree that halves the whole list, of the boundary between it and the run before. Runs on the
stack with a greater power than the new boundary are merged first, so the merges follow that
tree; at the end the stack is merged from the top. Two runs are merged by `mergeLow` or
`mergeHigh`, after the keys that are already in place at either end are set aside by gallops.

Equal keys keep their order. Since every comparison can fail, the failure of a sort is the
failure of the first comparison it makes, in this order.
-/

namespace Telemetry.Sorting

/-- A run on the stack: where it starts, how many keys it has, and the power of its boundary with
the run after it. --/
structure Run where
  base : Nat
  len : Nat
  power : Nat
  deriving Inhabited, Repr

/-- The state of a sort: the keys, the runs waiting to be merged, and the gallop threshold that
merges hand on to each other. --/
structure Sorter (α : Type) where
  keys : Array α
  pending : Array Run
  gallop : Nat

variable {α ε : Type} [Inhabited α]

/-! ### Runs -/

/-- Where the run that goes on at `i` ends, before `hi`: a descending run goes on while each key
is below the one before it, an ascending one while none is. --/
def runEnd (less : Less α ε) (keys : Array α) (descending : Bool) (hi i : Nat) : Except ε Nat :=
  if i < hi then do
    let below ← less (keys.getD i default) (keys.getD (i - 1) default)
    if below == descending then runEnd less keys descending hi (i + 1) else pure i
  else pure i
termination_by hi - i

/-- The run that starts at `lo`, before `hi`: its length and whether it is strictly descending.
Its second key decides which kind it is. --/
def countRun (less : Less α ε) (keys : Array α) (lo hi : Nat) : Except ε (Nat × Bool) :=
  if lo + 1 < hi then do
    let descending ← less (keys.getD (lo + 1) default) (keys.getD lo default)
    let stop ← runEnd less keys descending hi (lo + 2)
    pure (stop - lo, descending)
  else pure (1, false)

/-- Insert each key of `rest`, in order, into the sorted keys by binary insertion. --/
def insertEach (less : Less α ε) (sorted : Array α) : List α → Except ε (Array α)
  | [] => pure sorted
  | pivot :: rest => do
    let place ← insertionPlace less sorted pivot
    insertEach less ((sorted.extract 0 place).push pivot ++ sorted.extract place sorted.size) rest

/-- The shortest run the sort makes of a list of `n` keys, `carry` telling whether a bit has been
dropped: `n` itself below 64, else the top six bits of `n`, one more if any bit below them is
set. --/
def minRunWith (carry : Bool) (n : Nat) : Nat :=
  if n < 64 then n + (if carry then 1 else 0)
  else minRunWith (carry || n % 2 == 1) (n / 2)
termination_by n
decreasing_by omega

/-- The shortest run the sort makes of a list of `n` keys. --/
def minRun (n : Nat) : Nat := minRunWith false n

/-! ### The merge policy -/

/-- The power of a boundary, from twice the middles `a` and `b` of the runs on either side: the
first bit at which `a / 2n` and `b / 2n` differ, counting from one. --/
def powerLoop (n : Nat) : Nat → Nat → Nat → Nat → Nat
  | 0, _, _, result => result
  | fuel + 1, a, b, result =>
    if a ≥ n then powerLoop n fuel (2 * (a - n)) (2 * (b - n)) (result + 1)
    else if b ≥ n then result + 1
    else powerLoop n fuel (2 * a) (2 * b) (result + 1)

/-- The power of the boundary between a run of `n1` keys from `s1` and the `n2` keys after it, in
a list of `n` keys. --/
def boundaryPower (s1 n1 n2 n : Nat) : Nat :=
  powerLoop n (n + 2) (2 * s1 + n1) (2 * s1 + n1 + n1 + n2) 0

namespace Sorter

/-- The run at a place on the stack. --/
def runAt (s : Sorter α) (i : Nat) : Run := s.pending.getD i default

/-- Merge the runs at places `i` and `i + 1` of the stack. The keys of the left run below the
right run's first key, and those of the right run above the left run's last key, stay where they
are; the rest is merged from the side of the shorter part. --/
def mergeAt (less : Less α ε) (s : Sorter α) (i : Nat) : Except ε (Sorter α) := do
  let ra := s.runAt i
  let rb := s.runAt (i + 1)
  let pending := (s.pending.modify i (fun r => { r with len := ra.len + rb.len })).extract 0 (i + 1) ++
    s.pending.extract (i + 2) s.pending.size
  let s := { s with pending }
  let a := s.keys.extract ra.base (ra.base + ra.len)
  let b := s.keys.extract rb.base (rb.base + rb.len)
  let k ← gallopRight less (b.getD 0 default) (fun t => a.getD t default) a.size 0
  if k ≥ a.size then pure s
  else
    let a := a.extract k a.size
    let nb ← gallopLeft less (a.getD (a.size - 1) default) (fun t => b.getD t default) b.size (b.size - 1)
    if nb == 0 then pure s
    else
      let b' := b.extract 0 nb
      let (merged, gallop) ← if a.size ≤ nb then mergeLow less a b' s.gallop else mergeHigh less a b' s.gallop
      pure { s with keys := s.keys.extract 0 (ra.base + k) ++ merged ++ s.keys.extract (rb.base + nb) s.keys.size,
                    gallop }

/-- Merge the top two runs while the one below the top has a greater power than `power`, at most
`fuel` times. --/
def mergeAbove (less : Less α ε) (power : Nat) : Nat → Sorter α → Except ε (Sorter α)
  | 0, s => pure s
  | fuel + 1, s =>
    if s.pending.size > 1 && (s.runAt (s.pending.size - 2)).power > power then do
      mergeAbove less power fuel (← s.mergeAt less (s.pending.size - 2))
    else pure s

/-- Before a new run of `n2` keys goes on the stack: give the boundary between the top run and
the new one its power, after merging the runs that lie deeper in the tree. --/
def foundRun (less : Less α ε) (n n2 : Nat) (s : Sorter α) : Except ε (Sorter α) := do
  if s.pending.isEmpty then pure s
  else
    let top := s.runAt (s.pending.size - 1)
    let power := boundaryPower top.base top.len n2 n
    let s ← s.mergeAbove less power s.pending.size
    pure { s with pending := s.pending.modify (s.pending.size - 1) (fun r => { r with power }) }

/-- Merge every run on the stack, at most `fuel` times: the top two, or the two below them when
the third from the top is shorter than the top one. --/
def mergeAll (less : Less α ε) : Nat → Sorter α → Except ε (Sorter α)
  | 0, s => pure s
  | fuel + 1, s =>
    if s.pending.size > 1 then do
      let i := s.pending.size - 2
      let i := if i > 0 && (s.runAt (i - 1)).len < (s.runAt (i + 1)).len then i - 1 else i
      mergeAll less fuel (← s.mergeAt less i)
    else pure s

/-- Find the runs from `lo` on in a list of `n` keys, at most `fuel` of them, making each at least
`least` keys long, and put them on the stack. --/
def findRuns (less : Less α ε) (n least : Nat) : Nat → Sorter α → Nat → Except ε (Sorter α)
  | 0, s, _ => pure s
  | fuel + 1, s, lo =>
    if lo < n then do
      let (k, descending) ← countRun less s.keys lo n
      let s := if descending then
          { s with keys := s.keys.extract 0 lo ++ (s.keys.extract lo (lo + k)).reverse ++
              s.keys.extract (lo + k) s.keys.size }
        else s
      let (s, k) ← if k < least then do
          let force := min (n - lo) least
          let run ← insertEach less (s.keys.extract lo (lo + k)) (s.keys.extract (lo + k) (lo + force)).toList
          pure ({ s with keys := s.keys.extract 0 lo ++ run ++ s.keys.extract (lo + force) s.keys.size }, force)
        else pure (s, k)
      let s ← s.foundRun less n k
      findRuns less n least fuel { s with pending := s.pending.push ⟨lo, k, 0⟩ } (lo + max k 1)
    else pure s

end Sorter

/-- Sort keys with a comparison that may fail: the keys in ascending order, equal keys in their
order, or the failure of the first comparison that fails. --/
def sortBy (less : Less α ε) (xs : List α) : Except ε (List α) :=
  let n := xs.length
  if n < 2 then pure xs
  else do
    let s ← Sorter.findRuns less n (minRun n) (n + 1) ⟨xs.toArray, #[], minGallop⟩ 0
    let s ← Sorter.mergeAll less s.pending.size s
    pure s.keys.toList

theorem sortBy_short (less : Less α ε) (xs : List α) (h : xs.length < 2) : sortBy less xs = .ok xs := by
  simp [sortBy, h, pure, Except.pure]

theorem minRun_small (n : Nat) (h : n < 64) : minRun n = n := by
  simp [minRun, minRunWith, h]

end Telemetry.Sorting
