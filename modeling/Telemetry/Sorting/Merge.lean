import Telemetry.Sorting.Search

/-!
Merging two adjacent sorted runs, with a comparison that may fail, the way an adaptive merge sort
merges them: from the left when the left run is the shorter one, from the right otherwise.

A merge compares the front keys of the two runs one pair at a time, and counts how often in a row
the same run wins. Once one run has won `gallop` times in a row, it gallops instead: it finds by a
gallop how many keys of each run go before the other's next key, and moves them all at once. It
goes back to single steps when neither run wins by `minGallop` keys or more at a time. The
threshold adapts: every gallop lowers it by one, down to one, and every return to single steps
raises it by one, and the merge hands on the threshold it ended with.

On ties the left run wins, so equal keys keep their order. Every step places at least one key,
which bounds the steps by the keys of the two runs.
-/

namespace Telemetry.Sorting

/-- The wins in a row after which a merge gallops, when it starts. --/
def minGallop : Nat := 7

/-- Where a merge is: placing one key at a time, with the current wins in a row of each run, or
galloping. --/
inductive Phase where
  | single (leftWins rightWins : Nat)
  | galloping
  deriving DecidableEq, Repr

variable {α ε : Type} [Inhabited α]

/-! ### From the left -/

/-- A merge from the left: the keys placed so far, the rest of each run from its cursor, and the
wins in a row that start a gallop. --/
structure LowMerge (α : Type) where
  placed : Array α
  left : Array α
  i : Nat
  right : Array α
  j : Nat
  gallop : Nat

namespace LowMerge

/-- The keys left in the left run. --/
def leftCount (m : LowMerge α) : Nat := m.left.size - m.i

/-- The keys left in the right run. --/
def rightCount (m : LowMerge α) : Nat := m.right.size - m.j

/-- The next key of the left run. --/
def leftKey (m : LowMerge α) : α := m.left.getD m.i default

/-- The next key of the right run. --/
def rightKey (m : LowMerge α) : α := m.right.getD m.j default

/-- Place the next `k` keys of the left run. --/
def takeLeft (m : LowMerge α) (k : Nat) : LowMerge α :=
  { m with placed := m.placed ++ m.left.extract m.i (m.i + k), i := m.i + k }

/-- Place the next `k` keys of the right run. --/
def takeRight (m : LowMerge α) (k : Nat) : LowMerge α :=
  { m with placed := m.placed ++ m.right.extract m.j (m.j + k), j := m.j + k }

/-- The merged keys when a run is used up: the keys placed, then the rest of the left run, then
the rest of the right run. --/
def finished (m : LowMerge α) : Array α × Nat :=
  (m.placed ++ m.left.extract m.i m.left.size ++ m.right.extract m.j m.right.size, m.gallop)

/-- The merged keys when one key of the left run is left: it is above every key of the right run
that is left, and goes last. --/
def lastFromLeft (m : LowMerge α) : Array α × Nat :=
  (m.placed ++ m.right.extract m.j m.right.size ++ m.left.extract m.i m.left.size, m.gallop)

/-- Go on with a merge from the left for at most `fuel` steps. --/
def run (less : Less α ε) : Nat → LowMerge α → Phase → Except ε (Array α × Nat)
  | 0, m, _ => pure m.finished
  | fuel + 1, m, .single lw rw => do
    if ← less m.rightKey m.leftKey then
      let m := m.takeRight 1
      if m.rightCount == 0 then pure m.finished
      else if rw + 1 ≥ m.gallop then run less fuel { m with gallop := m.gallop + 1 } .galloping
      else run less fuel m (.single 0 (rw + 1))
    else
      let m := m.takeLeft 1
      if m.leftCount == 1 then pure m.lastFromLeft
      else if lw + 1 ≥ m.gallop then run less fuel { m with gallop := m.gallop + 1 } .galloping
      else run less fuel m (.single (lw + 1) 0)
  | fuel + 1, m, .galloping => do
    let m := { m with gallop := if m.gallop > 1 then m.gallop - 1 else m.gallop }
    let k ← gallopRight less m.rightKey (fun t => m.left.getD (m.i + t) default) m.leftCount 0
    let m := m.takeLeft k
    if m.leftCount == 1 then pure m.lastFromLeft
    else if m.leftCount == 0 then pure m.finished
    else
      let m := m.takeRight 1
      if m.rightCount == 0 then pure m.finished
      else
        let k' ← gallopLeft less m.leftKey (fun t => m.right.getD (m.j + t) default) m.rightCount 0
        let m := m.takeRight k'
        if m.rightCount == 0 then pure m.finished
        else
          let m := m.takeLeft 1
          if m.leftCount == 1 then pure m.lastFromLeft
          else if k ≥ minGallop || k' ≥ minGallop then run less fuel m .galloping
          else run less fuel { m with gallop := m.gallop + 1 } (.single 0 0)

end LowMerge

/-- Merge two adjacent sorted runs from the left, the left one no longer than the right one; the
first key of the right run is known to go first. The answer is the merged keys and the gallop
threshold the merge ended with. --/
def mergeLow (less : Less α ε) (left right : Array α) (gallop : Nat) : Except ε (Array α × Nat) :=
  let m : LowMerge α := ⟨#[right.getD 0 default], left, 0, right, 1, gallop⟩
  if m.rightCount == 0 then pure m.finished
  else if m.leftCount == 1 then pure m.lastFromLeft
  else m.run less (left.size + right.size) (.single 0 0)

/-! ### From the right -/

/-- A merge from the right: the keys placed so far, the last first, the part of each run that is
left, a prefix of it, and the wins in a row that start a gallop. --/
structure HighMerge (α : Type) where
  placed : Array α
  left : Array α
  leftCount : Nat
  right : Array α
  rightCount : Nat
  gallop : Nat

namespace HighMerge

/-- The last key left in the left run. --/
def leftKey (m : HighMerge α) : α := m.left.getD (m.leftCount - 1) default

/-- The last key left in the right run. --/
def rightKey (m : HighMerge α) : α := m.right.getD (m.rightCount - 1) default

/-- Place the last `k` keys left in the left run, the last one first. --/
def takeLeft (m : HighMerge α) (k : Nat) : HighMerge α :=
  { m with placed := m.placed ++ (m.left.extract (m.leftCount - k) m.leftCount).reverse,
           leftCount := m.leftCount - k }

/-- Place the last `k` keys left in the right run, the last one first. --/
def takeRight (m : HighMerge α) (k : Nat) : HighMerge α :=
  { m with placed := m.placed ++ (m.right.extract (m.rightCount - k) m.rightCount).reverse,
           rightCount := m.rightCount - k }

/-- The merged keys when the merge ends: what is left of the right run, then what is left of the
left run, then the keys placed, in order. At most one key of the right run is left unless the left
run is used up. --/
def finished (m : HighMerge α) : Array α × Nat :=
  (m.right.extract 0 m.rightCount ++ m.left.extract 0 m.leftCount ++ m.placed.reverse, m.gallop)

/-- Go on with a merge from the right for at most `fuel` steps. --/
def run (less : Less α ε) : Nat → HighMerge α → Phase → Except ε (Array α × Nat)
  | 0, m, _ => pure m.finished
  | fuel + 1, m, .single lw rw => do
    if ← less m.rightKey m.leftKey then
      let m := m.takeLeft 1
      if m.leftCount == 0 then pure m.finished
      else if lw + 1 ≥ m.gallop then run less fuel { m with gallop := m.gallop + 1 } .galloping
      else run less fuel m (.single (lw + 1) 0)
    else
      let m := m.takeRight 1
      if m.rightCount == 1 then pure m.finished
      else if rw + 1 ≥ m.gallop then run less fuel { m with gallop := m.gallop + 1 } .galloping
      else run less fuel m (.single 0 (rw + 1))
  | fuel + 1, m, .galloping => do
    let m := { m with gallop := if m.gallop > 1 then m.gallop - 1 else m.gallop }
    let p ← gallopRight less m.rightKey (fun t => m.left.getD t default) m.leftCount (m.leftCount - 1)
    let k := m.leftCount - p
    let m := m.takeLeft k
    if m.leftCount == 0 then pure m.finished
    else
      let m := m.takeRight 1
      if m.rightCount == 1 then pure m.finished
      else
        let p' ← gallopLeft less m.leftKey (fun t => m.right.getD t default) m.rightCount (m.rightCount - 1)
        let k' := m.rightCount - p'
        let m := m.takeRight k'
        if m.rightCount ≤ 1 then pure m.finished
        else
          let m := m.takeLeft 1
          if m.leftCount == 0 then pure m.finished
          else if k ≥ minGallop || k' ≥ minGallop then run less fuel m .galloping
          else run less fuel { m with gallop := m.gallop + 1 } (.single 0 0)

end HighMerge

/-- Merge two adjacent sorted runs from the right, the right one shorter than the left one; the
last key of the left run is known to go last. The answer is the merged keys and the gallop
threshold the merge ended with. --/
def mergeHigh (less : Less α ε) (left right : Array α) (gallop : Nat) : Except ε (Array α × Nat) :=
  let m : HighMerge α :=
    ⟨#[left.getD (left.size - 1) default], left, left.size - 1, right, right.size, gallop⟩
  if m.leftCount == 0 then pure m.finished
  else if m.rightCount == 1 then pure m.finished
  else m.run less (left.size + right.size) (.single 0 0)

theorem mergeLow_right_single (less : Less α ε) (left : Array α) (r : α) (gallop : Nat) :
    mergeLow less left #[r] gallop = .ok (#[r] ++ left, gallop) := by
  simp [mergeLow, LowMerge.rightCount, LowMerge.finished, pure, Except.pure]

theorem mergeHigh_left_single (less : Less α ε) (l : α) (right : Array α) (gallop : Nat) :
    mergeHigh less #[l] right gallop = .ok (right ++ #[l], gallop) := by
  simp [mergeHigh, HighMerge.finished, pure, Except.pure]

end Telemetry.Sorting
