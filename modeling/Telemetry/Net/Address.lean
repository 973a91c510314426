/-!
Internet addresses written as text, read strictly.

An IPv4 address is four decimal octets joined by dots, each at most 255, written with at most
three ASCII digits and without a leading zero. An IPv6 address is eight groups of at most four
hexadecimal digits joined by colons; one run of groups may be left out as `::`, the last two
groups may be written as an IPv4 address, and a zone may follow a `%`.
-/

namespace Telemetry.Net

/-- The pieces of a text between the occurrences of `sep`; a text without one is one piece. --/
def pieces (sep : Char) : List Char → List (List Char)
  | [] => [[]]
  | c :: cs =>
    if c == sep then [] :: pieces sep cs
    else match pieces sep cs with
      | p :: ps => (c :: p) :: ps
      | [] => [[c]]

/-! ### IPv4 -/

/-- The value of a decimal octet: one to three ASCII digits, no leading zero, at most 255. --/
def octet? (cs : List Char) : Option Nat :=
  if cs.isEmpty || cs.length > 3 || !cs.all Char.isDigit then none
  else if cs.length > 1 && cs.head? == some '0' then none
  else
    let n := cs.foldl (fun n c => n * 10 + (c.toNat - '0'.toNat)) 0
    if n > 255 then none else some n

/-- The octets of an IPv4 address. --/
def ipv4? (cs : List Char) : Option (List Nat) :=
  let ps := pieces '.' cs
  if ps.length != 4 then none else ps.mapM octet?

/-! ### IPv6 -/

/-- Whether a character is a hexadecimal digit. --/
def isHexDigit (c : Char) : Bool :=
  c.isDigit || ('a' ≤ c && c ≤ 'f') || ('A' ≤ c && c ≤ 'F')

/-- Whether a group is one to four hexadecimal digits. --/
def validGroup (cs : List Char) : Bool :=
  !cs.isEmpty && cs.length ≤ 4 && cs.all isHexDigit

/-- The groups of an address whose last piece may be an IPv4 address, that address standing for
two groups. --/
def withIPv4Tail (ps : List (List Char)) : Option (List (List Char)) :=
  match ps.getLast? with
  | some last =>
    if last.contains '.' then
      (ipv4? last).map fun _ => ps.dropLast ++ ["0".toList, "0".toList]
    else some ps
  | none => some ps

/-- The places of the empty pieces, the first and last piece aside. --/
def innerGaps (ps : List (List Char)) : List Nat :=
  ((List.range ps.length).filter fun i => 0 < i && i + 1 < ps.length && (ps.getD i []).isEmpty)

/-- Whether the groups of an address, without its zone, are well formed. --/
def validGroups (ps : List (List Char)) : Bool :=
  if ps.length < 3 || ps.length > 9 then false
  else
    let first := ps.headD []
    let last := ps.getLastD []
    match innerGaps ps with
    | [] => ps.length == 8 && ps.all validGroup
    | [gap] =>
      let hi := ps.take gap
      let lo := ps.drop (gap + 1)
      let hi := if first.isEmpty then (if hi.length == 1 then some [] else none) else some hi
      let lo := if last.isEmpty then (if lo.length == 1 then some [] else none) else some lo
      match hi, lo with
      | some hi, some lo => hi.length + lo.length < 8 && hi.all validGroup && lo.all validGroup
      | _, _ => false
    | _ => false

/-- Whether a text is an IPv6 address, possibly with a zone after `%`. --/
def isIPv6 (cs : List Char) : Bool :=
  let (addr, zone) := cs.span (· != '%')
  let zoneOk := match zone with
    | [] => true
    | _ :: z => !z.isEmpty && !z.contains '%'
  zoneOk && !addr.isEmpty &&
    match withIPv4Tail (pieces ':' addr) with
    | some ps => (pieces ':' addr).length ≥ 3 && validGroups ps
    | none => false

/-- What a text stands for as an address. --/
inductive Address where
  | v4
  | v6
  | none
  deriving DecidableEq, Repr

/-- Read a text as an address: IPv4 first, then IPv6. --/
def Address.read (s : String) : Address :=
  let cs := s.toList
  if (ipv4? cs).isSome then .v4 else if isIPv6 cs then .v6 else .none

theorem pieces_length (sep : Char) (cs : List Char) :
    (pieces sep cs).length = (cs.filter (· == sep)).length + 1 := by
  induction cs with
  | nil => rfl
  | cons c cs ih =>
    by_cases h : c = sep
    · simp [pieces, h, ih]
    · have hne : (c == sep) = false := by simp [h]
      simp only [pieces, hne, List.filter_cons]
      cases hp : pieces sep cs with
      | nil => simp [hp] at ih
      | cons p ps => simp [← ih, hp]

example : ipv4? "127.0.0.1".toList = some [127, 0, 0, 1] := by decide

end Telemetry.Net
