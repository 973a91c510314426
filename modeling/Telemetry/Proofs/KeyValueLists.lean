import Mathlib.Data.List.TakeDrop
import Telemetry.Proofs.ResourceLayers

/-!
How a `key=value` list is read.

The entries of a list are its comma-separated items, trimmed, with the empty ones left out
(`listEntries`). An entry reads as a pair when the text before its first `=`, trimmed, is a key
that is not empty; its value is the text after that `=`, trimmed and percent-decoded, so a value
may hold further `=` and escaped commas (`EntryReads`). Every other entry is malformed: it has no
`=`, or only blanks before the first one (`Malformed`).

A list whose entries all read is the mapping built by storing its pairs in order, where a key
stored again keeps its first place and takes the new value: the keys are those of the pairs, each
at its first occurrence, and each key maps to the value of its last pair
(`keys_foldl_putPair`, `lookup_foldl_putPair`). Otherwise the first malformed entry is reported,
quoted. The constant headers of an exporter are the mapping of its header list, updated in order
by each header entry that has a value.
-/

namespace Telemetry

/-! ### Cutting an entry at its first `=` -/

/-- An entry that reads as a pair: the text before its first `=`, trimmed, is the key and is not
empty, and the text after it, trimmed and percent-decoded, is the value. --/
def EntryReads (e k v : String) : Prop :=
  ∃ before after : String, e.toList = before.toList ++ '=' :: after.toList ∧ '=' ∉ before.toList ∧
    k = Text.strip before ∧ k ≠ "" ∧ v = Text.percentDecode (Text.strip after)

/-- A malformed entry: it has no `=`, or nothing but blanks before its first `=`. --/
def Malformed (e : String) : Prop :=
  '=' ∉ e.toList ∨
    ∃ before after : String, e.toList = before.toList ++ '=' :: after.toList ∧ '=' ∉ before.toList ∧
      Text.strip before = ""

/-- The entries of a list: its comma-separated items, trimmed, the empty ones left out. --/
def listEntries (s : String) : List String := ((s.splitOn ",").map Text.strip).filter (· ≠ "")

/-- The error reporting a malformed entry of a list of `what`. --/
def entryFault (what e : String) : Fault :=
  .failure ⟨.valueError, "Invalid " ++ what ++ " '" ++ e ++ "', expected key=value"⟩

theorem no_equals_or_first (l : List Char) : '=' ∉ l ∨ ∃ b a, l = b ++ '=' :: a ∧ '=' ∉ b := by
  induction l with
  | nil => exact .inl List.not_mem_nil
  | cons c l ih =>
    by_cases hc : c = '='
    · exact .inr ⟨[], l, by rw [hc]; rfl, List.not_mem_nil⟩
    · rcases ih with hl | ⟨b, a, rfl, hb⟩
      · exact .inl (by simp [hl, Ne.symm hc])
      · exact .inr ⟨c :: b, a, rfl, by simp [hb, Ne.symm hc]⟩

theorem span_not_equals {b rest : List Char} (hb : '=' ∉ b) (hr : rest = [] ∨ ∃ a, rest = '=' :: a) :
    (b ++ rest).span (· != '=') = (b, rest) := by
  have hpos : ∀ c ∈ b, (c != '=') = true := fun c hc => by
    simp only [bne_iff_ne, ne_eq]
    exact fun h => hb (h ▸ hc)
  rw [List.span_eq_takeWhile_dropWhile, List.takeWhile_append_of_pos hpos, List.dropWhile_append_of_pos hpos]
  rcases hr with rfl | ⟨a, rfl⟩
  · simp
  · simp

theorem cutAtEquals_of_no_equals {e : String} (h : '=' ∉ e.toList) : cutAtEquals e = (e, none) := by
  have hspan : (e.toList ++ []).span (· != '=') = (e.toList, []) := span_not_equals h (.inl rfl)
  rw [List.append_nil] at hspan
  simp only [cutAtEquals, hspan, String.ofList_toList]

theorem cutAtEquals_of_split {e b a : String} (h : e.toList = b.toList ++ '=' :: a.toList) (hb : '=' ∉ b.toList) :
    cutAtEquals e = (b, some a) := by
  simp only [cutAtEquals, h, span_not_equals hb (.inr ⟨_, rfl⟩), String.ofList_toList]

theorem entryReads_or_malformed (e : String) : (∃ k v, EntryReads e k v) ∨ Malformed e := by
  rcases no_equals_or_first e.toList with h | ⟨b, a, he, hb⟩
  · exact .inr (.inl h)
  · have he' : e.toList = (String.ofList b).toList ++ '=' :: (String.ofList a).toList := by
      simpa only [String.toList_ofList] using he
    have hb' : '=' ∉ (String.ofList b).toList := by simpa only [String.toList_ofList] using hb
    by_cases hk : Text.strip (String.ofList b) = ""
    · exact .inr (.inr ⟨_, _, he', hb', hk⟩)
    · exact .inl ⟨_, _, _, _, he', hb', rfl, hk, rfl⟩

/-! ### Reading the entries one by one -/

theorem entries_cons_blank {i : String} (is : List String) (hi : Text.strip i = "") :
    ((i :: is).map Text.strip).filter (· ≠ "") = (is.map Text.strip).filter (· ≠ "") := by
  simp [hi]

theorem entries_cons {i : String} (is : List String) (hi : Text.strip i ≠ "") :
    ((i :: is).map Text.strip).filter (· ≠ "") = Text.strip i :: (is.map Text.strip).filter (· ≠ "") := by
  simp [hi]

theorem readEntries_skip {what : String} {acc : List (String × String)} {i : String} (is : List String)
    (h : Text.strip i = "") : readEntries what acc (i :: is) = readEntries what acc is := by
  simp [readEntries, h]

theorem readEntries_reads {what : String} {acc : List (String × String)} {i k v : String} (is : List String)
    (h : EntryReads (Text.strip i) k v) : readEntries what acc (i :: is) = readEntries what (putPair acc k v) is := by
  obtain ⟨b, a, he, hb, rfl, hk, rfl⟩ := h
  have hne : (Text.strip i).isEmpty = false := by
    cases hs : (Text.strip i).isEmpty with
    | false => rfl
    | true =>
      -- an empty entry has no `=`
      rw [String.isEmpty_iff.mp hs] at he
      have hlen := congrArg List.length he
      simp at hlen
  have hkey : (Text.strip b).isEmpty = false := by simpa [String.isEmpty_iff] using hk
  simp only [readEntries, hne, Bool.false_eq_true, ↓reduceIte, cutAtEquals_of_split he hb, hkey]

theorem readEntries_malformed {what : String} {acc : List (String × String)} {i : String} (is : List String)
    (hi : Text.strip i ≠ "") (h : Malformed (Text.strip i)) :
    readEntries what acc (i :: is) = .error (entryFault what (Text.strip i)) := by
  have hne : (Text.strip i).isEmpty = false := by simpa [String.isEmpty_iff] using hi
  rcases h with h | ⟨b, a, he, hb, hk⟩
  · simp only [readEntries, hne, Bool.false_eq_true, ↓reduceIte, cutAtEquals_of_no_equals h, entryFault]
  · have hkey : (Text.strip b).isEmpty = true := String.isEmpty_iff.mpr hk
    simp only [readEntries, hne, Bool.false_eq_true, ↓reduceIte, cutAtEquals_of_split he hb, hkey, entryFault]

/-- When every entry reads, the pairs are stored in order. The induction is on the items of the
list; an empty item is passed over and is no entry. --/
theorem readEntries_of_reads {what : String} :
    ∀ {items : List String} {pairs : List (String × String)} (acc : List (String × String)),
      List.Forall₂ (fun e p => EntryReads e p.1 p.2) ((items.map Text.strip).filter (· ≠ "")) pairs →
      readEntries what acc items = .ok (pairs.foldl (fun acc p => putPair acc p.1 p.2) acc)
  | [], pairs, acc, h => by
    cases h
    rfl
  | i :: is, pairs, acc, h => by
    by_cases hi : Text.strip i = ""
    · rw [readEntries_skip is hi]
      rw [entries_cons_blank is hi] at h
      exact readEntries_of_reads acc h
    · rw [entries_cons is hi] at h
      obtain ⟨p, ps, hp, hps, rfl⟩ := List.forall₂_cons_left_iff.mp h
      rw [readEntries_reads is hp, List.foldl_cons]
      exact readEntries_of_reads _ hps

/-- The first malformed entry is reported, whatever follows it. --/
theorem readEntries_of_malformed {what : String} {e : String} (he : Malformed e) :
    ∀ {items good rest : List String} (acc : List (String × String)),
      (items.map Text.strip).filter (· ≠ "") = good ++ e :: rest → (∀ g ∈ good, ∃ k v, EntryReads g k v) →
      readEntries what acc items = .error (entryFault what e)
  | [], good, rest, acc, h, _ => by
    cases good <;> cases h
  | i :: is, good, rest, acc, h, hgood => by
    by_cases hi : Text.strip i = ""
    · rw [readEntries_skip is hi]
      rw [entries_cons_blank is hi] at h
      exact readEntries_of_malformed he acc h hgood
    · rw [entries_cons is hi] at h
      cases good with
      | nil =>
        obtain ⟨rfl, -⟩ := List.cons.inj h
        exact readEntries_malformed is hi he
      | cons g good =>
        obtain ⟨rfl, hrest⟩ := List.cons.inj h
        obtain ⟨k, v, hkv⟩ := hgood _ List.mem_cons_self
        rw [readEntries_reads is hkv]
        exact readEntries_of_malformed he _ hrest fun g' hg' => hgood g' (List.mem_cons_of_mem _ hg')

theorem listEntries_empty : listEntries "" = [] := by
  have hsplit : "".splitOn "," = [""] := by
    unfold String.splitOn
    rw [String.splitOnAux]
    rfl
  simp [listEntries, hsplit, Text.strip, Text.trimBy]

theorem parseKeyValueList_eq_readEntries (s what : String) :
    parseKeyValueList (some s) what = readEntries what [] (s.splitOn ",") := by
  dsimp only [parseKeyValueList]
  by_cases hs : s.isEmpty = true
  · rw [if_pos hs]
    have hnil := listEntries_empty
    rw [← String.isEmpty_iff.mp hs] at hnil
    exact (readEntries_of_reads [] (by rw [listEntries] at hnil; rw [hnil]; exact List.Forall₂.nil)).symm
  · rw [if_neg hs]

/-! ### Storing pairs in order -/

theorem mem_keys_of_any {β : Type} {acc : List (String × β)} {k : String} (h : acc.any (·.1 == k) = true) :
    k ∈ acc.map Prod.fst := by
  obtain ⟨q, hq, hqk⟩ := List.any_eq_true.mp h
  exact List.mem_map.mpr ⟨q, hq, by simpa using hqk⟩

theorem lookup_eq_none_of_not_any {β : Type} {acc : List (String × β)} {k : String}
    (h : ¬acc.any (·.1 == k) = true) : acc.lookup k = none := by
  rw [List.lookup_eq_none_iff]
  intro q hq
  simp only [bne_iff_ne, ne_eq]
  intro hqk
  exact h (List.any_eq_true.mpr ⟨q, hq, by simp [hqk]⟩)

theorem lookup_map_replace_of_ne {β : Type} (acc : List (String × β)) {k x : String} (hx : x ≠ k) (v : β) :
    (acc.map fun p => if p.1 == k then (k, v) else p).lookup x = acc.lookup x := by
  induction acc with
  | nil => rfl
  | cons p acc ih =>
    obtain ⟨k', v'⟩ := p
    rw [List.map_cons]
    by_cases hk' : k' = k
    · subst hk'
      have hxk : (x == k') = false := beq_eq_false_iff_ne.mpr hx
      rw [if_pos (beq_self_eq_true k'), List.lookup_cons, List.lookup_cons, hxk]
      exact ih
    · rw [if_neg (by simpa using hk'), List.lookup_cons, List.lookup_cons]
      cases x == k' with
      | true => rfl
      | false => exact ih

theorem lookup_map_replace_self {β : Type} {acc : List (String × β)} {k : String} (hk : k ∈ acc.map Prod.fst) (v : β) :
    (acc.map fun p => if p.1 == k then (k, v) else p).lookup k = some v := by
  induction acc with
  | nil => cases hk
  | cons p acc ih =>
    obtain ⟨k', v'⟩ := p
    rw [List.map_cons]
    by_cases hk' : k' = k
    · subst hk'
      rw [if_pos (beq_self_eq_true k'), List.lookup_cons, beq_self_eq_true]
    · have hkk : (k == k') = false := beq_eq_false_iff_ne.mpr (Ne.symm hk')
      have hrest : k ∈ acc.map Prod.fst := by
        rcases List.mem_cons.mp hk with h | h
        · exact absurd h.symm hk'
        · exact h
      rw [if_neg (by simpa using hk'), List.lookup_cons, hkk]
      exact ih hrest

theorem lookup_putPair (acc : List (String × String)) (k v x : String) :
    (putPair acc k v).lookup x = if x = k then some v else acc.lookup x := by
  unfold putPair
  split
  · next hk =>
    by_cases hx : x = k
    · subst hx
      rw [if_pos rfl, lookup_map_replace_self (mem_keys_of_any hk)]
    · rw [if_neg hx, lookup_map_replace_of_ne acc hx]
  · next hk =>
    rw [List.lookup_append]
    by_cases hx : x = k
    · subst hx
      simp [lookup_eq_none_of_not_any hk]
    · have hxk : (x == k) = false := beq_eq_false_iff_ne.mpr hx
      simp [hx, hxk, List.lookup_cons]

/-- A key maps to the value of its last pair, or else to what it mapped to before. --/
theorem lookup_foldl_putPair (ps acc : List (String × String)) (x : String) :
    (ps.foldl (fun acc p => putPair acc p.1 p.2) acc).lookup x = (ps.reverse.lookup x).or (acc.lookup x) := by
  induction ps generalizing acc with
  | nil => simp
  | cons p ps ih =>
    obtain ⟨k, v⟩ := p
    rw [List.foldl_cons, ih, lookup_putPair, List.reverse_cons, List.lookup_append]
    by_cases hx : x = k
    · subst hx
      cases ps.reverse.lookup x <;> simp
    · have hxk : (x == k) = false := beq_eq_false_iff_ne.mpr hx
      simp [hx, hxk, List.lookup_cons]

theorem eraseDups_eq_self {l : List String} (h : l.Nodup) : l.eraseDups = l := by
  induction l with
  | nil => rfl
  | cons a l ih =>
    obtain ⟨ha, hl⟩ := List.nodup_cons.mp h
    rw [List.eraseDups_cons, List.filter_eq_self.mpr, ih hl]
    intro b hb
    simp only [Bool.not_eq_eq_eq_not, Bool.not_true, beq_eq_false_iff_ne, ne_eq]
    exact fun hab => ha (hab ▸ hb)

/-- The keys are those of the pairs, each where it first occurs. --/
theorem keys_foldl_putPair (ps acc : List (String × String)) (h : (acc.map Prod.fst).Nodup) :
    (ps.foldl (fun acc p => putPair acc p.1 p.2) acc).map Prod.fst = (acc.map Prod.fst ++ ps.map Prod.fst).eraseDups := by
  induction ps generalizing acc with
  | nil => simp [eraseDups_eq_self h]
  | cons p ps ih =>
    rw [List.foldl_cons, ih _ (nodup_putPair h _ _)]
    unfold putPair
    split
    · next hk =>
      -- a key stored again keeps its place, so it adds nothing to the keys
      rw [keys_map_replace, List.map_cons, List.eraseDups_append, List.eraseDups_append]
      congr 2
      simp [List.removeAll, mem_keys_of_any hk]
    · rw [List.map_append, List.map_cons, List.map_nil, List.append_assoc, List.singleton_append]
      rfl

/-! ### Constant headers -/

/-- The constant headers: the header list, updated in order by each header entry with a value. --/
theorem headerPairs_eq (o : Components.OtlpSettings) :
    o.headerPairs = (fun listed => (o.headers.filterMap fun h => h.value.map (h.name, ·)).foldl
      (fun acc p => putPair acc p.1 p.2) listed) <$> parseKeyValueList o.headersList "header" := by
  unfold Components.OtlpSettings.headerPairs
  rw [map_eq_pure_bind]
  congr 1
  funext listed
  rw [List.foldl_filterMap]
  congr 2
  funext acc h
  cases h.value <;> rfl

/-- How a `key=value` list is read, for every text: the entries that all read give the mapping of
their pairs stored in order, keys at their first place with their last values; otherwise the first
malformed entry is reported; every entry is one or the other; an unset list is empty; and the
constant headers update the header list by the header entries that have a value. --/
structure KeyValueLaws : Prop where
  unset : ∀ what, parseKeyValueList none what = .ok []
  reads : ∀ s what (pairs : List (String × String)),
    List.Forall₂ (fun e p => EntryReads e p.1 p.2) (listEntries s) pairs →
      ∃ r, parseKeyValueList (some s) what = .ok r ∧ r = pairs.foldl (fun acc p => putPair acc p.1 p.2) [] ∧
        r.map Prod.fst = (pairs.map Prod.fst).eraseDups ∧ ∀ k, r.lookup k = pairs.reverse.lookup k
  malformed : ∀ s what good e rest, listEntries s = good ++ e :: rest → (∀ g ∈ good, ∃ k v, EntryReads g k v) →
    Malformed e → parseKeyValueList (some s) what = .error (entryFault what e)
  entries : ∀ e, (∃ k v, EntryReads e k v) ∨ Malformed e
  headers : ∀ o : Components.OtlpSettings, o.headerPairs =
    (fun listed => (o.headers.filterMap fun h => h.value.map (h.name, ·)).foldl
      (fun acc p => putPair acc p.1 p.2) listed) <$> parseKeyValueList o.headersList "header"

theorem keyValueList_laws : KeyValueLaws where
  unset := parseKeyValueList_none
  reads s what pairs h := by
    refine ⟨_, ?_, rfl, ?_, fun k => ?_⟩
    · rw [parseKeyValueList_eq_readEntries]
      exact readEntries_of_reads [] h
    · simpa using keys_foldl_putPair pairs [] List.nodup_nil
    · simp [lookup_foldl_putPair]
  malformed s what good e rest h hgood he := by
    rw [parseKeyValueList_eq_readEntries]
    exact readEntries_of_malformed he [] h hgood
  entries := entryReads_or_malformed
  headers := headerPairs_eq

end Telemetry
