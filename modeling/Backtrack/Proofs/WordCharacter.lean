import Backtrack.Unicode.Blank
import Backtrack.Unicode.WordCharacter

/-!
# White space and words

No white space is a word character, and the characters of names in ASCII are:
`not_isWordCharacter_of_isBlank`, `isWordCharacter_of_ascii`. The classes are unions of
rows of the tables, and a union has the members of its parts.
-/

namespace Backtrack

namespace CharSet

/-- Ranges in order of their first code point keep their members when those that touch are joined. -/
theorem any_joinFrom (r : CodeRange) (rs : List CodeRange) (n : Nat)
    (sorted : (r :: rs).Pairwise fun a b => a.first ≤ b.first) :
    (joinFrom r rs).any (·.contains n) = (r :: rs).any (·.contains n) := by
  induction rs generalizing r with
  | nil => rfl
  | cons next rest ih =>
    obtain ⟨first, sorted⟩ := List.pairwise_cons.mp sorted
    obtain ⟨later, rest_sorted⟩ := List.pairwise_cons.mp sorted
    have before : r.first ≤ next.first := first next List.mem_cons_self
    simp only [joinFrom]
    split
    · rename_i touches
      rw [ih]
      · have joined : (⟨r.first, max r.last next.last⟩ : CodeRange).contains n =
            (r.contains n || next.contains n) := by
          rw [Bool.eq_iff_iff]
          simp only [CodeRange.contains, Bool.or_eq_true, Bool.and_eq_true, decide_eq_true_eq]
          omega
        rw [List.any_cons, List.any_cons, List.any_cons, joined, Bool.or_assoc]
      · exact List.pairwise_cons.mpr
          ⟨fun a ha => first a (List.mem_cons_of_mem next ha), rest_sorted⟩
    · rw [List.any_cons, ih next sorted, List.any_cons (a := r)]

theorem hasCode_ofRanges (rs : List CodeRange) (n : Nat) :
    (ofRanges rs).hasCode n = rs.any (·.contains n) := by
  have sorted : (rs.mergeSort fun a b => decide (a.first ≤ b.first)).Pairwise
      fun a b => a.first ≤ b.first := by
    refine (List.pairwise_mergeSort ?_ ?_ rs).imp of_decide_eq_true
    · simp only [decide_eq_true_eq]
      omega
    · simp only [Bool.or_eq_true, decide_eq_true_eq]
      omega
  have same := (List.mergeSort_perm rs fun a b => decide (a.first ≤ b.first)).any_eq
    (f := (·.contains n))
  rw [hasCode, ofRanges, ← same]
  cases h : rs.mergeSort fun a b => decide (a.first ≤ b.first) with
  | nil => rfl
  | cons r rest => exact any_joinFrom r rest n (h ▸ sorted)

theorem contains_unionAll (sets : List CharSet) (c : Char) :
    (unionAll sets).contains c = sets.any (·.contains c) := by
  rw [contains, unionAll, hasCode_ofRanges, List.any_flatMap]
  rfl

/-- No range of the one set meets a range of the other one. -/
def apartFrom (s t : CharSet) : Bool :=
  t.ranges.all fun r => s.ranges.all fun q => decide (r.last < q.first) || decide (q.last < r.first)

theorem not_contains_of_apartFrom {s t : CharSet} (h : s.apartFrom t) {c : Char}
    (hc : s.contains c) : t.contains c = false := by
  obtain ⟨q, hq, inside⟩ := List.any_eq_true.mp hc
  apply List.any_eq_false.mpr
  intro r hr
  have apart := List.all_eq_true.mp (List.all_eq_true.mp h r hr) q hq
  simp only [CodeRange.contains, Bool.and_eq_true, Bool.or_eq_true, decide_eq_true_eq] at *
  omega

theorem contains_of_mem {s : CharSet} {r : CodeRange} (h : r ∈ s.ranges) {c : Char}
    (hc : r.contains c.toNat) : s.contains c :=
  List.any_eq_true.mpr ⟨r, h, hc⟩

end CharSet

namespace Unicode

/-- The set of a table, from the characters that the table is written with. -/
theorem decodeRanges_eq {table : String} {text : List Char} (written : table = String.ofList text) :
    decodeRanges table = ⟨rangesOfChanges (runningSums 0 (numbers text))⟩ := by
  rw [decodeRanges, written, String.toList_ofList]

/-- The set of a row, from the characters that its table is written with. -/
theorem lookup_eq {rows : List NamedRanges} {name table : String} {text : List Char}
    (row : (rows.find? fun row => row.names.contains name).map (·.table) = some table)
    (written : table = String.ofList text) :
    lookup rows name = some ⟨rangesOfChanges (runningSums 0 (numbers text))⟩ := by
  obtain ⟨found, h, rfl⟩ := Option.map_eq_some_iff.mp row
  rw [lookup, h, Option.map_some, decodeRanges_eq written]

/-- A row has no white space, if the ranges that its table is written with have none. -/
theorem apartFrom_of_lookup {rows : List NamedRanges} {name table : String} {text : List Char}
    (row : (rows.find? fun row => row.names.contains name).map (·.table) = some table)
    (written : table = String.ofList text)
    (apart : blanks.apartFrom ⟨rangesOfChanges (runningSums 0 (numbers text))⟩) :
    ∀ s ∈ lookup rows name, blanks.apartFrom s := by
  rw [lookup_eq row written]
  rintro _ ⟨⟩
  exact apart

set_option maxRecDepth 20000 in
theorem binaryProperties_apartFrom : ∀ name ∈ ["alphabetic", "joincontrol"],
    ∀ s ∈ lookup binaryProperties name, blanks.apartFrom s := by
  simp only [List.forall_mem_cons, List.not_mem_nil, false_implies, implies_true, and_true]
  exact ⟨apartFrom_of_lookup rfl rfl (by decide +kernel),
    apartFrom_of_lookup rfl rfl (by decide +kernel)⟩

set_option maxRecDepth 20000 in
theorem generalCategories_apartFrom : ∀ name ∈ ["mn", "mc", "me", "nd", "pc"],
    ∀ s ∈ lookup generalCategories name, blanks.apartFrom s := by
  simp only [List.forall_mem_cons, List.not_mem_nil, false_implies, implies_true, and_true]
  exact ⟨apartFrom_of_lookup rfl rfl (by decide +kernel),
    apartFrom_of_lookup rfl rfl (by decide +kernel),
    apartFrom_of_lookup rfl rfl (by decide +kernel),
    apartFrom_of_lookup rfl rfl (by decide +kernel),
    apartFrom_of_lookup rfl rfl (by decide +kernel)⟩

/-- White space is no part of a word. -/
theorem not_isWordCharacter_of_isBlank {c : Char} (h : isBlank c) : isWordCharacter c = false := by
  rw [isWordCharacter, wordCharacters, CharSet.contains_unionAll]
  apply List.any_eq_false.mpr
  intro s hs
  have apart : blanks.apartFrom s := by
    rcases List.mem_append.mp hs with hs | hs
    · obtain ⟨name, hname, row⟩ := List.mem_filterMap.mp hs
      exact binaryProperties_apartFrom name hname s row
    · obtain ⟨name, hname, row⟩ := List.mem_filterMap.mp hs
      exact generalCategories_apartFrom name hname s row
  rw [CharSet.not_contains_of_apartFrom apart h]
  exact Bool.false_ne_true

/-- The characters of the rows that the class is made of are in it. -/
theorem isWordCharacter_of_row {c : Char} {rows : List NamedRanges} {names : List String}
    {table : String} {text : List Char} {rs : List CodeRange}
    (part : ∀ s ∈ names.filterMap (lookup rows), s.contains c → isWordCharacter c)
    (name : String) (named : name ∈ names)
    (row : (rows.find? fun row => row.names.contains name).map (·.table) = some table)
    (written : table = String.ofList text)
    (mem : ∀ r ∈ rs, r ∈ rangesOfChanges (runningSums 0 (numbers text)))
    (hc : ∃ r ∈ rs, r.contains c.toNat) : isWordCharacter c := by
  obtain ⟨r, hr, inside⟩ := hc
  exact part _ (List.mem_filterMap.mpr ⟨name, named, lookup_eq row written⟩)
    (CharSet.contains_of_mem (mem r hr) inside)

/-- The letters of ASCII, by their code points. -/
theorem isAlpha_eq (c : Char) : c.isAlpha =
    (decide (c.val ≥ 'A'.val ∧ c.val ≤ 'Z'.val) ||
      decide (c.val ≥ 'a'.val) && decide (c.val ≤ 'z'.val)) := rfl

set_option maxRecDepth 20000 in
/-- Letters, digits and the underscore are parts of words. -/
theorem isWordCharacter_of_ascii {c : Char} (h : isAsciiWordCharacter c) : isWordCharacter c := by
  have property : ∀ s ∈ ["alphabetic", "joincontrol"].filterMap (lookup binaryProperties),
      s.contains c → isWordCharacter c := by
    intro s hs hc
    rw [isWordCharacter, wordCharacters, CharSet.contains_unionAll]
    exact List.any_eq_true.mpr ⟨s, List.mem_append_left _ hs, hc⟩
  have category : ∀ s ∈ ["mn", "mc", "me", "nd", "pc"].filterMap (lookup generalCategories),
      s.contains c → isWordCharacter c := by
    intro s hs hc
    rw [isWordCharacter, wordCharacters, CharSet.contains_unionAll]
    exact List.any_eq_true.mpr ⟨s, List.mem_append_right _ hs, hc⟩
  have letter : (∃ r ∈ [⟨0x41, 0x5A⟩, ⟨0x61, 0x7A⟩], CodeRange.contains r c.toNat) →
      isWordCharacter c :=
    isWordCharacter_of_row property "alphabetic" (by decide) rfl rfl (by decide +kernel)
  have digit : (∃ r ∈ [⟨0x30, 0x39⟩], CodeRange.contains r c.toNat) → isWordCharacter c :=
    isWordCharacter_of_row category "nd" (by decide) rfl rfl (by decide +kernel)
  have underscore : (∃ r ∈ [⟨0x5F, 0x5F⟩], CodeRange.contains r c.toNat) → isWordCharacter c :=
    isWordCharacter_of_row category "pc" (by decide) rfl rfl (by decide +kernel)
  have within {first last : Char} (h : c.val ≥ first.val ∧ c.val ≤ last.val) :
      (⟨first.toNat, last.toNat⟩ : CodeRange).contains c.toNat := by
    simp only [CodeRange.contains, Bool.and_eq_true, decide_eq_true_eq]
    exact ⟨UInt32.le_iff_toNat_le.mp h.1, UInt32.le_iff_toNat_le.mp h.2⟩
  simp only [isAsciiWordCharacter, Char.isAlphanum, isAlpha_eq, Char.isDigit, Bool.or_eq_true,
    Bool.and_eq_true, decide_eq_true_eq, beq_iff_eq] at h
  rcases h with ((h | h) | h) | rfl
  · exact letter ⟨_, List.mem_cons_self, within h⟩
  · exact letter ⟨_, List.mem_cons_of_mem _ List.mem_cons_self, within h⟩
  · exact digit ⟨_, List.mem_cons_self, within h⟩
  · exact underscore ⟨_, List.mem_cons_self, by decide⟩

end Unicode

end Backtrack
