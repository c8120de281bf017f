import Backtrack.Pattern
import Backtrack.Text.Grapheme
import Mathlib.Data.Set.Basic

/-!
# Slices

The parsers that return a part of their input cut the input in two: what they return
and what is left are put together again by appending. The cut is made at a number of
bytes, and it never falls inside of a character or behind the end.
-/

namespace Backtrack

/-- Cuts a text after the given number of bytes, unless that is inside of a character or behind
the end. -/
def splitAtByte : Nat → Text → Option (Text × Text)
  | 0, t => some ([], t)
  | _ + 1, [] => none
  | n + 1, c :: t =>
    if c.utf8Size ≤ n + 1 then
      (splitAtByte (n + 1 - c.utf8Size) t).map fun (start, rest) => (c :: start, rest)
    else none

theorem splitAtByte_byteLength (a b : Text) :
    splitAtByte (byteLength a) (a ++ b) = some (a, b) := by
  induction a with
  | nil => simp [splitAtByte]
  | cons c a ih =>
    have hc := c.utf8Size_pos
    obtain ⟨n, hn⟩ : ∃ n, c.utf8Size + byteLength a = n + 1 :=
      ⟨c.utf8Size + byteLength a - 1, by omega⟩
    have hrest : n + 1 - c.utf8Size = byteLength a := by omega
    have hle : c.utf8Size ≤ n + 1 := by omega
    simp [hn, splitAtByte, hle, hrest, ih]

/-- The bytes before a cut are those of the text before it, and the two texts are the whole. -/
theorem splitAtByte_eq_some_iff {n : Nat} {t a b : Text} :
    splitAtByte n t = some (a, b) ↔ a ++ b = t ∧ byteLength a = n := by
  constructor
  · intro h
    induction t generalizing n a with
    | nil =>
      cases n with
      | zero => cases h; exact ⟨rfl, rfl⟩
      | succ n => cases h
    | cons c t ih =>
      cases n with
      | zero => cases h; exact ⟨rfl, rfl⟩
      | succ n =>
        simp only [splitAtByte] at h
        split at h
        · rename_i hle
          obtain ⟨⟨a', b'⟩, ha, he⟩ := Option.map_eq_some_iff.mp h
          cases he
          obtain ⟨rfl, hn⟩ := ih ha
          refine ⟨rfl, ?_⟩
          rw [byteLength_cons, hn]
          omega
        · cases h
  · rintro ⟨rfl, rfl⟩
    exact splitAtByte_byteLength a b

/-! ## The parts of a text -/

theorem append_of_stripStart {w t rest : Text} (h : stripStart w t = some rest) :
    w ++ rest = t := by
  induction w generalizing t with
  | nil => cases h; rfl
  | cons c w ih =>
    cases t with
    | nil => cases h
    | cons d t =>
      simp only [stripStart] at h
      split at h
      · rename_i he
        rw [he, List.cons_append, ih h]
      · cases h

theorem stripStart_append (w rest : Text) : stripStart w (w ++ rest) = some rest := by
  induction w with
  | nil => rfl
  | cons c w ih => simp only [List.cons_append, stripStart, ↓reduceIte, ih]

/-- A suffix takes fewer bytes than the text, unless it is the text. -/
theorem byteLength_lt_of_suffix {rest t : Text} (h : rest <:+ t) (hne : rest ≠ t) :
    byteLength rest < byteLength t := by
  obtain ⟨start, rfl⟩ := h
  cases start with
  | nil => exact absurd rfl hne
  | cons c start =>
    have := c.utf8Size_pos
    rw [List.cons_append, byteLength_cons, byteLength_append]
    omega

/-- Of two ends of a text, the one that takes no more bytes is an end of the other one. -/
theorem suffix_of_byteLength_le {r s t : Text} (hr : r <:+ t) (hs : s <:+ t)
    (h : byteLength r ≤ byteLength s) : r <:+ s := by
  rcases List.suffix_or_suffix_of_suffix hr hs with h' | h'
  · exact h'
  · by_cases same : s = r
    · exact same ▸ List.suffix_refl r
    · exact absurd (byteLength_lt_of_suffix h' same) (Nat.not_lt.mpr h)

namespace Grapheme

theorem append_splitRest (c : Context) (t : Text) : (splitRest c t).1 ++ (splitRest c t).2 = t := by
  induction t generalizing c with
  | nil => rfl
  | cons d t ih =>
    simp only [splitRest]
    split
    · exact congrArg (d :: ·) (ih _)
    · rfl

theorem append_of_splitFirst {t cluster rest : Text} (h : splitFirst? t = some (cluster, rest)) :
    cluster ++ rest = t := by
  cases t with
  | nil => cases h
  | cons c t =>
    cases h
    exact congrArg (c :: ·) (append_splitRest _ t)

end Grapheme

/-! ## The places that a search reaches -/

namespace Pattern

/-- A match of the search ends at a place of the set, whatever was visited before. -/
def Search.EndsIn (S : Set Place) (a : Search) : Prop :=
  ∀ seen place, (a seen).1 = some place → place ∈ S

namespace Search.EndsIn

variable {S : Set Place}

theorem fail : Search.fail.EndsIn S := by
  intro seen place h
  cases h

theorem found {p : Place} (hp : p ∈ S) : (Search.found p).EndsIn S := by
  intro seen place h
  cases h
  exact hp

theorem orElse {a b : Search} (ha : a.EndsIn S) (hb : b.EndsIn S) : (a.orElse b).EndsIn S := by
  intro seen place h
  simp only [Search.orElse] at h
  split at h
  · rename_i q _ hq
    cases h
    exact ha seen _ (by rw [hq])
  · exact hb _ place h

theorem once {a : Search} (ha : a.EndsIn S) (id : Nat) (p : Place) : (a.once id p).EndsIn S := by
  intro seen place h
  simp only [Search.once] at h
  split at h
  · cases h
  · exact ha _ place h

end Search.EndsIn

variable {S : Set Place} {next : Continuation}

theorem afterRound_endsIn {round : Continuation → Continuation} (id : Nat) (greedy : Bool)
    (hround : ∀ k : Continuation, (∀ p ∈ S, (k p).EndsIn S) → ∀ p ∈ S, (round k p).EndsIn S)
    (hnext : ∀ p ∈ S, (next p).EndsIn S) (visits : Nat) :
    ∀ p ∈ S, (afterRound id greedy round next visits p).EndsIn S := by
  induction visits with
  | zero => exact fun _ _ => .fail
  | succ n ih =>
    intro p hp
    have more := hround _ ih p hp
    simp only [afterRound]
    cases greedy
    · exact ((hnext p hp).orElse more).once id p
    · exact (more.orElse (hnext p hp)).once id p

/-- A set of places that is closed under reading one more character is not left by a search. -/
theorem search_endsIn (hread : ∀ p ∈ S, ∀ c rest, p.rest = c :: rest →
      (⟨some c, rest, p.offset + 1⟩ : Place) ∈ S) (visits : Nat) (plan : Plan)
    (hnext : ∀ p ∈ S, (next p).EndsIn S) : ∀ p ∈ S, (plan.search visits next p).EndsIn S := by
  induction plan generalizing next with
  | empty => exact hnext
  | set members =>
    intro p hp
    simp only [Plan.search]
    split
    · exact .fail
    · rename_i c rest hrest
      split
      · exact hnext _ (hread p hp c rest hrest)
      · exact .fail
  | look condition =>
    intro p hp
    simp only [Plan.search]
    split
    · exact hnext p hp
    · exact .fail
  | seq first second ih₁ ih₂ => exact ih₁ (ih₂ hnext)
  | choose id first second ih₁ ih₂ =>
    intro p hp
    exact ((ih₁ hnext p hp).orElse (ih₂ hnext p hp)).once id p
  | again id greedy round ih =>
    exact ih (afterRound_endsIn id greedy (fun _ hk => ih hk) hnext visits)

/-- The place where a match ends divides the text. -/
theorem matchEnd_rest {plan : Plan} {t : Text} {p : Place} (h : plan.matchEnd t = some p) :
    p.rest = t.drop p.offset := by
  have hread : ∀ p ∈ {p : Place | p.rest = t.drop p.offset}, ∀ c rest, p.rest = c :: rest →
      (⟨some c, rest, p.offset + 1⟩ : Place) ∈ {p : Place | p.rest = t.drop p.offset} := by
    intro p hp c rest hrest
    have hdrop : c :: rest = t.drop p.offset := hrest.symm.trans hp
    change rest = t.drop (p.offset + 1)
    rw [← List.drop_drop, ← hdrop, List.drop_one, List.tail_cons]
  have found : ∀ p ∈ {p : Place | p.rest = t.drop p.offset},
      (Search.found p).EndsIn {p : Place | p.rest = t.drop p.offset} :=
    fun _ hp => .found hp
  exact search_endsIn hread _ plan found (.start t) rfl ∅ p h

theorem append_of_split {p : Pattern} {t slice rest : Text} (h : p.split t = some (slice, rest)) :
    slice ++ rest = t := by
  obtain ⟨place, hplace, he⟩ := Option.map_eq_some_iff.mp h
  cases he
  rw [matchEnd_rest hplace, List.take_append_drop]

end Pattern

end Backtrack
