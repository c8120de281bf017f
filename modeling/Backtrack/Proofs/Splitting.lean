import Backtrack.Proofs.GraphemeRules
import Backtrack.Proofs.Sequencing
import Backtrack.Proofs.Slice

/-!
# Splitting a text into units

A text is split into its first unit and the rest, over and over, with nothing kept from one time to
the next. No part of the text is lost, and the text is used up. The units that are grapheme clusters
are those that the rules find when they look back at all of the text before: `units_of_text`.
-/

namespace Backtrack

variable {σ α : Type} {Γ : Scopes} {split : Text → Option (α × Text)} {write : α → Text}
variable {t rest last : Text} {a : α} {as bs : List α}

/-- The first character of a text, and the rest. -/
def splitChar? (t : Text) : Option (Char × Text) := t.head?.map (·, t.tail)

/-- What is split off a text again and again, and the text that nothing is split off. -/
inductive Units (split : Text → Option (α × Text)) : Text → List α → Text → Prop
  | ended {t : Text} (none : split t = none) : Units split t [] t
  | unit {t rest last : Text} {a : α} {as : List α} (first : split t = some (a, rest))
      (more : Units split rest as last) : Units split t (a :: as) last

/-- A unit is some text, and the rest stands behind it. Only the empty text has no unit. -/
structure Lossless (split : Text → Option (α × Text)) (write : α → Text) : Prop where
  ended : ∀ {t}, split t = none → t = []
  append : ∀ {t a rest}, split t = some (a, rest) → write a ++ rest = t
  nonempty : ∀ {t a rest}, split t = some (a, rest) → write a ≠ []

theorem lossless_splitChar : Lossless splitChar? fun c => [c] where
  ended {t} h := by
    cases t with
    | nil => rfl
    | cons c t => cases h
  append {t c rest} h := by
    cases t with
    | nil => cases h
    | cons c t => cases h; rfl
  nonempty _ := List.cons_ne_nil _ _

theorem lossless_splitFirst : Lossless Grapheme.splitFirst? id where
  ended {t} h := by
    cases t with
    | nil => rfl
    | cons c t => cases h
  append := Grapheme.append_of_splitFirst
  nonempty {t g rest} h := by
    cases t with
    | nil => cases h
    | cons c t => cases h; exact List.cons_ne_nil _ _

/-- There is only one way to go on. -/
theorem Units.unique {last' : Text} (h : Units split t as last) (h' : Units split t bs last') :
    bs = as ∧ last' = last := by
  induction h generalizing bs last' with
  | ended none =>
    cases h' with
    | ended => exact ⟨rfl, rfl⟩
    | unit first => rw [none] at first; cases first
  | unit first _ ih =>
    cases h' with
    | ended none => rw [none] at first; cases first
    | unit first' more' =>
      rw [first] at first'
      cases first'
      obtain ⟨rfl, rfl⟩ := ih more'
      exact ⟨rfl, rfl⟩

namespace Lossless

variable (lossless : Lossless split write)
include lossless

theorem rest_ne (h : split t = some (a, rest)) : rest ≠ t := by
  rintro rfl
  exact lossless.nonempty h (List.append_left_eq_self.mp (lossless.append h))

theorem byteLength_rest_lt (h : split t = some (a, rest)) : byteLength rest < byteLength t :=
  byteLength_lt_of_suffix ⟨_, lossless.append h⟩ (lossless.rest_ne h)

/-- The whole text is split up. -/
theorem exists_units (t : Text) : ∃ as, Units split t as [] := by
  induction hn : byteLength t using Nat.strongRecOn generalizing t with
  | ind n ih =>
    cases first : split t with
    | none =>
      obtain rfl := lossless.ended first
      exact ⟨[], .ended first⟩
    | some step =>
      obtain ⟨a, rest⟩ := step
      obtain ⟨as, more⟩ := ih _ (hn ▸ lossless.byteLength_rest_lt first) rest rfl
      exact ⟨a :: as, .unit first more⟩

/-- A repetition splits off all the units. -/
theorem repeatFrom_split (h : Units split t as last) (items : List α) :
    repeatFrom (Behaviour.split split : Behaviour σ α) items t =
      pure (items.reverse ++ as, last) := by
  induction h generalizing items with
  | ended none =>
    rw [repeatFrom, Behaviour.split, none, List.append_nil]
    rfl
  | unit first _ ih =>
    rw [repeatFrom, Behaviour.split, first, Option.toList_some, pure_bind]
    simp only [lossless.byteLength_rest_lt first, ↓reduceDIte]
    rw [ih, List.reverse_cons, List.append_assoc, List.singleton_append]

theorem many_split (h : Units split t as []) :
    (Behaviour.split split : Behaviour σ α).many t = pure [(as, [])] := by
  rw [Behaviour.many, lossless.repeatFrom_split h, pure_bind]
  rfl

end Lossless

theorem Units.iff_eq (h : Units split t as last) {last' : Text} :
    Units split t bs last' ↔ bs = as ∧ last' = last :=
  ⟨h.unique, fun ⟨hbs, hlast⟩ => hbs ▸ hlast ▸ h⟩

/-- The characters of a text are split off one by one. -/
theorem units_splitChar (t : Text) : Units splitChar? t t [] := by
  induction t with
  | nil => exact .ended rfl
  | cons c t ih => exact .unit rfl ih

namespace Grapheme

/-- The text of the first clusters, up to some place. -/
def CutAt (clusters : List Text) (before : Text) : Prop :=
  ∃ front, front <+: clusters ∧ front.flatten = before

/-- The clusters of a text, as the rules find them that may look back at all of the text before. -/
structure Segmentation (t : Text) (clusters : List Text) : Prop where
  flatten : clusters.flatten = t
  nonempty : ∀ g ∈ clusters, g ≠ []
  cut_iff : ∀ before c after, before ++ c :: after = t → before ≠ [] →
    (CutAt clusters before ↔ ¬Joined (before.map Kind.of) (Kind.of c))

variable {g before rest : Text} {gs hs : List Text}

theorem cutAt_nil (gs : List Text) : CutAt gs [] := ⟨[], List.nil_prefix, rfl⟩

theorem cutAt_flatten (gs : List Text) : CutAt gs gs.flatten := ⟨gs, List.prefix_refl gs, rfl⟩

theorem cutAt_head (g : Text) (gs : List Text) : CutAt (g :: gs) g :=
  ⟨[g], List.prefix_append [g] gs, List.flatten_singleton⟩

theorem CutAt.isPrefix (h : CutAt gs before) : before <+: gs.flatten := by
  obtain ⟨front, ⟨back, rfl⟩, rfl⟩ := h
  rw [List.flatten_append]
  exact List.prefix_append _ _

theorem cutAt_cons :
    CutAt (g :: gs) before ↔ before = [] ∨ ∃ after, CutAt gs after ∧ g ++ after = before := by
  constructor
  · rintro ⟨front, h, rfl⟩
    rcases List.prefix_cons_iff.mp h with rfl | ⟨front, rfl, later⟩
    · exact .inl rfl
    · exact .inr ⟨front.flatten, ⟨front, later, rfl⟩, rfl⟩
  · rintro (rfl | ⟨_, ⟨front, h, rfl⟩, rfl⟩)
    · exact cutAt_nil _
    · exact ⟨g :: front, List.prefix_cons_iff.mpr (.inr ⟨front, rfl, h⟩), rfl⟩

theorem CutAt.head_isPrefix (h : CutAt (g :: gs) before) (hne : before ≠ []) : g <+: before := by
  rcases cutAt_cons.mp h with rfl | ⟨after, -, he⟩
  · exact absurd rfl hne
  · exact ⟨after, he⟩

theorem cutAt_cons_append (hg : g ≠ []) : CutAt (g :: gs) (g ++ before) ↔ CutAt gs before := by
  rw [cutAt_cons]
  constructor
  · rintro (h | ⟨after, h, he⟩)
    · exact absurd (List.append_eq_nil_iff.mp h).1 hg
    · exact List.append_cancel_left he ▸ h
  · exact fun h => .inr ⟨before, h, rfl⟩

/-- Clusters are known by their cuts. -/
theorem eq_of_cutAt (hgs : ∀ g ∈ gs, g ≠ []) (hhs : ∀ h ∈ hs, h ≠ [])
    (same : ∀ before, CutAt gs before ↔ CutAt hs before) : gs = hs := by
  induction gs generalizing hs with
  | nil =>
    cases hs with
    | nil => rfl
    | cons h hs =>
      have cut := (same h).mpr (cutAt_head h hs)
      exact absurd (List.prefix_nil.mp cut.isPrefix) (hhs h List.mem_cons_self)
  | cons g gs ih =>
    obtain ⟨hg, moreGs⟩ := List.forall_mem_cons.mp hgs
    have cut := (same g).mp (cutAt_head g gs)
    cases hs with
    | nil => exact absurd (List.prefix_nil.mp cut.isPrefix) hg
    | cons h hs =>
      obtain ⟨hh, moreHs⟩ := List.forall_mem_cons.mp hhs
      have shorter := cut.head_isPrefix hg
      have longer := ((same h).mpr (cutAt_head h hs)).head_isPrefix hh
      obtain rfl : g = h := longer.eq_of_length_le shorter.length_le
      have later : gs = hs := ih moreGs moreHs fun before => by
        rw [← cutAt_cons_append hg, same, cutAt_cons_append hg]
      rw [later]

namespace Segmentation

theorem cutAt_of_cutAt (h : Segmentation t gs) (h' : Segmentation t hs) (cut : CutAt gs before) :
    CutAt hs before := by
  obtain ⟨after, he⟩ := cut.isPrefix
  rw [h.flatten] at he
  cases before with
  | nil => exact cutAt_nil hs
  | cons b before =>
    cases after with
    | nil =>
      rw [List.append_nil] at he
      rw [he, ← h'.flatten]
      exact cutAt_flatten hs
    | cons c after =>
      have hne := List.cons_ne_nil b before
      exact (h'.cut_iff _ c after he hne).mpr ((h.cut_iff _ c after he hne).mp cut)

/-- A text is divided into clusters in one way. -/
theorem unique (h : Segmentation t gs) (h' : Segmentation t hs) : gs = hs :=
  eq_of_cutAt h.nonempty h'.nonempty fun _ => ⟨h.cutAt_of_cutAt h', h'.cutAt_of_cutAt h⟩

theorem nil : Segmentation [] [] where
  flatten := rfl
  nonempty := nofun
  cut_iff _ _ _ he := absurd he (List.append_ne_nil_of_right_ne_nil _ (List.cons_ne_nil _ _))

/-- A cluster in front of a text, where the rules cut behind it and nowhere within. -/
theorem cons (hg : g ≠ [])
    (within : ∀ before c after, before ++ c :: after = g → before ≠ [] →
      Joined (before.map Kind.of) (Kind.of c))
    (behind : ∀ c after, rest = c :: after → ¬Joined (g.map Kind.of) (Kind.of c))
    (h : Segmentation rest gs) : Segmentation (g ++ rest) (g :: gs) where
  flatten := congrArg (g ++ ·) h.flatten
  nonempty := List.forall_mem_cons.mpr ⟨hg, h.nonempty⟩
  cut_iff before c after he hne := by
    -- The place is at the end of the first cluster or behind it, or else it is within.
    have from_end (more : Text) (hr : more ++ c :: after = rest) : CutAt (g :: gs) (g ++ more) ↔
        ¬Joined ((g ++ more).map Kind.of) (Kind.of c) := by
      rw [cutAt_cons_append hg, List.map_append]
      cases more with
      | nil =>
        rw [List.map_nil, List.append_nil]
        exact iff_of_true (cutAt_nil gs) (behind c after hr.symm)
      | cons d more =>
        rw [h.cut_iff _ c after hr (List.cons_ne_nil d more), List.map_cons,
          joined_append_of_cut (behind d _ hr.symm)]
    rcases List.append_eq_append_iff.mp he with ⟨more, hg, hr⟩ | ⟨more, rfl, hr⟩
    · cases more with
      | nil =>
        obtain rfl : g = before := hg.trans (List.append_nil before)
        have at_end := from_end [] hr
        rwa [List.append_nil] at at_end
      | cons d more =>
        obtain ⟨rfl, -⟩ := List.cons.inj hr
        refine iff_of_false (fun cut => ?_) (not_not_intro (within before c more hg.symm hne))
        have short := (cut.head_isPrefix hne).length_le
        rw [hg, List.length_append, List.length_cons] at short
        omega
    · exact from_end more hr.symm

end Segmentation

/-- The rest of a cluster is joined to what is before, and behind it there is a cut. -/
theorem splitRest_contextOf (left : List Kind) (t : Text) :
    (∀ before c after, before ++ c :: after = (splitRest (contextOf left) t).1 →
      Joined (left ++ before.map Kind.of) (Kind.of c)) ∧
    ∀ c after, (splitRest (contextOf left) t).2 = c :: after →
      ¬Joined (left ++ (splitRest (contextOf left) t).1.map Kind.of) (Kind.of c) := by
  induction t generalizing left with
  | nil => exact ⟨fun _ _ _ he => absurd he (List.append_ne_nil_of_right_ne_nil _ nofun), nofun⟩
  | cons d t ih =>
    have decides := joins_iff (k := Kind.of d) (contextOf_tells left)
    by_cases joins : (contextOf left).joins (Kind.of d)
    · obtain ⟨within, behind⟩ := ih (left ++ [Kind.of d])
      rw [contextOf_concat] at within behind
      simp only [splitRest, joins, ↓reduceIte, List.map_cons]
      simp only [List.append_assoc, List.singleton_append] at within behind
      refine ⟨fun before c after he => ?_, behind⟩
      rcases List.append_eq_cons_iff.mp he with ⟨rfl, first⟩ | ⟨before, rfl, more⟩
      · obtain ⟨rfl, -⟩ := List.cons.inj first
        rw [List.map_nil, List.append_nil]
        exact decides.mp joins
      · exact within before c after more.symm
    · simp only [splitRest, joins, Bool.false_eq_true, ↓reduceIte, List.map_nil, List.append_nil]
      refine ⟨fun _ _ _ he => absurd he (List.append_ne_nil_of_right_ne_nil _ nofun), ?_⟩
      rintro c after he
      obtain ⟨rfl, -⟩ := List.cons.inj he
      exact fun joined => joins (decides.mpr joined)

theorem segmentation_cons_of_splitFirst (first : splitFirst? t = some (g, rest))
    (h : Segmentation rest gs) : Segmentation t (g :: gs) := by
  rw [← append_of_splitFirst first]
  cases t with
  | nil => cases first
  | cons d t =>
    obtain ⟨within, behind⟩ := splitRest_contextOf [Kind.of d] t
    cases first
    refine .cons (List.cons_ne_nil _ _) (fun before c after he hne => ?_) behind h
    obtain ⟨before, rfl, more⟩ := (List.append_eq_cons_iff.mp he).resolve_left fun h => hne h.1
    exact within before c after more.symm

/-- The clusters that are split off are those that the rules find. -/
theorem segmentation_of_units (h : Units splitFirst? t gs last) : Segmentation t gs := by
  induction h with
  | ended none =>
    rw [lossless_splitFirst.ended none]
    exact .nil
  | unit first _ ih => exact segmentation_cons_of_splitFirst first ih

end Grapheme

/-! ## All of a text -/

namespace Parser

variable (d : Debugger σ) (depth : Nat) (s : Store σ Γ)

theorem behaviour_many_item (t : Text) : item.many.behaviour d depth s t = Pure.pure [(t, [])] :=
  lossless_splitChar.many_split (units_splitChar t)

theorem behaviour_many_grapheme {gs : List Text} (h : Units Grapheme.splitFirst? t gs []) :
    grapheme.many.behaviour d depth s t = Pure.pure [(gs, [])] :=
  lossless_splitFirst.many_split h

theorem behaviour_collect {β : Type} {p : Parser Γ (List α)} {as : List α}
    (h : p.behaviour d depth s t = Pure.pure [(as, rest)]) (f : List α → β) :
    (p.collect f).behaviour d depth s t = Pure.pure [(f as, rest)] := by
  refine (congrFun (Behaviour.tryMap_ok (p.behaviour d depth s) f) t).trans ?_
  rw [h, pure_bind]
  rfl

end Parser

/-- **Nothing is lost where a text is split, and nothing need be kept to go on.** Characters are
split off a text until it is empty, and so are grapheme clusters: none of these is empty, and put
together they are all the characters of the text in order. The clusters are the only ones that the
rules allow for the text as a whole, where each rule may look back over all that is before. So a
repetition of either parser reads any text to its end, and what it reads can be put together to the
text again. -/
theorem units_of_text (d : Debugger σ) (depth : Nat) (s : Store σ Γ) (t : Text) :
    (∀ units last, Units splitChar? t units last ↔ units = t ∧ last = []) ∧
    (∃ clusters,
      (∀ units last, Units Grapheme.splitFirst? t units last ↔ units = clusters ∧ last = []) ∧
      (∀ gs, Grapheme.Segmentation t gs ↔ gs = clusters) ∧
      clusters.flatten = t ∧ (∀ g ∈ clusters, g ≠ []) ∧
      Parser.grapheme.many.behaviour d depth s t = pure [(clusters, [])]) ∧
    (∀ u, Parser.item.behaviour d depth s u = pure (splitChar? u).toList ∧
      Parser.grapheme.behaviour d depth s u = pure (Grapheme.splitFirst? u).toList) ∧
    Parser.item.many.behaviour d depth s t = pure [(t, [])] ∧
    (Parser.item.many.collect id).behaviour d depth s t = pure [(t, [])] ∧
    (Parser.grapheme.many.collect List.flatten).behaviour d depth s t = pure [(t, [])] := by
  obtain ⟨clusters, h⟩ := lossless_splitFirst.exists_units t
  have segmented := Grapheme.segmentation_of_units h
  have items := Parser.behaviour_many_item d depth s t
  have graphemes := Parser.behaviour_many_grapheme d depth s h
  refine ⟨fun _ _ => (units_splitChar t).iff_eq, ⟨clusters, fun _ _ => h.iff_eq, fun gs => ?_,
    segmented.flatten, segmented.nonempty, graphemes⟩, fun _ => ⟨rfl, rfl⟩, items,
    Parser.behaviour_collect d depth s items id, ?_⟩
  · exact ⟨fun other => other.unique segmented, fun same => same ▸ segmented⟩
  · rw [Parser.behaviour_collect d depth s graphemes, segmented.flatten]

-- A third half is not joined to a flag that is complete.
example : Grapheme.splitFirst? ['🇦', '🇧', '🇨'] = some (['🇦', '🇧'], ['🇨']) := rfl

end Backtrack
