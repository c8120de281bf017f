import Backtrack.Parser.Combinators
import Backtrack.Proofs.Ownership
import Backtrack.Proofs.Parametricity

/-!
# Handles find their definitions

If every definition is kept by the parser that it was made for, then no handle is ever run without
one, however the parser is built and run: `handles_find_definitions`. Whether it is kept or not, a
parser that takes slots for its definitions does what its behaviour says, and drops all that it
takes.
-/

namespace Backtrack

variable {σ α β γ : Type}

/-! ## Memories that grow -/

namespace Memory

/-- The second memory is the first one with new slots. Those of the list have one owner, and the
other new ones have none. -/
structure Grown (m m' : Memory) (owned : List Nat) : Prop where
  next_le : m.next ≤ m'.next
  old : ∀ a < m.next, m'.slot a = m.slot a
  nodup : owned.Nodup
  isNew : ∀ a ∈ owned, m.next ≤ a ∧ a < m'.next
  owner : ∀ a ∈ owned, (m'.slot a).owners = 1
  unowned : ∀ a, m.next ≤ a → a < m'.next → a ∉ owned → (m'.slot a).owners = 0

theorem slot_set (m : Memory) (a b : Nat) (s : Slot) :
    (m.set a s).slot b = if b = a then s else m.slot b := rfl

theorem slot_set_of_ne (m : Memory) {a b : Nat} (h : b ≠ a) (s : Slot) :
    (m.set a s).slot b = m.slot b := if_neg h

theorem slot_own (m : Memory) (a : Nat) :
    (m.own a).slot a = { m.slot a with owners := (m.slot a).owners + 1 } := if_pos rfl

/-- The owner that was added can be taken away again. -/
theorem slot_disown_after_own {m m₁ : Memory} {a : Nat} (h : m₁.slot a = (m.own a).slot a) :
    (m₁.disown a).slot a = m.slot a := by
  rw [slot_own] at h
  simp [disown, slot_set, h]

/-- Where an owner was added, no other one is dropped. -/
theorem drop_after_own {m m₁ : Memory} {a : Nat} (h : m₁.slot a = (m.own a).slot a)
    (owned : (m.slot a).owners ≠ 0) (content : Owned) :
    m₁.drop (.slot a content) = m₁.disown a := by
  have left : ((m₁.disown a).slot a).owners ≠ 0 := by
    rw [slot_disown_after_own h]
    exact owned
  rw [drop]
  exact if_neg left

/-- What one owner less keeps, dropping keeps. -/
theorem drop_keeps {P : Memory → Prop} (keeps : ∀ m a, P m → P (m.disown a)) (o : Owned)
    {m : Memory} (h : P m) : P (m.drop o) := by
  induction o generalizing m with
  | nothing => exact h
  | slot a content ih =>
    rw [drop]
    split
    · exact ih (keeps m a h)
    · exact keeps m a h
  | both x y ihx ihy => exact ihy (ihx h)

theorem drop_next (o : Owned) (m : Memory) : (m.drop o).next = m.next :=
  drop_keeps (P := fun m' => m'.next = m.next) (fun _ _ h => h) o rfl

theorem drop_missed (o : Owned) (m : Memory) : (m.drop o).missed = m.missed :=
  drop_keeps (P := fun m' => m'.missed = m.missed) (fun _ _ h => h) o rfl

/-- Where each slot has one owner, all that is owned loses it, and nothing else does. -/
theorem slot_drop {o : Owned} {m : Memory} (nodup : o.slots.Nodup)
    (owner : ∀ a ∈ o.slots, (m.slot a).owners = 1) :
    ∀ a, (m.drop o).slot a = if a ∈ o.slots then { m.slot a with owners := 0 } else m.slot a := by
  induction o generalizing m with
  | nothing => exact fun _ => rfl
  | slot b content ih =>
    intro a
    obtain ⟨apart, nodup⟩ := List.nodup_cons.mp nodup
    have last : ((m.disown b).slot b).owners = 0 := by
      simp only [disown, slot_set, ↓reduceIte, owner b List.mem_cons_self]
    have others {c : Nat} (hc : c ≠ b) : (m.disown b).slot c = m.slot c := slot_set_of_ne m hc _
    have inner := ih (m := m.disown b) nodup (fun c hc => by
      rw [others fun same => apart (same ▸ hc)]
      exact owner c (List.mem_cons_of_mem b hc)) a
    simp only [drop, last, ↓reduceIte, inner, Owned.slots, List.mem_cons]
    by_cases h : a = b
    · subst h
      simp [apart, disown, slot_set, owner a List.mem_cons_self]
    · simp [h, others h]
  | both x y ihx ihy =>
    intro a
    obtain ⟨nx, ny, apart⟩ := List.nodup_append.mp nodup
    have first := ihx nx fun c hc => owner c (List.mem_append_left _ hc)
    have kept {c : Nat} (hc : c ∈ y.slots) : (m.drop x).slot c = m.slot c := by
      rw [first, if_neg fun hx => apart c hx c hc rfl]
    have second := ihy (m := m.drop x) ny fun c hc => by
      rw [kept hc]
      exact owner c (List.mem_append_right _ hc)
    rw [drop, second, first]
    simp only [Owned.slots, List.mem_append]
    by_cases hx : a ∈ x.slots <;> by_cases hy : a ∈ y.slots <;> simp [hx, hy]

namespace Grown

variable {m m₁ m₂ : Memory} {x y : List Nat}

theorem refl (m : Memory) : m.Grown m [] where
  next_le := Nat.le_refl _
  old _ _ := rfl
  nodup := .nil
  isNew := nofun
  owner := nofun
  unowned _ h h' := absurd h (Nat.not_le_of_lt h')

theorem miss (m : Memory) : m.Grown m.miss [] := { refl m with }

theorem trans (h : m.Grown m₁ x) (h' : m₁.Grown m₂ y) : m.Grown m₂ (x ++ y) where
  next_le := h.next_le.trans h'.next_le
  old a ha := (h'.old a (Nat.lt_of_lt_of_le ha h.next_le)).trans (h.old a ha)
  nodup := by
    refine List.nodup_append.mpr ⟨h.nodup, h'.nodup, ?_⟩
    rintro a hx b hy rfl
    exact Nat.not_le_of_lt (h.isNew a hx).2 (h'.isNew a hy).1
  isNew a ha := by
    rcases List.mem_append.mp ha with ha | ha
    · exact ⟨(h.isNew a ha).1, Nat.lt_of_lt_of_le (h.isNew a ha).2 h'.next_le⟩
    · exact ⟨h.next_le.trans (h'.isNew a ha).1, (h'.isNew a ha).2⟩
  owner a ha := by
    rcases List.mem_append.mp ha with ha | ha
    · rw [h'.old a (h.isNew a ha).2, h.owner a ha]
    · exact h'.owner a ha
  unowned a low high ha := by
    rw [List.mem_append, not_or] at ha
    rcases Nat.lt_or_ge a m₁.next with first | second
    · rw [h'.old a first, h.unowned a low first ha.1]
    · exact h'.unowned a second high ha.2

theorem allocate (m : Memory) : m.Grown m.allocate [m.next] where
  next_le := Nat.le_succ _
  old a ha := slot_set_of_ne m (Nat.ne_of_lt ha) _
  nodup := by simp
  isNew a ha := by
    cases List.mem_singleton.mp ha
    exact ⟨Nat.le_refl _, Nat.lt_succ_self _⟩
  owner a ha := by
    cases List.mem_singleton.mp ha
    exact congrArg Slot.owners (if_pos rfl)
  unowned a low high ha := absurd (Nat.le_antisymm (Nat.le_of_lt_succ high) low)
    fun same => ha (List.mem_singleton.mpr same)

/-- A new slot can be changed as long as its owners are not. -/
theorem set (h : m.Grown m₁ x) {a : Nat} (ha : m.next ≤ a) {s : Slot}
    (hs : s.owners = (m₁.slot a).owners) : m.Grown (m₁.set a s) x := by
  have owners (b : Nat) : ((m₁.set a s).slot b).owners = (m₁.slot b).owners := by
    rw [slot_set]
    split
    · subst b; exact hs
    · rfl
  have old (b : Nat) (hb : b < m.next) : (m₁.set a s).slot b = m.slot b :=
    (slot_set_of_ne m₁ (by omega) s).trans (h.old b hb)
  exact ⟨h.next_le, old, h.nodup, h.isNew,
    fun b hb => (owners b).trans (h.owner b hb),
    fun b low high hb => (owners b).trans (h.unowned b low high hb)⟩

/-- What is dropped is left behind without owners. -/
theorem drop {o : Owned} (h : m.Grown m₁ o.slots) : m.Grown (m₁.drop o) [] := by
  have slots := slot_drop h.nodup h.owner
  refine ⟨?_, ?_, .nil, nofun, nofun, ?_⟩
  · exact (drop_next o m₁).symm ▸ h.next_le
  · intro a ha
    rw [slots, if_neg fun hm => Nat.not_le_of_lt ha (h.isNew a hm).1, h.old a ha]
  · intro a low high _
    rw [drop_next] at high
    rw [slots]
    split
    · rfl
    · rename_i free
      exact h.unowned a low high free

/-- An owner for some time only does not count. -/
theorem disown {a : Nat} (h : (m.own a).Grown m₁ []) (used : a < m.next) :
    m.Grown (m₁.disown a) [] where
  next_le := h.next_le
  old b hb := by
    by_cases same : b = a
    · subst same
      exact slot_disown_after_own (h.old b hb)
    · have before : (m.own a).slot b = m.slot b := slot_set_of_ne m same _
      have after : (m₁.disown a).slot b = m₁.slot b := slot_set_of_ne m₁ same _
      rw [after, h.old b hb, before]
  nodup := .nil
  isNew := nofun
  owner := nofun
  unowned b low high _ := by
    have other : b ≠ a := Nat.ne_of_gt (Nat.lt_of_lt_of_le used low)
    have after : (m₁.disown a).slot b = m₁.slot b := slot_set_of_ne m₁ other _
    rw [after]
    exact h.unowned b low high List.not_mem_nil

/-- What is built later does not change how a slot is found. -/
theorem found_before {lifetime : Nat → Lifetime} (h : m₁.Grown m₂ x)
    (found : ∀ a, m.next ≤ a → a < m₂.next → lifetime a = (m₂.slot a).lifetime) (a : Nat)
    (low : m.next ≤ a) (high : a < m₁.next) : lifetime a = (m₁.slot a).lifetime := by
  rw [found a low (Nat.lt_of_lt_of_le high h.next_le), h.old a high]

end Grown

section

variable {m m₁ : Memory} {content : Owned} (state : Lifetime)

theorem settle_next (m : Memory) (a : Nat) (content : Owned) :
    (m.settle a content state).next = m.next := by
  cases state with
  | underConstruction | alive => rfl
  | dropped => exact drop_next _ _

theorem settle_missed (m : Memory) (a : Nat) (content : Owned) :
    (m.settle a content state).missed = m.missed := by
  cases state with
  | underConstruction | alive => rfl
  | dropped => exact drop_missed _ _

theorem Grown.fill (h : m.Grown m₁ (m.next :: content.slots)) :
    m.Grown (m₁.fill m.next) (m.next :: content.slots) :=
  h.set (Nat.le_refl _) rfl

theorem Grown.settle (h : m.Grown m₁ (m.next :: content.slots)) :
    m.Grown (m₁.settle m.next content state) (state.owner m.next content).slots := by
  cases state with
  | underConstruction => exact h
  | alive => exact h.fill
  | dropped => exact h.fill.drop (o := .slot m.next content)

/-- The slot of a new definition is found in the state that the definition is used in. -/
theorem lifetime_settle (h : m.Grown m₁ (m.next :: content.slots))
    (new : m₁.slot m.next = ⟨1, false⟩) :
    ((m₁.settle m.next content state).slot m.next).lifetime = state := by
  have filled : (m₁.fill m.next).slot m.next = ⟨1, true⟩ := by
    rw [Memory.fill, slot_set, if_pos rfl, new]
  cases state with
  | underConstruction => rw [Memory.settle, new]; rfl
  | alive => rw [Memory.settle, filled]; rfl
  | dropped =>
    have dropped := slot_drop (o := .slot m.next content) h.fill.nodup h.fill.owner m.next
    have mem : m.next ∈ (Owned.slot m.next content).slots := List.mem_cons_self
    rw [Memory.settle, dropped, if_pos mem]
    rfl

end

end Memory

/-! ## Runs that leave nothing behind -/

/-- How some of the slots are found. -/
structure Census where
  size : Nat
  lifetime : Nat → Lifetime

/-- The slots are found as the census says. -/
def Memory.Agrees (m : Memory) (K : Census) : Prop :=
  K.size ≤ m.next ∧ ∀ a < K.size, (m.slot a).lifetime = K.lifetime a

def Memory.census (m : Memory) : Census := ⟨m.next, fun a => (m.slot a).lifetime⟩

theorem Memory.agrees_census (m : Memory) : m.Agrees m.census := ⟨Nat.le_refl _, fun _ _ => rfl⟩

theorem Memory.Agrees.grown {m m' : Memory} {K : Census} {owned : List Nat} (h : m.Agrees K)
    (g : m.Grown m' owned) : m'.Agrees K :=
  ⟨h.1.trans g.next_le, fun a ha => by rw [g.old a (Nat.lt_of_lt_of_le ha h.1), h.2 a ha]⟩

theorem Slot.owned_of_alive {s : Slot} (h : s.lifetime = .alive) : s.owners ≠ 0 := by
  intro none
  simp [lifetime, none] at h

theorem Memory.Agrees.own {m : Memory} {K : Census} (h : m.Agrees K) {a : Nat}
    (owned : (m.slot a).owners ≠ 0) : (m.own a).Agrees K := by
  refine ⟨h.1, fun b hb => ?_⟩
  by_cases same : b = a
  · subst same
    rw [← h.2 b hb, slot_own]
    simp [Slot.lifetime, owned]
  · rw [Memory.own, slot_set_of_ne m same, h.2 b hb]

/-- A run and one that works on slots as well: where these are found as the census says, the two end
alike, and all further slots that were taken are left without owners. If `quiet` holds, then no
handle is run without a definition. -/
def Correspondence.owning (quiet : Prop) (K : Census) : Correspondence σ (σ × Memory) where
  runs P r r' := ∀ state m, m.Agrees K → ∃ m',
    r'.outcome (state, m) = ((r.outcome state).1, (r.outcome state).2, m') ∧ m.Grown m' [] ∧
      (quiet → m'.missed = m.missed) ∧ ∀ a, (r.outcome state).1 = .ok a → P a
  pure hP state m _ := by
    refine ⟨m, rfl, .refl m, fun _ => rfl, ?_⟩
    rintro _ ⟨⟩
    exact hP
  bind {α β P Q r r' next next'} hr hnext state m hm := by
    obtain ⟨m₁, h₁, grown₁, quiet₁, hP⟩ := hr state m hm
    rcases h : r.outcome state with ⟨e | a, state₁⟩ <;> rw [h] at h₁ hP
    · rw [Run.outcome_bind_of_error h, Run.outcome_bind_of_error h₁]
      exact ⟨m₁, rfl, grown₁, quiet₁, nofun⟩
    · obtain ⟨m₂, h₂, grown₂, quiet₂, hQ⟩ := hnext a (hP a rfl) state₁ m₁ (hm.grown grown₁)
      rw [Run.outcome_bind_of_ok h, Run.outcome_bind_of_ok h₁]
      exact ⟨m₂, h₂, grown₁.trans grown₂, fun q => (quiet₂ q).trans (quiet₁ q), hQ⟩
  fault f state m _ := ⟨m, rfl, .refl m, fun _ => rfl, nofun⟩

namespace Correspondence

variable {quiet : Prop} {K K' : Census} {S S' : Set Text}

/-- Whoever knows more of the slots can rely on less. -/
theorem owning_mono (h : ∀ m : Memory, m.Agrees K' → m.Agrees K) {b : Behaviour σ α}
    {b' : Behaviour (σ × Memory) α} (hb : (owning quiet K).behaviours S S' b b') :
    (owning quiet K').behaviours S S' b b' :=
  fun t ht state m hm => hb t ht state m (h m hm)

theorem owning_halt (e : Halt) :
    (owning quiet K).behaviours S S' (.halt e : Behaviour σ α) (.halt e) :=
  fun _ _ _ m _ => ⟨m, rfl, .refl m, fun _ => rfl, nofun⟩

theorem owning_debug (d : Debugger σ) (mark : Mark) {b : Behaviour σ α}
    {b' : Behaviour (σ × Memory) α} (h : (owning quiet K).behaviours S S' b b') :
    (owning quiet K).behaviours S S' (b.debug d mark) (b'.debug d.withMemory mark) :=
  h.debug (fun _ _ m _ => ⟨m, rfl, .refl m, fun _ => rfl, fun _ _ => trivial⟩)
    (fun _ _ m _ => ⟨m, rfl, .refl m, fun _ => rfl, fun _ _ => trivial⟩)

/-- A handle whose definition is alive does what the definition does. The run owns the definition
meanwhile and is not its last owner. -/
theorem owning_follow {a : Nat} (ha : a < K.size) (alive : K.lifetime a = .alive) (content : Owned)
    {b : Behaviour σ α} {b' : Behaviour (σ × Memory) α}
    (hb : (owning quiet K).behaviours S S' b b') :
    (owning quiet K).behaviours S S' b (follow a content b') := by
  intro t ht state m hm
  have used : a < m.next := Nat.lt_of_lt_of_le ha hm.1
  have found : (m.slot a).lifetime = .alive := (hm.2 a ha).trans alive
  have owned : (m.slot a).owners ≠ 0 := Slot.owned_of_alive found
  obtain ⟨m₁, h₁, grown, silent, hP⟩ := hb t ht state (m.own a) (hm.own owned)
  have rest := Memory.drop_after_own (grown.old a used) owned content
  refine ⟨m₁.disown a, ?_, grown.disown used, silent, hP⟩
  simp only [follow, Run.outcome_ofOutcome, found, h₁, rest]

/-- A handle finds its definition in the state that the slot says. Only one that is alive is found
without a miss. -/
theorem owning_follow_cell {a : Nat} (ha : a < K.size) {state : Lifetime}
    (found : K.lifetime a = state) (hq : quiet → state = .alive) (content : Owned)
    {b : Behaviour σ α} {b' : Behaviour (σ × Memory) α}
    (hb : state = .alive → (owning quiet K).behaviours S S' b b') :
    (owning quiet K).behaviours S S' (state.cell b).behaviour (follow a content b') := by
  cases state with
  | alive => exact owning_follow ha found content (hb rfl)
  | underConstruction | dropped =>
    intro t _ state m hm
    have found := (hm.2 a ha).trans found
    refine ⟨m.miss, ?_, .miss m, fun q => (nomatch hq q), nofun⟩
    simp only [follow, Run.outcome_ofOutcome, found]
    rfl

end Correspondence

/-! ## What is built -/

/-- The two do alike on all texts, where the slots are found as the census says. -/
abbrev Alike (quiet : Prop) (K : Census) (b : Behaviour σ α) (b' : Behaviour (σ × Memory) α) :
    Prop :=
  (Correspondence.owning quiet K).behaviours Set.univ Set.univ b b'

/-- A way to build a parser that takes slots, and misses none, for a parser that does what is
meant: in all memories in which its slots are found as it has left them. -/
structure Building.Implements (quiet : Prop) {Γ : Scopes} (B : Building σ Γ α)
    (meant : Store σ Γ → Behaviour σ α) : Prop where
  grown : ∀ m : Memory, m.Grown (B m).2 (B m).1.owned.slots
  missed : ∀ m, (B m).2.missed = m.missed
  runs : ∀ m (K : Census), (B m).2.next ≤ K.size →
    (∀ a, m.next ≤ a → a < (B m).2.next → K.lifetime a = ((B m).2.slot a).lifetime) →
      ∀ s s', s.Corresponds (.owning quiet K) Set.univ s' →
        Alike quiet K (meant s) ((B m).1.behaviour s')

namespace Building.Implements

open Correspondence

variable {quiet : Prop} {Γ : Scopes} {B : Building σ Γ α} {meant : Store σ Γ → Behaviour σ α}
  {C : Building σ Γ β} {meant' : Store σ Γ → Behaviour σ β}

theorem leaf {b : Store σ Γ → Behaviour σ α} {b' : Store (σ × Memory) Γ → Behaviour (σ × Memory) α}
    (h : ∀ K s s', s.Corresponds (.owning quiet K) Set.univ s' →
      Alike quiet K (b s) (b' s')) :
    (Building.leaf b').Implements quiet b where
  grown := Memory.Grown.refl
  missed _ := rfl
  runs _ K _ _ := h K

theorem one {f : Behaviour σ α → Behaviour σ β}
    {f' : Behaviour (σ × Memory) α → Behaviour (σ × Memory) β} (h : B.Implements quiet meant)
    (hf : ∀ K b b', Alike quiet K b b' → Alike quiet K (f b) (f' b')) :
    (Building.one f' B).Implements quiet fun s => f (meant s) where
  grown := h.grown
  missed := h.missed
  runs m K size found s s' hs := hf K _ _ (h.runs m K size found s s' hs)

theorem two {f : Behaviour σ α → Behaviour σ β → Behaviour σ γ}
    {f' : Behaviour (σ × Memory) α → Behaviour (σ × Memory) β → Behaviour (σ × Memory) γ}
    (hB : B.Implements quiet meant) (hC : C.Implements quiet meant')
    (hf : ∀ K b b' c c', Alike quiet K b b' → Alike quiet K c c' →
      Alike quiet K (f b c) (f' b' c')) :
    (Building.two f' B C).Implements quiet fun s => f (meant s) (meant' s) where
  grown m := (hB.grown m).trans (hC.grown (B m).2)
  missed m := (hC.missed (B m).2).trans (hB.missed m)
  runs m K size found s s' hs := by
    have first := hB.grown m
    have second := hC.grown (B m).2
    apply hf
    · exact hB.runs m K (second.next_le.trans size) (second.found_before found) s s' hs
    · refine hC.runs (B m).2 K size (fun a low high => ?_) s s' hs
      exact found a (first.next_le.trans low) high

/-- A parser that is built, run and dropped leaves nothing behind. -/
theorem once (h : B.Implements quiet meant) {K : Census} {s : Store σ Γ}
    {s' : Store (σ × Memory) Γ} (hs : s.Corresponds (.owning quiet K) Set.univ s') :
    Alike quiet K (meant s) (B.once s') := by
  intro t ht state m hm
  have grown := h.grown m
  have later (m₁ : Memory) (h₁ : m₁.Agrees (B m).2.census) : m₁.Agrees K := by
    have agrees := hm.grown grown
    exact ⟨agrees.1.trans h₁.1, fun a ha =>
      (h₁.2 a (Nat.lt_of_lt_of_le ha agrees.1)).trans (agrees.2 a ha)⟩
  have runs := h.runs m (B m).2.census (Nat.le_refl _) (fun _ _ _ => rfl) s s'
    fun _ g => owning_mono later (hs g)
  obtain ⟨m₂, h₂, grown₂, silent, hP⟩ := runs t ht state (B m).2 (B m).2.agrees_census
  have whole := grown.trans grown₂
  rw [List.append_nil] at whole
  refine ⟨m₂.drop (B m).1.owned, ?_, whole.drop, fun q => ?_, hP⟩
  · simp only [Building.once, Run.outcome_ofOutcome, h₂]
  · rw [Memory.drop_missed, silent q, h.missed]

theorem bind {next : α → Building σ Γ β} {meant' : α → Store σ Γ → Behaviour σ β}
    (h : B.Implements quiet meant) (hn : ∀ a, (next a).Implements quiet (meant' a)) :
    (Building.bind B next).Implements quiet fun s => (meant s).bind fun a => meant' a s where
  grown := h.grown
  missed := h.missed
  runs m K size found s s' hs := (h.runs m K size found s s' hs).bind fun a => (hn a).once hs

/-- A definition that is kept is found by its own handles, however deep it is used. -/
theorem tied {D : Building σ (β :: Γ) β} {meant : Store σ (β :: Γ) → Behaviour σ β}
    (hD : D.Implements quiet meant) {m : Memory} {K : Census}
    (size : (D m.allocate).2.next ≤ K.size) (here : K.lifetime m.next = .alive)
    (inner : ∀ a, m.next < a → a < (D m.allocate).2.next →
      K.lifetime a = ((D m.allocate).2.slot a).lifetime)
    {s : Store σ Γ} {s' : Store (σ × Memory) Γ} (hs : s.Corresponds (.owning quiet K) Set.univ s')
    (depth : Nat) :
    Alike quiet K (unfold (fun b => meant (s.push (.alive b))) depth)
      (unfold (fun b => (D m.allocate).1.behaviour
        (s'.push (.alive (follow m.next (D m.allocate).1.owned b)))) depth) := by
  have below : m.next < K.size := (hD.grown m.allocate).next_le.trans size
  refine unfold_of_halt (owning_halt .tooDeep) (fun b b' hb => ?_) depth
  exact hD.runs m.allocate K size inner _ _ (hs.push (owning_follow below here _ hb))

/-- The slot of the definition comes before those that the definition takes, and these before those
of the parser that it is made for. -/
theorem define {D : Building σ (β :: Γ) β} {B : Building σ (β :: Γ) α} {meant : Store σ _ → _}
    {meant' : Store σ _ → _} (hD : D.Implements quiet meant) (hB : B.Implements quiet meant')
    (depth : Nat) {state : Lifetime} (hq : quiet → state = .alive) :
    (Building.define depth state D B).Implements quiet fun s =>
      let tied := Backtrack.unfold (fun b => meant (s.push (.alive b))) depth
      meant' (s.push (state.cell tied)) := by
  have made (m : Memory) := (Memory.Grown.allocate m).trans (hD.grown m.allocate)
  have settled (m : Memory) := (made m).settle state
  constructor
  · exact fun m => (settled m).trans (hB.grown _)
  · exact fun m => (hB.missed _).trans ((Memory.settle_missed state _ _ _).trans (hD.missed _))
  · intro m K size found s s' hs
    have inner := hD.grown m.allocate
    have body := hB.grown ((D m.allocate).2.settle m.next (D m.allocate).1.owned state)
    have next := Memory.settle_next state (D m.allocate).2 m.next (D m.allocate).1.owned
    have below : m.next < (D m.allocate).2.next := inner.next_le
    have upTo : (D m.allocate).2.next ≤ K.size := (next ▸ body.next_le).trans size
    have kept := body.found_before found
    rw [next] at kept
    have here : K.lifetime m.next = state := by
      have new : (D m.allocate).2.slot m.next = ⟨1, false⟩ :=
        (inner.old m.next (Nat.lt_succ_self _)).trans (if_pos rfl)
      exact (kept m.next (Nat.le_refl _) below).trans (Memory.lifetime_settle state (made m) new)
    have tied (alive : state = .alive) := by
      subst alive
      refine hD.tied upTo here (fun a low high => ?_) hs depth
      rw [kept a (Nat.le_of_lt low) high, Memory.settle, Memory.fill,
        Memory.slot_set_of_ne _ (Nat.ne_of_gt low)]
    refine hB.runs _ K size (fun a low high => ?_) _ _
      (hs.push (owning_follow_cell (Nat.lt_of_lt_of_le below upTo) here hq _ tied))
    exact found a ((settled m).next_le.trans low) high

end Building.Implements

namespace Parser

open Correspondence

/-- Every definition is kept by the parser that it is made for, also in the parsers that are made on
the fly. -/
def Contained : {Γ : Scopes} → {α : Type} → Parser Γ α → Prop
  | _, _, pure _ | _, _, empty | _, _, raise _ | _, _, endOfText | _, _, item => True
  | _, _, grapheme | _, _, literal _ | _, _, pattern _ | _, _, custom _ | _, _, handle _ => True
  | _, _, tryMap p _ | _, _, tryFilter p _ | _, _, optional p | _, _, many p => p.Contained
  | _, _, some p | _, _, token p | _, _, debug _ p => p.Contained
  | _, _, bind p next => p.Contained ∧ ∀ a, (next a).Contained
  | _, _, union p q | _, _, committed p q | _, _, orElse p q => p.Contained ∧ q.Contained
  | _, _, separatedByAtLeastOne p q | _, _, separatedBy p q => p.Contained ∧ q.Contained
  | _, _, chain p q | _, _, .then p q | _, _, ap p q => p.Contained ∧ q.Contained
  | _, _, define state definition body =>
    state = .alive ∧ definition.Contained ∧ body.Contained

theorem build_implements_of_primitive (quiet : Prop) {Γ : Scopes} {p : Parser Γ α}
    (d : Debugger σ) (depth : Nat) (h : p.Primitive) :
    (p.build d depth).Implements quiet (p.behaviour d depth) := by
  have same : p.build d depth = .leaf (p.behaviour d.withMemory depth) := by
    cases p <;> first | rfl | exact h.elim
  rw [same]
  exact .leaf fun _ s s' _ => h.corresponds p.customs_univ suffixClosed_univ s s'

/-- A parser that is built does what the behaviour of the parser says. The induction is on how the
parser is made, as its building is. -/
theorem build_implements (quiet : Prop) {Γ : Scopes} (p : Parser Γ α) (hp : quiet → p.Contained)
    (d : Debugger σ) (depth : Nat) :
    (p.build d depth).Implements quiet (p.behaviour d depth) := by
  induction p with
  | pure | empty | raise | endOfText | item | grapheme | literal | pattern | custom =>
    exact build_implements_of_primitive quiet d depth trivial
  | tryMap _ f ih => exact (ih hp).one fun _ _ _ h => h.tryMap f
  | bind _ _ ih ihn => exact (ih fun q => (hp q).1).bind fun a => ihn a fun q => (hp q).2 a
  | union _ _ ih₁ ih₂ =>
    exact (ih₁ fun q => (hp q).1).two (ih₂ fun q => (hp q).2) fun _ _ _ _ _ h h' => h.union h'
  | committed _ _ ih₁ ih₂ =>
    exact (ih₁ fun q => (hp q).1).two (ih₂ fun q => (hp q).2) fun _ _ _ _ _ h h' => h.committed h'
  | orElse _ _ ih₁ ih₂ =>
    exact (ih₁ fun q => (hp q).1).two (ih₂ fun q => (hp q).2) fun _ _ _ _ _ h h' => h.orElse h'
  | tryFilter _ keep ih => exact (ih hp).one fun _ _ _ h => h.tryFilter keep
  | optional _ ih => exact (ih hp).one fun _ _ _ h => h.optional
  | many _ ih => exact (ih hp).one fun _ _ _ h => h.many
  | some _ ih => exact (ih hp).one fun _ _ _ h => h.some h
  | separatedByAtLeastOne _ _ ih₁ ih₂ =>
    exact (ih₁ fun q => (hp q).1).two (ih₂ fun q => (hp q).2)
      fun _ _ _ _ _ h h' => h.separatedByAtLeastOne h h'
  | separatedBy _ _ ih₁ ih₂ =>
    exact (ih₁ fun q => (hp q).1).two (ih₂ fun q => (hp q).2)
      fun _ _ _ _ _ h h' => h.separatedBy h h' subset_rfl
  | chain _ _ ih₁ ih₂ =>
    exact (ih₁ fun q => (hp q).1).two (ih₂ fun q => (hp q).2) fun _ _ _ _ _ h h' => h.chain h h'
  | «then» _ _ ih₁ ih₂ =>
    exact (ih₁ fun q => (hp q).1).two (ih₂ fun q => (hp q).2) fun _ _ _ _ _ h h' => h.then h'
  | ap _ _ ih₁ ih₂ =>
    exact (ih₁ fun q => (hp q).1).two (ih₂ fun q => (hp q).2) fun _ _ _ _ _ h h' => h.ap h'
  | token _ ih => exact (ih hp).one fun _ _ _ h => h.token (suffixClosed_univ.pattern .blanks)
  | debug mark _ ih => exact (ih hp).one fun _ _ _ h => owning_debug d mark h
  | handle h => exact .leaf fun _ _ _ hs => hs h
  | define state _ _ ih₁ ih₂ =>
    exact .define (ih₁ fun q => (hp q).2.1) (ih₂ fun q => (hp q).2.2) depth fun q => (hp q).1

end Parser

/-! ## Sessions -/

/-- Runs the behaviour on one text after the other, however the runs end. -/
def runAll (b : Behaviour σ α) : List Text → σ → List (Except Halt (Candidates α)) × σ
  | [], state => ([], state)
  | t :: texts, state =>
    let (result, state) := (b t).outcome state
    let (results, state) := runAll b texts state
    (result :: results, state)

theorem Correspondence.owning_runAll {quiet : Prop} {K : Census} {b : Behaviour σ α}
    {b' : Behaviour (σ × Memory) α} (h : Alike quiet K b b')
    (texts : List Text) (state : σ) {m : Memory} (hm : m.Agrees K) :
    ∃ m', runAll b' texts (state, m) =
        ((runAll b texts state).1, (runAll b texts state).2, m') ∧
      m.Grown m' [] ∧ (quiet → m'.missed = m.missed) := by
  induction texts generalizing state m with
  | nil => exact ⟨m, rfl, .refl m, fun _ => rfl⟩
  | cons t texts ih =>
    obtain ⟨m₁, h₁, grown₁, quiet₁, -⟩ := h t trivial state m hm
    obtain ⟨m₂, h₂, grown₂, quiet₂⟩ := ih ((b t).outcome state).2 (hm.grown grown₁)
    refine ⟨m₂, ?_, grown₁.trans grown₂, fun q => (quiet₂ q).trans (quiet₁ q)⟩
    simp only [runAll, h₁, h₂]

/-- **Handles find their definitions.** A parser is built and then run on any texts, one after the
other, whatever the results. What becomes of its definitions is left to the owners that they have.
The results are those of the behaviour of the parser. If every definition is kept by the parser
that it was made for, no handle is ever run without its definition, neither in the building nor in
the runs. The runs leave no slot with an owner that they have taken, and with the parser all of its
slots go. -/
theorem handles_find_definitions (p : Parser [] α) (d : Debugger σ) (depth : Nat)
    (texts : List Text) (state : σ) (m : Memory) :
    let built := p.build d depth m
    let ran := runAll (p.behaviour d depth .empty) texts state
    built.2.missed = m.missed ∧
      ∃ m', runAll (built.1.behaviour .empty) texts (state, built.2) = (ran.1, ran.2, m') ∧
        (p.Contained → m'.missed = m.missed) ∧ m.Grown m' built.1.owned.slots ∧
        m.Grown (m'.drop built.1.owned) [] := by
  have implements := p.build_implements p.Contained id d depth
  have missed := implements.missed m
  have behaves := implements.runs m (p.build d depth m).2.census (Nat.le_refl _)
    (fun _ _ _ => rfl) .empty .empty (Store.empty_corresponds _ _)
  obtain ⟨m', same, grown, silent⟩ :=
    Correspondence.owning_runAll behaves texts state (Memory.agrees_census _)
  have whole := (implements.grown m).trans grown
  rw [List.append_nil] at whole
  exact ⟨missed, m', same, fun contained => (silent contained).trans missed, whole, whole.drop⟩

/-- Parentheses with the depth to which they are nested. What comes after an opening one is read by
a definition made on the fly, which uses the handle around it, and its own behind a blank. -/
def parentheses : Parser [Nat] Nat :=
  ((Parser.literal ['(']).bind fun _ => .recursive
    (((Parser.literal [' ']).ignoreThen .self).orElse
      (((Parser.handle (.outer .here)).thenIgnore (.literal [')'])).map (· + 1)))).orElse (.pure 0)

/-- The definition, and then its handle once more. -/
def twice : Parser [] (Nat × Nat) := .define .alive parentheses (parentheses.then .self)

theorem handles_find_definitions_twice :
    twice.Contained ∧
      ∃ m', runAll ((twice.build .silent 4 {}).1.behaviour .empty)
          [['(', ' ', '(', ')', ')', '(', ')'], ['(']] ((), (twice.build .silent 4 {}).2) =
            ([.ok [((2, 1), [])], .ok [((0, 0), ['('])]], (), m') ∧ m'.missed = false := by
  have kept : parentheses.Contained := by
    simp [parentheses, Parser.Contained, Parser.recursive, Parser.ignoreThen, Parser.thenIgnore,
      Parser.map, Parser.self]
  have contained : twice.Contained := ⟨rfl, kept, kept, trivial⟩
  obtain ⟨-, m', same, found, -⟩ := handles_find_definitions twice .silent 4
    [['(', ' ', '(', ')', ')', '(', ')'], ['(']] () {}
  exact ⟨contained, m', same, found contained⟩

/-- A handle that outlives its definition. -/
def escaped : Parser [] Nat := .define .dropped (.pure 1) .self

example : let built := escaped.build .silent 1 {}
    (runAll (built.1.behaviour .empty) [[]] ((), built.2)).2.2.missed = true := by
  decide

end Backtrack
