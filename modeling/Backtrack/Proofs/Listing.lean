import Backtrack.Behaviour
import Mathlib.Data.Fin.SuccPred

/-!
# Lists of alternatives

A run lists the elements of a type if its candidates are those of all the elements, each of
them once, in the order of the choices that they stand for. The operations that join
candidates are checked here for what they list: above all `Lists.fromEach`.
-/

namespace Backtrack

/-- Two lists of choices differ for the first time where the first list has the lower one. -/
inductive Before : List Nat → List Nat → Prop
  | head {i j : Nat} {u v : List Nat} (h : i < j) : Before (i :: u) (j :: v)
  | tail {i : Nat} {u v : List Nat} (h : Before u v) : Before (i :: u) (i :: v)

namespace Before

variable {u v : List Nat}

/-- What is chosen later does not count. -/
theorem append (h : Before u v) (x y : List Nat) : Before (u ++ x) (v ++ y) := by
  induction h with
  | head h => exact .head h
  | tail _ ih => exact .tail ih

theorem append_left (h : Before u v) (w : List Nat) : Before (w ++ u) (w ++ v) := by
  induction w with
  | nil => exact h
  | cons i w ih => exact .tail ih

theorem lex (h : Before u v) : List.Lex (· < ·) u v := by
  induction h with
  | head h => exact .rel h
  | tail _ ih => exact .cons ih

end Before

/-- Applying a function is going on with its value. -/
theorem mapEach_eq_fromEach {σ α β : Type} (f : α → Attempt β) :
    (mapEach f : Candidates α → Run σ _) =
      fromEach fun a rest => do let b ← Run.attempt (f a); return [(b, rest)] := by
  funext cs
  induction cs with
  | nil => rfl
  | cons c cs ih =>
    simp only [mapEach, fromEach, ih, bind_assoc, pure_bind, List.singleton_append]

/-- Testing is going on with the candidates that pass. -/
theorem filterEach_eq_fromEach {σ α : Type} (keep : α → Attempt Bool) :
    (filterEach keep : Candidates α → Run σ _) =
      fromEach fun a rest => do
        let kept ← Run.attempt (keep a)
        return if kept then [(a, rest)] else [] := by
  funext cs
  induction cs with
  | nil => rfl
  | cons c cs ih =>
    simp only [filterEach, fromEach, ih, bind_assoc, pure_bind]
    apply bind_congr
    intro kept
    cases kept <;> rfl

universe u v w

variable {σ α β : Type} {R : Type u} {T : Type w}

/-- The candidates of the run, if it has a result, are those of all elements of the type, in the
order of their choices. -/
def Lists (r : Run σ (Candidates α)) (candidate : R → α × Text) (choices : R → List Nat) : Prop :=
  ∀ state cs state', r.outcome state = (.ok cs, state') →
    ∃ xs : List R, xs.map candidate = cs ∧
      xs.Pairwise (fun x y => Before (choices x) (choices y)) ∧ ∀ x, x ∈ xs

namespace Lists

variable {r : Run σ (Candidates α)} {candidate : R → α × Text} {choices : R → List Nat}

theorem halt (h : Halt) : Lists (Run.halt h : Run σ (Candidates α)) candidate choices :=
  nofun

/-- What another type stands for, with a function onto it. -/
theorem image (h : Lists r candidate choices) {candidate' : T → α × Text} {choices' : T → List Nat}
    (f : R → T) (hcandidate : ∀ x, candidate' (f x) = candidate x)
    (hchoices : ∀ x, choices' (f x) = choices x) (onto : ∀ z, ∃ x, z = f x) :
    Lists r candidate' choices' := by
  intro state cs state' hr
  obtain ⟨xs, rfl, sorted, all⟩ := h state cs state' hr
  refine ⟨xs.map f, ?_, ?_, ?_⟩
  · rw [List.map_map]
    exact List.map_congr_left fun x _ => hcandidate x
  · rw [List.pairwise_map]
    simpa only [hchoices] using sorted
  · intro z
    obtain ⟨x, rfl⟩ := onto z
    exact List.mem_map_of_mem (all x)

/-- At most one candidate, and no choice. -/
theorem split (f : Text → Option (α × Text)) (t : Text) :
    Lists (Behaviour.split f t : Run σ _) (fun y : {y // f t = some y} => y.1) (fun _ => []) := by
  intro state cs state' hr
  cases hr
  cases hf : f t with
  | none => exact ⟨[], rfl, .nil, nofun⟩
  | some y =>
    refine ⟨[⟨y, rfl⟩], rfl, List.pairwise_singleton _ _, ?_⟩
    rintro ⟨_, ⟨⟩⟩
    exact List.mem_singleton_self _

/-- Any candidates, with the choice of one of them. -/
theorem given (cs : Candidates α) :
    Lists (pure cs : Run σ _) cs.get (fun i => [i.1]) := by
  intro state _ state' hr
  cases hr
  refine ⟨List.finRange cs.length, ?_, ?_, List.mem_finRange⟩
  · exact List.ext_getElem (by simp) fun _ _ _ => by simp
  · exact (List.pairwise_lt_finRange cs.length).imp fun h => .head h

/-- The value of an attempt, as a candidate. -/
theorem attempt (x : Attempt α) (rest : Text) :
    Lists (do let a ← Run.attempt x; return [(a, rest)] : Run σ _)
      (fun y : {a // x = .ok a} => (y.1, rest)) (fun _ => []) := by
  intro state cs state' hr
  cases x with
  | error f => cases hr
  | ok a =>
    cases hr
    refine ⟨[⟨a, rfl⟩], rfl, List.pairwise_singleton _ _, ?_⟩
    rintro ⟨_, ⟨⟩⟩
    exact List.mem_singleton_self _

/-- A candidate, if the test passes. -/
theorem test (x : Attempt Bool) (c : α × Text) :
    Lists (do let kept ← Run.attempt x; return if kept then [c] else [] : Run σ _)
      (fun _ : PLift (x = .ok true) => c) (fun _ => []) := by
  intro state cs state' hr
  rcases x with f | _ | _
  · cases hr
  · cases hr
    exact ⟨[], rfl, .nil, nofun⟩
  · cases hr
    exact ⟨[⟨rfl⟩], rfl, List.pairwise_singleton _ _, fun _ => List.mem_singleton_self _⟩

/-- The alternatives of both runs, those of the first one before those of the second. -/
theorem append {S : Type v} {r₂ : Run σ (Candidates α)} {candidate₂ : S → α × Text}
    {choices₂ : S → List Nat} {candidate₃ : T → α × Text} {choices₃ : T → List Nat}
    (first : Lists r candidate choices) (second : Lists r₂ candidate₂ choices₂) (left : R → T)
    (right : S → T) (hleft : ∀ x, candidate₃ (left x) = candidate x)
    (hright : ∀ y, candidate₃ (right y) = candidate₂ y)
    (zero : ∀ x, choices₃ (left x) = 0 :: choices x)
    (one : ∀ y, choices₃ (right y) = 1 :: choices₂ y)
    (onto : ∀ z, (∃ x, z = left x) ∨ ∃ y, z = right y) :
    Lists (do return (← r) ++ (← r₂)) candidate₃ choices₃ := by
  intro state cs state' hr
  obtain ⟨cs₁, state₁, h₁, hr⟩ := Run.outcome_bind_eq_ok hr
  obtain ⟨cs₂, state₂, h₂, hr⟩ := Run.outcome_bind_eq_ok hr
  cases hr
  obtain ⟨xs, rfl, sorted₁, all₁⟩ := first _ _ _ h₁
  obtain ⟨ys, rfl, sorted₂, all₂⟩ := second _ _ _ h₂
  refine ⟨xs.map left ++ ys.map right, ?_, ?_, ?_⟩
  · rw [List.map_append, List.map_map, List.map_map]
    congr 1
    · exact List.map_congr_left fun x _ => hleft x
    · exact List.map_congr_left fun y _ => hright y
  · refine List.pairwise_append.mpr ⟨?_, ?_, ?_⟩
    · rw [List.pairwise_map]
      exact sorted₁.imp fun h => by simpa only [zero] using .tail h
    · rw [List.pairwise_map]
      exact sorted₂.imp fun h => by simpa only [one] using .tail h
    · intro z hz z' hz'
      obtain ⟨x, -, rfl⟩ := List.mem_map.mp hz
      obtain ⟨y, -, rfl⟩ := List.mem_map.mp hz'
      rw [zero, one]
      exact .head Nat.zero_lt_one
  · intro z
    rcases onto z with ⟨x, rfl⟩ | ⟨y, rfl⟩
    · exact List.mem_append_left _ (List.mem_map_of_mem (all₁ x))
    · exact List.mem_append_right _ (List.mem_map_of_mem (all₂ y))

section Sequence

variable {S : R → Type v} {next : α → Behaviour σ β} {candidate₂ : ∀ x, S x → β × Text}
  {choices₂ : ∀ x, S x → List Nat} {candidate₃ : T → β × Text} {choices₃ : T → List Nat}
  {join : ∀ x, S x → T}

/-- Each element of the list in order, followed by all that can follow it. -/
theorem fromEach_list (hcandidate : ∀ x y, candidate₃ (join x y) = candidate₂ x y)
    (hchoices : ∀ x y, choices₃ (join x y) = choices x ++ choices₂ x y)
    (later : ∀ x, Lists (next (candidate x).1 (candidate x).2) (candidate₂ x) (choices₂ x))
    {xs : List R} (sorted : xs.Pairwise fun x y => Before (choices x) (choices y))
    {state state' : σ} {cs : Candidates β}
    (hr : (fromEach next (xs.map candidate)).outcome state = (.ok cs, state')) :
    ∃ zs : List T, zs.map candidate₃ = cs ∧
      zs.Pairwise (fun x y => Before (choices₃ x) (choices₃ y)) ∧
      (∀ z ∈ zs, ∃ x ∈ xs, ∃ y, z = join x y) ∧ ∀ x ∈ xs, ∀ y, join x y ∈ zs := by
  induction xs generalizing state cs with
  | nil =>
    cases hr
    exact ⟨[], rfl, .nil, nofun, nofun⟩
  | cons x xs ih =>
    obtain ⟨cs₁, state₁, h₁, hr⟩ := Run.outcome_bind_eq_ok hr
    obtain ⟨cs₂, state₂, h₂, hr⟩ := Run.outcome_bind_eq_ok hr
    cases hr
    obtain ⟨first, sorted⟩ := List.pairwise_cons.mp sorted
    obtain ⟨ys, rfl, sorted₁, all₁⟩ := later x _ _ _ h₁
    obtain ⟨zs, rfl, sorted₂, from₂, all₂⟩ := ih sorted h₂
    refine ⟨ys.map (join x) ++ zs, ?_, ?_, ?_, ?_⟩
    · rw [List.map_append, List.map_map]
      congr 1
      exact List.map_congr_left fun y _ => hcandidate x y
    · refine List.pairwise_append.mpr ⟨?_, sorted₂, ?_⟩
      · rw [List.pairwise_map]
        exact sorted₁.imp fun h => by simpa only [hchoices] using h.append_left (choices x)
      · intro z hz z' hz'
        obtain ⟨y, -, rfl⟩ := List.mem_map.mp hz
        obtain ⟨x', hx', y', rfl⟩ := from₂ z' hz'
        rw [hchoices, hchoices]
        exact (first x' hx').append _ _
    · intro z hz
      rcases List.mem_append.mp hz with hz | hz
      · obtain ⟨y, -, rfl⟩ := List.mem_map.mp hz
        exact ⟨x, List.mem_cons_self, y, rfl⟩
      · obtain ⟨x', hx', y, rfl⟩ := from₂ z hz
        exact ⟨x', List.mem_cons_of_mem x hx', y, rfl⟩
    · intro x' hx' y
      rcases List.mem_cons.mp hx' with rfl | hx'
      · exact List.mem_append_left _ (List.mem_map_of_mem (all₁ y))
      · exact List.mem_append_right _ (all₂ x' hx' y)

/-- One part after another: what is chosen in the first part counts for more. -/
theorem fromEach (first : Lists r candidate choices)
    (later : ∀ x, Lists (next (candidate x).1 (candidate x).2) (candidate₂ x) (choices₂ x))
    (join : ∀ x, S x → T) (hcandidate : ∀ x y, candidate₃ (join x y) = candidate₂ x y)
    (hchoices : ∀ x y, choices₃ (join x y) = choices x ++ choices₂ x y)
    (onto : ∀ z, ∃ x y, z = join x y) :
    Lists (r >>= fromEach next) candidate₃ choices₃ := by
  intro state cs state' hr
  obtain ⟨cs₁, state₁, h₁, hr⟩ := Run.outcome_bind_eq_ok hr
  obtain ⟨xs, rfl, sorted, all⟩ := first _ _ _ h₁
  obtain ⟨zs, hcs, sorted, -, complete⟩ := fromEach_list hcandidate hchoices later sorted hr
  refine ⟨zs, hcs, sorted, fun z => ?_⟩
  obtain ⟨x, y, rfl⟩ := onto z
  exact complete x (all x) y

end Sequence

/-- The results to which the function was applied. -/
theorem mapEach (first : Lists r candidate choices) (f : α → Attempt β) :
    Lists (r >>= mapEach f)
      (fun z : (x : R) × {b // f (candidate x).1 = .ok b} => (z.2.1, (candidate z.1).2))
      (fun z => choices z.1) := by
  rw [mapEach_eq_fromEach]
  exact first.fromEach (fun x => attempt (f (candidate x).1) (candidate x).2) Sigma.mk
    (fun _ _ => rfl) (fun _ _ => (List.append_nil _).symm) fun z => ⟨z.1, z.2, rfl⟩

/-- The results that pass the test. -/
theorem filterEach (first : Lists r candidate choices) (keep : α → Attempt Bool) :
    Lists (r >>= filterEach keep)
      (fun z : {x : R // keep (candidate x).1 = .ok true} => candidate z.1)
      (fun z => choices z.1) := by
  rw [filterEach_eq_fromEach]
  exact first.fromEach (fun x => test (keep (candidate x).1) (candidate x)) (fun x h => ⟨x, h.1⟩)
    (fun _ _ => rfl) (fun _ _ => (List.append_nil _).symm) fun z => ⟨z.1, ⟨z.2⟩, rfl⟩

theorem map (first : Lists r candidate choices) (f : α × Text → β × Text) :
    Lists (do return (← r).map f) (fun x => f (candidate x)) choices := by
  intro state cs state' hr
  obtain ⟨cs₁, state₁, h₁, hr⟩ := Run.outcome_bind_eq_ok hr
  cases hr
  obtain ⟨xs, rfl, sorted, all⟩ := first _ _ _ h₁
  exact ⟨xs, (List.map_map ..).symm, sorted, all⟩

/-- What is left behind the white space, if the pattern of white space matches. -/
theorem blanks (a : α) (t : Text) :
    Lists (do return ((← Behaviour.blanks t).take 1).map fun (_, rest) => (a, rest) : Run σ _)
      (fun z : {z // Pattern.blanks.split t = some z} => (a, z.1.2)) (fun _ => []) := by
  intro state cs state' hr
  cases hr
  cases h : Pattern.blanks.split t with
  | none => exact ⟨[], rfl, .nil, nofun⟩
  | some z =>
    refine ⟨[⟨z, rfl⟩], rfl, List.pairwise_singleton _ _, ?_⟩
    rintro ⟨_, ⟨⟩⟩
    exact List.mem_singleton_self _

/-- The alternatives of a behaviour, and behind them the one that reads nothing. -/
theorem optional {b : Behaviour σ α} {t : Text} (h : Lists (b t) candidate choices) :
    Lists (b.optional t)
      (fun z : Option R => z.elim (none, t) fun x => (some (candidate x).1, (candidate x).2))
      (fun z => z.elim [1] fun x => 0 :: choices x) := by
  intro state cs state' hr
  obtain ⟨cs₁, state₁, h₁, hr⟩ := Run.outcome_bind_eq_ok hr
  cases hr
  obtain ⟨xs, rfl, sorted, all⟩ := h _ _ _ h₁
  refine ⟨xs.map some ++ [none], ?_, ?_, ?_⟩
  · simp only [List.map_append, List.map_map, List.map_cons, List.map_nil, Option.elim_none]
    rfl
  · refine List.pairwise_append.mpr ⟨?_, List.pairwise_singleton _ _, ?_⟩
    · rw [List.pairwise_map]
      exact sorted.imp .tail
    · intro z hz z' hz'
      obtain ⟨x, -, rfl⟩ := List.mem_map.mp hz
      cases List.mem_singleton.mp hz'
      exact .head Nat.zero_lt_one
  · rintro (_ | x)
    · exact List.mem_append_right _ (List.mem_singleton_self _)
    · exact List.mem_append_left _ (List.mem_map_of_mem (all x))

/-- A debugger adds no candidate and takes none away. -/
theorem debug {b : Behaviour σ α} {t : Text} (h : Lists (b t) candidate choices) (d : Debugger σ)
    (mark : Mark) : Lists (b.debug d mark t) candidate choices := by
  intro state cs state' hr
  obtain ⟨-, state₁, -, hr⟩ := Run.outcome_bind_eq_ok hr
  obtain ⟨found, state₂, hfound, hr⟩ := Run.outcome_bind_eq_ok hr
  obtain ⟨-, state₃, -, hr⟩ := Run.outcome_bind_eq_ok hr
  cases hr
  exact h _ _ _ hfound

end Lists

/-- A list of all elements in the order of their choices numbers them. -/
theorem exists_numbering {choices : R → List Nat} {xs : List R}
    (sorted : xs.Pairwise fun x y => Before (choices x) (choices y)) (all : ∀ x, x ∈ xs) :
    ∃ e : Fin xs.length ≃ R, (∀ i, e i = xs[i]) ∧
      ∀ i j, i < j ↔ List.Lex (· < ·) (choices (e i)) (choices (e j)) := by
  have increasing (i j : Fin xs.length) (h : i < j) :
      List.Lex (· < ·) (choices xs[i]) (choices xs[j]) :=
    (List.pairwise_iff_getElem.mp sorted i j i.2 j.2 h).lex
  have distinct : Function.Injective fun i : Fin xs.length => xs[i] := by
    intro i j h
    have same : choices xs[i] = choices xs[j] := congrArg choices h
    rcases Nat.lt_trichotomy i j with hij | hij | hij
    · exact absurd (same ▸ increasing i j hij) (List.lt_irrefl _)
    · exact Fin.ext hij
    · exact absurd (same ▸ increasing j i hij) (List.lt_irrefl _)
  have complete : Function.Surjective fun i : Fin xs.length => xs[i] := by
    intro x
    obtain ⟨i, hi, h⟩ := List.mem_iff_getElem.mp (all x)
    exact ⟨⟨i, hi⟩, h⟩
  refine ⟨Equiv.ofBijective _ ⟨distinct, complete⟩, fun _ => rfl, fun i j => ⟨increasing i j, ?_⟩⟩
  intro h
  rcases Nat.lt_trichotomy i j with hij | hij | hij
  · exact hij
  · cases Fin.ext hij
    exact absurd h (List.lt_irrefl _)
  · exact absurd h (List.lt_asymm (increasing j i hij))

/-- So the candidates of a run that lists the elements are numbered by them. -/
theorem Lists.numbering {r : Run σ (Candidates α)} {candidate : R → α × Text}
    {choices : R → List Nat} (h : Lists r candidate choices) {state state' : σ} {cs : Candidates α}
    (hr : r.outcome state = (.ok cs, state')) :
    ∃ e : Fin cs.length ≃ R, (∀ i, cs.get i = candidate (e i)) ∧
      ∀ i j, i < j ↔ List.Lex (· < ·) (choices (e i)) (choices (e j)) := by
  obtain ⟨xs, rfl, sorted, all⟩ := h state cs state' hr
  obtain ⟨e, he, order⟩ := exists_numbering sorted all
  have length : (xs.map candidate).length = xs.length := List.length_map _
  refine ⟨(finCongr length).trans e, fun i => ?_, fun i j => order (i.cast length) (j.cast length)⟩
  change (xs.map candidate).get i = candidate (e (i.cast length))
  rw [he, List.get_eq_getElem, List.getElem_map]
  rfl

end Backtrack
