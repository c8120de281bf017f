import Backtrack.Proofs.Greedy
import Backtrack.Proofs.Sequencing
import Backtrack.Proofs.Slice

/-!
# Lists with separators

A list of elements that was written with a separator between them is read back, and a separator
that no element follows is left: `separatedBy_undoes_join`. An element parser may have further
candidates, and a list is read behind each of those for the first element, although only the first
list is kept. So the run is cut short where the parser is cut short behind one of them:
`separatedBy_ne_join`.
-/

namespace Backtrack

variable {α β : Type}

/-! ## The next element -/

/-- Reads the separator and then an element. -/
def Behaviour.nextElement (separator : Text) (b : Behaviour Unit α) : Behaviour Unit α :=
  (Behaviour.split fun t => (stripStart separator t).map (separator, ·)).bind fun _ => b

section

variable {separator : Text} (b : Behaviour Unit α)

theorem nextElement_append (u : Text) : b.nextElement separator (separator ++ u) = b u := by
  simp only [Behaviour.nextElement, Behaviour.bind, Behaviour.split, stripStart_append,
    Option.map_some, Option.toList_some, pure_bind, fromEach_singleton]

theorem nextElement_of_none {t : Text} (h : stripStart separator t = none) :
    b.nextElement separator t = pure [] := by
  simp only [Behaviour.nextElement, Behaviour.bind, Behaviour.split, h, Option.map_none,
    Option.toList_none, pure_bind, fromEach]

theorem nextElement_nil (h : separator ≠ []) : b.nextElement separator [] = pure [] := by
  apply nextElement_of_none
  cases separator with
  | nil => exact absurd rfl h
  | cons c separator => rfl

variable (separator) in
/-- What is read of the next element is read behind a separator. -/
theorem nextElement_cases (t : Text) : b.nextElement separator t = pure [] ∨
    ∃ u, t = separator ++ u ∧ b.nextElement separator t = b u := by
  rcases h : stripStart separator t with _ | u
  · exact .inl (nextElement_of_none b h)
  · obtain rfl := append_of_stripStart h
    exact .inr ⟨u, rfl, nextElement_append b u⟩

/-! ## The elements behind the first one -/

/-- On texts up to a length, the behaviour has the element for its first candidate where it is
written, at the end of the text or in front of a separator. -/
def ReadsElement (b : Behaviour Unit α) (separator : Text) (length : Nat) (written : Text)
    (x : α) : Prop :=
  ∀ r, r = [] ∨ separator <+: r → (written ++ r).length ≤ length →
    FirstOf b.answer (written ++ r) (x, r)

/-- There is no further element: the text is at its end, or no element is behind the separator. -/
def NoElement (b : Behaviour Unit α) (separator rest : Text) : Prop :=
  rest = [] ∨ ∃ t, rest = separator ++ t ∧ NoneOf b.answer t

variable {b} {write : α → Text} {rest : Text}

theorem NoElement.stops (h : NoElement b separator rest) : rest = [] ∨ separator <+: rest := by
  rcases h with rfl | ⟨t, rfl, -⟩
  · exact .inl rfl
  · exact .inr (List.prefix_append separator t)

theorem NoElement.noneOf (h : NoElement b separator rest) (hs : separator ≠ []) :
    NoneOf (b.nextElement separator).answer rest := by
  rcases h with rfl | ⟨t, rfl, none⟩
  · rw [NoneOf, Behaviour.answer, nextElement_nil b hs]
    rfl
  · rw [NoneOf, Behaviour.answer, nextElement_append]
    exact none

variable (separator write rest) in
/-- What is written of elements behind another one, in front of the rest. -/
def continued (xs : List α) : Text := xs.flatMap (fun x => separator ++ write x) ++ rest

theorem continued_nil : continued separator write rest [] = rest := rfl

theorem continued_cons (x : α) (xs : List α) : continued separator write rest (x :: xs) =
    separator ++ (write x ++ continued separator write rest xs) := by
  simp only [continued, List.flatMap_cons, List.append_assoc]

theorem intercalate_append (x : α) (xs : List α) :
    separator.intercalate ((x :: xs).map write) ++ rest =
      write x ++ continued separator write rest xs := by
  induction xs generalizing x with
  | nil => rw [continued_nil, List.map_singleton, List.intercalate_singleton]
  | cons y xs ih =>
    rw [continued_cons, ← ih, List.map_cons, List.map_cons, List.intercalate_cons_cons]
    simp only [List.append_assoc]

variable (write) in
/-- In front of further elements there is a separator. -/
theorem NoElement.stops_continued (h : NoElement b separator rest) (xs : List α) :
    continued separator write rest xs = [] ∨ separator <+: continued separator write rest xs := by
  cases xs with
  | nil => exact h.stops
  | cons x xs =>
    rw [continued_cons]
    exact .inr (List.prefix_append separator _)

/-- The repetition takes one element after the other, and stops where there is none. The induction
is on the elements; the separator makes each round shorten the text. -/
theorem repeatFrom_nextElement (hs : separator ≠ []) (h : NoElement b separator rest)
    {xs : List α} {length : Nat} (reads : ∀ x ∈ xs, ReadsElement b separator length (write x) x)
    (short : (continued separator write rest xs).length ≤ length) (items : List α) :
    (repeatFrom (b.nextElement separator) items (continued separator write rest xs)).outcome () =
      (.ok (items.reverse ++ xs, rest), ()) := by
  induction xs generalizing items with
  | nil =>
    have failed : (b.nextElement separator rest).outcome () = (.ok [], ()) :=
      Prod.ext (h.noneOf hs) rfl
    rw [continued_nil, repeatFrom_of_failure failed, List.append_nil]
  | cons x xs ih =>
    obtain ⟨first, others⟩ := List.forall_mem_cons.mp reads
    rw [continued_cons, List.length_append] at short
    have shortElement : (write x ++ continued separator write rest xs).length ≤ length := by omega
    have shortRest : (continued separator write rest xs).length ≤ length := by
      rw [List.length_append] at shortElement
      omega
    obtain ⟨more, hfirst⟩ := first _ (h.stops_continued write xs) shortElement
    have found : (b.nextElement separator (continued separator write rest (x :: xs))).outcome () =
        (.ok ((x, continued separator write rest xs) :: more), ()) := by
      rw [continued_cons, nextElement_append]
      exact Prod.ext hfirst rfl
    have shorter : byteLength (continued separator write rest xs) <
        byteLength (continued separator write rest (x :: xs)) := by
      rw [continued_cons, ← List.append_assoc]
      apply byteLength_lt_of_suffix (List.suffix_append _ _)
      intro same
      exact hs (List.append_eq_nil_iff.mp (List.self_eq_append_left.mp same)).1
    rw [repeatFrom_of_progress found shorter, ih others shortRest, List.reverse_cons,
      List.append_assoc, List.singleton_append]

end

/-! ## The other candidates for the first element -/

/-- A list of runs without a debugger ends as the first of them that has no result. -/
theorem result_mapM_cases (f : α → Run Unit β) (as : List α) :
    (∃ bs, (as.mapM f).result = .ok bs) ∨
      ∃ a ∈ as, ∃ e, (f a).result = .error e ∧ (as.mapM f).result = .error e := by
  induction as with
  | nil => exact .inl ⟨[], rfl⟩
  | cons a as ih =>
    rw [List.mapM_cons]
    rcases first : (f a).result with e | x
    · exact .inr ⟨a, List.mem_cons_self, e, first, Run.result_bind_of_error first _⟩
    · rw [Run.result_bind_of_ok first]
      rcases ih with ⟨bs, h⟩ | ⟨a', ha', e, he, h⟩
      · rw [Run.result_bind_of_ok h]
        exact .inl ⟨x :: bs, rfl⟩
      · rw [Run.result_bind_of_error h]
        exact .inr ⟨a', List.mem_cons_of_mem _ ha', e, he, rfl⟩

section

variable {b : Behaviour Unit α} {separator : Text} {S : Set Text}

/-- A repetition of elements is cut short only where their behaviour is. -/
theorem repeatFrom_nextElement_error (hS : SuffixClosed S)
    (stays : ∀ u ∈ S, ∀ cs, b.answer u = .ok cs → Leaves S cs) {t : Text} (ht : t ∈ S)
    {items : List α} {e : Halt}
    (h : (repeatFrom (b.nextElement separator) items t).result = .error e) :
    ∃ u ∈ S, b.answer u = .error e := by
  have steps (u : Text) (hu : u ∈ S) (step : α × Text)
      (first : FirstOf (b.nextElement separator).answer u step) : step.2 ∈ S := by
    obtain ⟨more, first⟩ := first
    rcases nextElement_cases separator b u with none | ⟨v, rfl, same⟩
    · rw [Behaviour.answer, none] at first
      cases first
    · rw [Behaviour.answer, same] at first
      exact stays v (hS _ hu v (List.suffix_append separator v)) _ first step List.mem_cons_self
  rcases exists_greedy (b.nextElement separator) steps ht items with ⟨taken, greedy⟩ |
    ⟨u, hu, e', failed, ended⟩
  · have silent (u : Text) (cs : Candidates α) (hcs : (b.nextElement separator).answer u = .ok cs)
        (state : Unit) : (b.nextElement separator u).outcome state = (.ok cs, state) :=
      Prod.ext hcs rfl
    rw [Run.result, greedy.outcome_repeatFrom silent] at h
    cases h
  · obtain rfl : e' = e := by
      rw [ended] at h
      exact Except.error.inj h
    rcases nextElement_cases separator b u with none | ⟨v, rfl, same⟩
    · rw [Behaviour.answer, none] at failed
      cases failed
    · rw [Behaviour.answer, same] at failed
      exact ⟨v, hS _ hu v (List.suffix_append separator v), failed⟩

variable (separator) in
/-- The list behind the first candidate is kept, once there is one behind each of them. -/
theorem separatedBy_cases (hS : SuffixClosed S)
    (stays : ∀ u ∈ S, ∀ cs, b.answer u = .ok cs → Leaves S cs) {t r : Text} (ht : t ∈ S) {x : α}
    {c : List α × Text} (first : FirstOf b.answer t (x, r))
    (rounds : (repeatFrom (b.nextElement separator) [x] r).outcome () = (.ok c, ())) :
    (b.separatedBy (.split fun t => (stripStart separator t).map (separator, ·))).answer t =
        .ok [c] ∨
      ∃ u ∈ S, ∃ e, b.answer u = .error e ∧
        (b.separatedBy (.split fun t => (stripStart separator t).map (separator, ·))).answer t =
          .error e := by
  obtain ⟨more, first⟩ := first
  have lists : (b.separatedByAtLeastOne
      (.split fun t => (stripStart separator t).map (separator, ·)) t).result =
        (more.mapM fun c => repeatFrom (b.nextElement separator) [c.1] c.2).result.map (c :: ·) := by
    rw [Behaviour.separatedByAtLeastOne, Behaviour.followedByMany, Run.result_bind_of_ok first,
      List.mapM_cons]
    refine (Run.result_bind_of_ok (congrArg Prod.fst rounds) _).trans ?_
    rw [Run.result_bind]
    rfl
  simp only [Behaviour.answer, Behaviour.separatedBy]
  rcases result_mapM_cases (fun c => repeatFrom (b.nextElement separator) [c.1] c.2) more with
    ⟨others, h⟩ | ⟨⟨y, u⟩, hu, e, he, h⟩
  · rw [h] at lists
    rw [Run.result_bind_of_ok lists]
    exact .inl rfl
  · rw [h] at lists
    have behind : u ∈ S := stays t ht _ first _ (List.mem_cons_of_mem _ hu)
    obtain ⟨v, hv, failed⟩ := repeatFrom_nextElement_error hS stays behind he
    exact .inr ⟨v, hv, e, failed, Run.result_bind_of_error lists _⟩

end

/-! ## Reading a list back -/

namespace Parser

/-- The list is what is read from the text, and the rest is left. This is the only candidate, or the
run is cut short as the parser is for an element. A parser that leaves ends of its texts is run on
ends of the text only, so that there is a candidate if it returns on each of them. -/
structure ReadsBack (p : Parser [] α) (separator t : Text) (xs : List α) (rest : Text) : Prop where
  outcome : (p.separatedBy (literal separator)).run t = .ok [(xs, rest)] ∨
    ∃ u halt, p.runWithin (depthFor t) u = .error halt ∧
      (p.separatedBy (literal separator)).run t = .error halt
  returns : p.Customs Shortens → (∀ u, u <:+ t → ∃ cs, p.run u = .ok cs) →
    (p.separatedBy (literal separator)).run t = .ok [(xs, rest)]

variable {p : Parser [] α} {separator : Text}

theorem readsBack_cons {write : α → Text} (hs : separator ≠ []) {x : α} {xs : List α}
    (reads : ∀ y ∈ x :: xs, ∀ r, r = [] ∨ separator <+: r →
      ∃ more, p.run (write y ++ r) = .ok ((y, r) :: more))
    {rest : Text} (none : rest = [] ∨ ∃ t, rest = separator ++ t ∧ p.run t = .ok []) :
    p.ReadsBack separator (separator.intercalate ((x :: xs).map write) ++ rest) (x :: xs) rest := by
  obtain ⟨t, ht⟩ : ∃ t, separator.intercalate ((x :: xs).map write) ++ rest = t := ⟨_, rfl⟩
  have left : rest <:+ t := ⟨_, ht⟩
  have whole : write x ++ continued separator write rest xs = t := intercalate_append x xs ▸ ht
  have behind : continued separator write rest xs <:+ t := ⟨_, whole⟩
  let b := p.behaviour .silent (depthFor t) .empty
  have within : ∀ y ∈ x :: xs, ReadsElement b separator t.length (write y) y := by
    intro y hy r hr short
    obtain ⟨more, h⟩ := reads y hy r hr
    exact ⟨more, runWithin_of_run h (Nat.lt_succ_of_le short)⟩
  have ending : NoElement b separator rest := by
    refine none.imp_right ?_
    rintro ⟨u, rfl, h⟩
    have short := ((List.suffix_append separator u).trans left).length_le
    exact ⟨u, rfl, runWithin_of_run h (Nat.lt_succ_of_le short)⟩
  have first : FirstOf b.answer t (x, continued separator write rest xs) := by
    have here := within x List.mem_cons_self _ (ending.stops_continued write xs)
    rw [whole] at here
    exact here (Nat.le_refl _)
  have rounds := repeatFrom_nextElement hs ending (List.forall_mem_cons.mp within).2
    behind.length_le [x]
  rw [ht]
  constructor
  · rcases separatedBy_cases separator suffixClosed_univ (fun _ _ _ _ _ _ => trivial)
      (Set.mem_univ t) first rounds with h | ⟨u, -, e, failed, h⟩
    · exact .inl h
    · exact .inr ⟨u, e, failed, h⟩
  · intro lawful total
    have stays (u : Text) (hu : u <:+ t) (cs : Candidates α) (h : b.answer u = .ok cs) :
        Leaves {v | v <:+ t} cs := fun c hc =>
      (p.behaviour_leaves_suffix .silent (depthFor t) lawful (Prod.ext h rfl) c hc).trans hu
    rcases separatedBy_cases separator (suffixClosed_suffixes t) stays (List.suffix_refl t) first
      rounds with h | ⟨u, hu, e, failed, -⟩
    · exact h
    · obtain ⟨cs, h⟩ := total u hu
      have returned : b.answer u = .ok cs := runWithin_of_run h (Nat.lt_succ_of_le hu.length_le)
      rw [returned] at failed
      cases failed

theorem readsBack_nil (h : p.run [] = .ok []) : p.ReadsBack separator [] [] [] := by
  have lists : ((p.separatedByAtLeastOne (literal separator)).behaviour .silent 1 .empty []).result =
      .ok [] := Run.result_bind_of_ok h _
  have none : (p.separatedBy (literal separator)).run [] = .ok [([], [])] :=
    Run.result_bind_of_ok lists _
  exact ⟨.inl none, fun _ _ => none⟩

/-- **A list with separators is read back.** The elements of a set are written in some way, and the
parser has each of them for its first candidate where it is written, be it at the end of the text or
in front of a separator. Then the list of elements that are written with the separator between them
has the list for its only candidate, and nothing is left; and if a separator and a text without an
element follow, then these are left. Only a parser that is cut short, behind whichever of its
candidates, can keep the run from this, and then the run ends as the parser does. -/
theorem separatedBy_undoes_join {elements : Set α} {write : α → Text} (hs : separator ≠ [])
    (reads : ∀ x ∈ elements, ∀ r, r = [] ∨ separator <+: r →
      ∃ more, p.run (write x ++ r) = .ok ((x, r) :: more))
    (nothing : p.run [] = .ok []) {xs : List α} (hxs : ∀ x ∈ xs, x ∈ elements) :
    p.ReadsBack separator (separator.intercalate (xs.map write)) xs [] ∧
    ∀ t, xs ≠ [] → p.run t = .ok [] →
      p.ReadsBack separator (separator.intercalate (xs.map write) ++ (separator ++ t)) xs
        (separator ++ t) := by
  cases xs with
  | nil => exact ⟨readsBack_nil nothing, fun _ hne => absurd rfl hne⟩
  | cons x xs =>
    have listed : ∀ y ∈ x :: xs, ∀ r, r = [] ∨ separator <+: r →
        ∃ more, p.run (write y ++ r) = .ok ((y, r) :: more) := fun y hy => reads y (hxs y hy)
    refine ⟨?_, fun t _ none => readsBack_cons hs listed (.inr ⟨t, rfl, none⟩)⟩
    have complete := readsBack_cons hs listed (.inl rfl)
    rwa [List.append_nil] at complete

/-- A letter, or else any character: a letter is read twice. -/
def letterOrAny : Parser [] Char := (satisfy Char.isAlpha).union item

theorem separatedBy_undoes_join_letters :
    (∀ c ∈ {c : Char | c.isAlpha}, ∀ r, r = [] ∨ [','] <+: r →
      ∃ more, letterOrAny.run ([c] ++ r) = .ok ((c, r) :: more)) ∧
    letterOrAny.run [] = .ok [] ∧
    (letterOrAny.separatedBy (literal [','])).run ['a', ',', 'b'] = .ok [(['a', 'b'], [])] ∧
    (letterOrAny.separatedBy (literal [','])).run ['a', ',', 'b', ','] =
      .ok [(['a', 'b'], [','])] := by
  have reads : ∀ c ∈ {c : Char | c.isAlpha}, ∀ r, r = [] ∨ [','] <+: r →
      ∃ more, letterOrAny.run ([c] ++ r) = .ok ((c, r) :: more) := by
    intro c (hc : c.isAlpha = true) r _
    have found : letterOrAny.run (c :: r) =
        .ok ((if c.isAlpha then [(c, r)] else []) ++ [(c, r)]) := rfl
    exact ⟨[(c, r)], found.trans (by rw [if_pos hc]; rfl)⟩
  have returns (u : Text) : ∃ cs, letterOrAny.run u = .ok cs := by
    cases u with
    | nil => exact ⟨_, rfl⟩
    | cons c u => exact ⟨_, rfl⟩
  have lawful : letterOrAny.Customs Shortens := ⟨trivial, trivial⟩
  have listed : ∀ c ∈ ['a', 'b'], c ∈ {c : Char | c.isAlpha} :=
    List.forall_mem_cons.mpr ⟨rfl, List.forall_mem_singleton.mpr rfl⟩
  obtain ⟨whole, behind⟩ := separatedBy_undoes_join (List.cons_ne_nil ',' []) reads rfl listed
  exact ⟨reads, rfl, whole.returns lawful fun u _ => returns u,
    (behind [] (List.cons_ne_nil _ _) rfl).returns lawful fun u _ => returns u⟩

/-- Reads `q,z`, or `q` only, and raises a fault on `z`. -/
def faultOnZ : Parser [] Text :=
  (literal ['q', ',', 'z']).union
    ((literal ['q']).union ((literal ['z']).tryMap fun _ => .error (.raised "boom")))

/-- Behind the second candidate for the first element, the parser raises its fault on what it takes
for the next one. -/
theorem separatedBy_ne_join :
    ¬∀ (p : Parser [] Text) (elements : Set Text) (separator : Text), separator ≠ [] →
      (∀ x ∈ elements, ∀ r, r = [] ∨ separator <+: r →
        ∃ more, p.run (x ++ r) = .ok ((x, r) :: more)) →
      p.run [] = .ok [] → ∀ xs : List Text, (∀ x ∈ xs, x ∈ elements) →
        (p.separatedBy (literal separator)).run (separator.intercalate xs) = .ok [(xs, [])] := by
  intro h
  have reads : ∀ x ∈ ({['q', ',', 'z']} : Set Text), ∀ r, r = [] ∨ [','] <+: r →
      ∃ more, faultOnZ.run (x ++ r) = .ok ((x, r) :: more) := by
    rintro _ rfl r _
    exact ⟨[(['q'], [',', 'z'] ++ r)], rfl⟩
  have read := h faultOnZ {['q', ',', 'z']} [','] (List.cons_ne_nil _ _) reads rfl
    [['q', ',', 'z']] (List.forall_mem_singleton.mpr rfl)
  let b := faultOnZ.behaviour .silent 4 .empty
  have cut : (repeatFrom (b.nextElement [',']) [['q']] [',', 'z']).result =
      .error (.fault (.raised "boom")) := by
    rw [repeatFrom]
    exact Run.result_bind_of_error rfl _
  obtain ⟨lists, hlists, -⟩ := Run.result_bind_eq_ok read
  obtain ⟨found, hfound, hlists⟩ := Run.result_bind_eq_ok hlists
  obtain rfl : [(['q', ',', 'z'], []), (['q'], [',', 'z'])] = found := Except.ok.inj hfound
  rw [List.mapM_cons] at hlists
  obtain ⟨_, -, hlists⟩ := Run.result_bind_eq_ok hlists
  obtain ⟨others, hothers, -⟩ := Run.result_bind_eq_ok hlists
  rw [List.mapM_cons] at hothers
  obtain ⟨list, hlist, -⟩ := Run.result_bind_eq_ok hothers
  have returned : Except.error _ = Except.ok list := cut.symm.trans hlist
  cases returned

end Parser

end Backtrack
