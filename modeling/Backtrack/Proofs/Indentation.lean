import Backtrack.Proofs.Record

/-!
# Indentation

A line is indented by the level of its scope in the tree that is shown. Each open scope is shown as
a tree of its own, also one inside of another open scope. So the lines of a trace are indented by
the number of scopes that were open when theirs was entered exactly if no more than one scope is
still open: `indented_by_nesting_iff`.
-/

namespace Backtrack

/-- How many scopes were open when each of the scopes was entered, from a number of open ones on. -/
def nestings : Nat → List Event → List Nat
  | _, [] => []
  | opened, .enter _ _ :: es => opened :: nestings (opened + 1) es
  | opened, .leave _ _ :: es => nestings (opened - 1) es

/-- The ends that come when nothing is open change nothing. -/
theorem nestings_heard (opened : List Mark) (events : List Event) :
    nestings opened.length (heard opened events) = nestings opened.length events := by
  fun_induction heard opened events with
  | case1 => rfl
  | case2 opened mark input es ih => exact congrArg (List.cons opened.length) ih
  | case3 mark n es ih => exact ih
  | case4 inner outer mark n es ih => exact ih

/-- The number of blanks in front of a line. -/
def indentation (line : String) : Nat := (line.toList.takeWhile (· == ' ')).length

theorem indentation_line (e : Entry) : indentation e.line = 4 * e.depth := by
  have blanks (rest : Text) (n : Nat) :
      (List.replicate n ' ' ++ 'E' :: rest).takeWhile (· == ' ') = List.replicate n ' ' := by
    induction n with
    | zero => rfl
    | succ n ih => rw [List.replicate_succ, List.cons_append, List.takeWhile_cons, ih]; rfl
  obtain ⟨depth, s⟩ := e
  have start : ∃ rest, (s.line depth).toList = List.replicate (4 * depth) ' ' ++ 'E' :: rest := by
    simp only [Scope.line, String.toList_append, String.toList_ofList, List.append_assoc]
    exact ⟨_, rfl⟩
  obtain ⟨rest, same⟩ := start
  rw [indentation, Entry.line, same, blanks, List.length_replicate]

/-! ## Levels -/

namespace Scope

mutual
/-- The entries of a scope that is shown deeper are as much deeper. -/
theorem map_depth_entries (depth more : Nat) :
    (s : Scope) →
      (s.entries (depth + more)).map Entry.depth = (s.entries depth).map fun e => e.depth + more
  | ⟨mark, input, candidates, children⟩ => by
    have below := map_depth_entriesOfAll (depth + 1) more children
    rw [Nat.add_right_comm] at below
    rw [entries, entries, List.map_cons, List.map_cons, below]

theorem map_depth_entriesOfAll (depth more : Nat) :
    (forest : List Scope) → (entriesOfAll (depth + more) forest).map Entry.depth =
      (entriesOfAll depth forest).map fun e => e.depth + more
  | [] => rfl
  | s :: rest => by
    rw [entriesOfAll, entriesOfAll, List.map_append, List.map_append, map_depth_entries,
      map_depth_entriesOfAll]
end

mutual
/-- While a scope runs that ends, the levels of the entries are the numbers of open scopes. -/
theorem nestings_events {J : Scope → Prop} (opened : Nat) (es : List Event) :
    (s : Scope) → s.Ended J →
      nestings opened (s.events ++ es) = (s.entries opened).map Entry.depth ++ nestings opened es
  | ⟨_, _, none, _⟩, h => h.elim
  | ⟨mark, input, some n, children⟩, h => by
    have inside := nestings_eventsOfAll (opened + 1) (.leave mark n :: es) children h.2
    rw [events, entries, List.map_cons, List.cons_append, List.append_assoc, nestings]
    exact congrArg (List.cons opened) inside

theorem nestings_eventsOfAll {J : Scope → Prop} (opened : Nat) (es : List Event) :
    (forest : List Scope) → AllEnded J forest →
      nestings opened (eventsOfAll forest ++ es) =
        (entriesOfAll opened forest).map Entry.depth ++ nestings opened es
  | [], _ => rfl
  | s :: rest, h => by
    rw [eventsOfAll, entriesOfAll, List.append_assoc, nestings_events _ _ s h.1,
      nestings_eventsOfAll _ _ rest h.2, List.map_append, List.append_assoc]
end

/-- Scopes that stay open, outermost first: each is one level deeper than the one before. -/
theorem nestings_unended (opened : Nat) (scopes : List Scope)
    (h : ∀ s ∈ scopes, AllEnded (fun _ => True) s.children) :
    nestings opened (scopes.flatMap fun s => .enter s.mark s.input :: eventsOfAll s.children) =
      (scopes.zipIdx opened).flatMap fun p => (p.1.entries p.2).map Entry.depth := by
  induction scopes generalizing opened with
  | nil => rfl
  | cons s rest ih =>
    obtain ⟨children, others⟩ := List.forall_mem_cons.mp h
    rw [List.flatMap_cons, List.zipIdx_cons, List.flatMap_cons, List.cons_append, nestings,
      nestings_eventsOfAll _ _ _ children, ih (opened + 1) others, entries_eq_cons, List.map_cons,
      List.cons_append]

end Scope

namespace Trace

theorem entries_eq_append (t : Trace) :
    t.entries = Scope.entriesOfAll 0 t.roots ++ t.opened.reverse.flatMap (Scope.entries 0) := by
  rw [entries, Scope.entriesOfAll_append, Scope.entriesOfAll_eq_flatMap 0 t.opened.reverse]

/-- The scopes in the trees of the open ones were entered where more were open than their level
says: as many more as there are open scopes around the tree. -/
theorem nestings_flatten {t : Trace} (h : t.Counted) :
    nestings 0 t.flatten = (Scope.entriesOfAll 0 t.roots).map Entry.depth ++
      t.opened.reverse.zipIdx.flatMap fun p => (p.1.entries 0).map fun e => e.depth + p.2 := by
  have unended := Scope.nestings_unended 0 t.opened.reverse fun s hs =>
    (h.opened s (List.mem_reverse.mp hs)).2
  have deeper (p : Scope × Nat) :
      (p.1.entries p.2).map Entry.depth = (p.1.entries 0).map fun e => e.depth + p.2 := by
    have moved := p.1.map_depth_entries 0 p.2
    rwa [Nat.zero_add] at moved
  simp only [deeper] at unended
  rw [flatten, Scope.nestings_eventsOfAll _ _ _ h.roots, unended]

/-- The levels are right exactly if no open scope is inside of another one. -/
theorem map_depth_entries_eq_iff {t : Trace} (h : t.Counted) :
    t.entries.map Entry.depth = nestings 0 t.flatten ↔ t.opened.length ≤ 1 := by
  rw [nestings_flatten h, entries_eq_append, List.map_append, List.append_right_inj,
    List.map_flatMap, ← t.opened.length_reverse]
  rcases t.opened.reverse with _ | ⟨s, _ | ⟨inner, rest⟩⟩
  · simp
  · simp
  · have first : (s.entries 0).map (fun e => e.depth + 0) = (s.entries 0).map Entry.depth := rfl
    simp only [List.zipIdx_cons, List.flatMap_cons, first, List.append_right_inj]
    simp only [Scope.entries_eq_cons, List.map_cons, List.cons_append, List.cons.injEq,
      List.length_cons]
    constructor
    · rintro ⟨level, -⟩
      omega
    · intro few
      omega

end Trace

/-- **A trace is indented by nesting as long as at most one scope is open.** If each end is that of
the innermost open scope, then the lines of the roots and of all in them are indented by four blanks
for each scope that was open when theirs was entered. The lines of an open scope and of all in it
lack four blanks for each open scope around it. -/
theorem indented_by_nesting_iff (events : List Event) (h : Matched [] events) :
    let t := Debugger.tracer.stateAfter {} events
    t.entries = Scope.entriesOfAll 0 t.roots ++ t.opened.reverse.flatMap (Scope.entries 0) ∧
    (nestings 0 events).map (4 * ·) =
      (Scope.entriesOfAll 0 t.roots).map (fun e => indentation e.line) ++
        t.opened.reverse.zipIdx.flatMap (fun p =>
          (p.1.entries 0).map fun e => indentation e.line + 4 * p.2) ∧
    (t.entries.map (fun e => indentation e.line) = (nestings 0 events).map (4 * ·) ↔
      t.opened.length ≤ 1) := by
  dsimp only
  rw [Debugger.stateAfter_tracer]
  have counted := Trace.empty_counted.replay events
  have kept : (({} : Trace).replay events).flatten = heard [] events :=
    Trace.flatten_replay (t := {}) h
  have nested : nestings 0 events = nestings 0 (({} : Trace).replay events).flatten := by
    rw [kept]
    exact (nestings_heard [] events).symm
  have blanks (es : List Entry) :
      es.map (fun e => indentation e.line) = (es.map Entry.depth).map (4 * ·) := by
    simp only [indentation_line, List.map_map]
    rfl
  refine ⟨Trace.entries_eq_append _, ?_, ?_⟩
  · rw [nested, Trace.nestings_flatten counted, List.map_append, blanks, List.map_flatMap]
    simp only [List.map_map, indentation_line, Function.comp_def, Nat.mul_add]
  · have injective : Function.Injective (4 * · : Nat → Nat) := fun a b same => by
      dsimp only at same
      omega
    rw [blanks, (List.map_injective_iff.mpr injective).eq_iff, nested]
    exact Trace.map_depth_entries_eq_iff counted

theorem indented_by_nesting_iff_ended : Matched [] innerEnded ∧
    (Debugger.tracer.stateAfter {} innerEnded).entries.map (fun e => indentation e.line) =
      [0, 4] := by
  have matched : Matched [] innerEnded := ⟨rfl, trivial⟩
  refine ⟨matched, ?_⟩
  rw [(indented_by_nesting_iff innerEnded matched).2.2.mpr (by decide)]
  rfl

/-- Of two open scopes, the inner one was entered while the outer one was open, and is shown without
indentation. -/
theorem indentation_of_open_scopes :
    let calls : List Event := [.enter outerMark [], .enter innerMark []]
    let t := Debugger.tracer.stateAfter {} calls
    Matched [] calls ∧ nestings 0 calls = [0, 1] ∧
    t.render = "Entered outer at line 1 in tests/debug.rs on \"\" -> unfinished\n" ++
      "Entered inner at line 2 in tests/debug.rs on \"\" -> unfinished\n" ∧
    t.entries.map (fun e => indentation e.line) ≠ (nestings 0 calls).map (4 * ·) :=
  ⟨trivial, rfl, by decide, by decide⟩

end Backtrack
