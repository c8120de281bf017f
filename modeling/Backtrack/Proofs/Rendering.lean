import Backtrack.Proofs.Report

/-!
# Lines of a trace

What is shown of a text is on one line, whatever characters the text has. So a forest of scopes
is shown with exactly one line for each of its scopes: `Scope.count_newline_render`. The lines
stand in the order in which the scopes were entered: `Scope.map_start_entriesOfAll`.
-/

namespace Backtrack

/-! ## Texts on one line -/

/-- A character that is no digit stands in no number. -/
theorem notMem_toDigits {c : Char} (hc : ∀ d : Nat, d.digitChar ≠ c) {b : Nat} (hb : 1 < b)
    (n : Nat) : c ∉ Nat.toDigits b n := by
  induction n using Nat.strongRecOn with
  | ind n ih =>
    rw [Nat.toDigits_eq_if hb]
    have digit (d : Nat) : c ∉ [d.digitChar] := fun h => hc d (List.mem_singleton.mp h).symm
    split
    · exact digit n
    · rename_i large
      have less : n / b < n := Nat.div_lt_self (by omega) hb
      exact List.not_mem_append (ih (n / b) less) (digit (n % b))

theorem newline_notMem_toDigits {b : Nat} (hb : 1 < b) (n : Nat) : '\n' ∉ Nat.toDigits b n :=
  notMem_toDigits (fun _ => Nat.digitChar_ne '\n' (by decide)) hb n

/-- A newline is written by an escape, and no other escape has one. -/
theorem newline_notMem_escapeChar (c : Char) : '\n' ∉ escapeChar c := by
  have digits := newline_notMem_toDigits (b := 16) (by decide) c.toNat
  unfold escapeChar
  split
  all_goals try decide
  rename_i other _ _
  split
  · simpa using digits
  · exact fun h => other (List.mem_singleton.mp h).symm

theorem newline_notMem_quote (t : Text) : '\n' ∉ quote t := by
  simp [quote, newline_notMem_escapeChar]

/-- The text is one line, with the newline that ends it. -/
def OneLine (text : String) : Prop := ∃ line : Text, text.toList = line ++ ['\n'] ∧ '\n' ∉ line

theorem oneLine_append {text : String} (h : '\n' ∉ text.toList) : OneLine (text ++ "\n") :=
  ⟨text.toList, String.toList_append, h⟩

theorem OneLine.count_newline {text : String} (h : OneLine text) : text.toList.count '\n' = 1 := by
  obtain ⟨line, same, none⟩ := h
  rw [same, List.count_append, List.count_eq_zero_of_not_mem none]
  rfl

namespace Scope

/-- The line of a scope is one line, whatever its input is, if the names in its mark are on one. -/
theorem line_oneLine {s : Scope} (label : '\n' ∉ s.mark.label.toList)
    (file : '\n' ∉ s.mark.site.file.toList) (depth : Nat) : OneLine (s.line depth) := by
  have number := newline_notMem_toDigits (b := 10) (by decide)
  apply oneLine_append
  cases s.candidates <;> simp [label, file, number, newline_notMem_quote]

mutual
/-- The number of scopes in a scope, with itself. -/
def size : Scope → Nat
  | ⟨_, _, _, children⟩ => sizeAll children + 1

def sizeAll : List Scope → Nat
  | [] => 0
  | s :: rest => s.size + sizeAll rest
end

mutual
/-- A scope is shown with one line for each scope in it. -/
theorem count_newline_render :
    (s : Scope) → s.Ended (fun s => ∀ depth, OneLine (s.line depth)) → (depth : Nat) →
      (s.render depth).toList.count '\n' = s.size
  | ⟨_, _, none, _⟩, h, _ => h.elim
  | ⟨_, _, some _, children⟩, h, depth => by
    rw [render, String.toList_append, List.count_append, (h.1 depth).count_newline,
      count_newline_renderAll children h.2, size, Nat.add_comm]

theorem count_newline_renderAll :
    (forest : List Scope) → AllEnded (fun s => ∀ depth, OneLine (s.line depth)) forest →
      (depth : Nat) → (renderAll depth forest).toList.count '\n' = sizeAll forest
  | [], _, _ => rfl
  | s :: rest, h, depth => by
    rw [renderAll, String.toList_append, List.count_append, count_newline_render s h.1,
      count_newline_renderAll rest h.2, sizeAll]
end

end Scope

/-! ## Entries -/

/-- What a line is written for: a scope, and how many levels its line is indented. -/
structure Entry where
  depth : Nat
  scope : Scope

namespace Entry

def line (e : Entry) : String := e.scope.line e.depth

/-- The call by which the scope was entered. -/
def start (e : Entry) : Event := .enter e.scope.mark e.scope.input

end Entry

/-- A scope is entered. -/
def Event.isEnter : Event → Bool
  | enter .. => true
  | leave .. => false

namespace Scope

mutual
/-- The entries of a scope: that of the scope, then those of its children one level deeper. -/
def entries (depth : Nat) : Scope → List Entry
  | ⟨mark, input, candidates, children⟩ =>
    ⟨depth, ⟨mark, input, candidates, children⟩⟩ :: entriesOfAll (depth + 1) children

def entriesOfAll (depth : Nat) : List Scope → List Entry
  | [] => []
  | s :: rest => s.entries depth ++ entriesOfAll depth rest
end

theorem entries_eq_cons (depth : Nat) (s : Scope) :
    s.entries depth = ⟨depth, s⟩ :: entriesOfAll (depth + 1) s.children := by
  cases s
  rfl

theorem entriesOfAll_eq_flatMap (depth : Nat) (forest : List Scope) :
    entriesOfAll depth forest = forest.flatMap (entries depth) := by
  induction forest with
  | nil => rfl
  | cons s rest ih => rw [entriesOfAll, ih, List.flatMap_cons]

theorem entriesOfAll_append (depth : Nat) (f g : List Scope) :
    entriesOfAll depth (f ++ g) = entriesOfAll depth f ++ entriesOfAll depth g := by
  simp only [entriesOfAll_eq_flatMap, List.flatMap_append]

mutual
/-- What is shown of a scope are the lines of its entries. -/
theorem render_eq_join (depth : Nat) :
    (s : Scope) → s.render depth = String.join ((s.entries depth).map Entry.line)
  | ⟨mark, input, candidates, children⟩ => by
    rw [render, entries, List.map_cons, String.join_cons, renderAll_eq_join]
    rfl

theorem renderAll_eq_join (depth : Nat) :
    (forest : List Scope) →
      renderAll depth forest = String.join ((entriesOfAll depth forest).map Entry.line)
  | [] => rfl
  | s :: rest => by
    rw [renderAll, entriesOfAll, List.map_append, String.join_append, render_eq_join,
      renderAll_eq_join]
end

mutual
/-- The entries of a scope are in the order in which the scopes were entered. -/
theorem map_start_entries (depth : Nat) :
    (s : Scope) → (s.entries depth).map Entry.start = s.events.filter Event.isEnter
  | ⟨mark, input, candidates, children⟩ => by
    have ends : (candidates.map (Event.leave mark)).toList.filter Event.isEnter = [] := by
      cases candidates <;> rfl
    rw [entries, List.map_cons, map_start_entriesOfAll, events, List.filter_cons,
      List.filter_append, ends, List.append_nil]
    rfl

theorem map_start_entriesOfAll (depth : Nat) :
    (forest : List Scope) →
      (entriesOfAll depth forest).map Entry.start = (eventsOfAll forest).filter Event.isEnter
  | [] => rfl
  | s :: rest => by
    rw [entriesOfAll, eventsOfAll, List.map_append, List.filter_append, map_start_entries,
      map_start_entriesOfAll]
end

mutual
/-- A scope that has ended has only entries of scopes that have ended. -/
theorem Ended.of_mem_entries {J : Scope → Prop} {depth : Nat} {e : Entry} :
    (s : Scope) → s.Ended J → e ∈ s.entries depth → e.scope.candidates ≠ none
  | ⟨_, _, none, _⟩, h, _ => h.elim
  | ⟨_, _, some _, children⟩, h, he => by
    rcases List.mem_cons.mp he with rfl | he
    · exact Option.some_ne_none _
    · exact AllEnded.of_mem_entries children h.2 he

theorem AllEnded.of_mem_entries {J : Scope → Prop} {depth : Nat} {e : Entry} :
    (forest : List Scope) → AllEnded J forest → e ∈ entriesOfAll depth forest →
      e.scope.candidates ≠ none
  | [], _, he => nomatch he
  | s :: rest, h, he => by
    rcases List.mem_append.mp he with he | he
    · exact Ended.of_mem_entries s h.1 he
    · exact AllEnded.of_mem_entries rest h.2 he
end

end Scope

end Backtrack
