import Backtrack.Pattern.Footprint.Basic

/-!
# The states for alternative literals

Alternatives that are all literals share the states for the bytes that they start
with. At each state of this tree, the literals that end there divide those that go on
into chunks, since an earlier literal is preferred to a later one: two literals share
a state only if none between them ends where they part.
-/

namespace Backtrack.Pattern

/-- The rests of the literals at a state, as chunks with the literals that end there between them.
Literals that end there before any other goes on count as one. -/
def chunks (rests : List (List Nat)) : List (List (List Nat)) :=
  let later := rests.dropWhile List.isEmpty
  if rests.head?.any List.isEmpty then [] :: divide later else divide later
where
  divide : List (List Nat) → List (List (List Nat))
    | [] => [[]]
    | [] :: rest => [] :: divide rest
    | s :: rest =>
      match divide rest with
      | chunk :: later => (s :: chunk) :: later
      | [] => [[s]]

/-- Puts a text that goes on with `tail` after its first byte in front of its group. -/
def insertByFirst (b : Nat) (tail : List Nat) :
    List (Nat × List (List Nat)) → List (Nat × List (List Nat))
  | [] => [(b, [tail])]
  | (c, tails) :: groups =>
    if b = c then (c, tail :: tails) :: groups else (c, tails) :: insertByFirst b tail groups

/-- The given rests, grouped by their first byte. -/
def groupByByte (rests : List (List Nat)) : List (Nat × List (List Nat)) :=
  let insert := fun (rest : List Nat) groups =>
    match rest with
    | [] => groups
    | b :: tail => insertByFirst b tail groups
  rests.foldr insert []

namespace Footprint

/-- Adds the states of the tree for the given rests, of at most the given length. Where all
literals end, no state is needed. -/
def addTree : Nat → List (List Nat) → Footprint → Footprint
  | 0, _, f => f
  | length + 1, rests, f =>
    if rests.all List.isEmpty then f
    else
      let all := chunks rests
      let goingOn := all.filter (!·.isEmpty)
      let addChunk := fun (f : Footprint) (chunk : List (List Nat)) =>
        let groups := groupByByte chunk
        let f := if groups.length = 1 then f.addState else f.addRanges groups.length
        groups.foldl (fun f group => addTree length group.2 f) f
      goingOn.foldl addChunk (f.addChoice (goingOn.length + (all.length - 1)))

/-- Adds the states for alternative literals, by their bytes in the order of reading. -/
def addLiterals (literals : List (List Nat)) (f : Footprint) : Footprint :=
  let longest := (literals.map List.length).foldl max 0
  f.addState.addTree longest literals

end Footprint

end Backtrack.Pattern
