import Backtrack.Parser.Basic

/-!
# Owners of definitions

How the parts of a grammar are made and dropped while it is built and run. Each definition lies in a
slot that counts its owners, and is gone when there are none. The parser that the definition was
made for owns it, and so does every run of it; a handle only refers to the slot, and finds out when
it is run whether there is a definition. What a parser made on the fly owns is dropped as soon as
this parser has run.

`Parser.build` says which slots a parser takes and how it uses them. The state in which a definition
is found is nowhere given here: it is read off the slot.
-/

namespace Backtrack

/-- A place for one definition. -/
structure Slot where
  owners : Nat
  /-- Whether the definition has been put there. -/
  filled : Bool
  deriving DecidableEq, Repr

/-- How a slot is found by those that do not own it. -/
def Slot.lifetime (s : Slot) : Lifetime :=
  if s.owners = 0 then .dropped else if s.filled then .alive else .underConstruction

/-- The slots, of which those from `next` on were never used, and whether a handle was ever run that
found no definition. -/
structure Memory where
  slot : Nat → Slot := fun _ => ⟨0, false⟩
  next : Nat := 0
  missed : Bool := false

/-- The slots that a parser owns, each with those that the definition in it owns. -/
inductive Owned
  | nothing
  | slot (a : Nat) (content : Owned)
  | both (x y : Owned)
  deriving DecidableEq, Repr

def Owned.slots : Owned → List Nat
  | nothing => []
  | slot a content => a :: content.slots
  | both x y => x.slots ++ y.slots

namespace Memory

def set (m : Memory) (a : Nat) (s : Slot) : Memory :=
  { m with slot := fun b => if b = a then s else m.slot b }

/-- Takes a new slot, with one owner and without a definition. -/
def allocate (m : Memory) : Memory := { m.set m.next ⟨1, false⟩ with next := m.next + 1 }

/-- Puts the definition into its slot. -/
def fill (m : Memory) (a : Nat) : Memory := m.set a { m.slot a with filled := true }

/-- One owner more. -/
def own (m : Memory) (a : Nat) : Memory :=
  m.set a { m.slot a with owners := (m.slot a).owners + 1 }

/-- One owner less. -/
def disown (m : Memory) (a : Nat) : Memory :=
  m.set a { m.slot a with owners := (m.slot a).owners - 1 }

/-- A handle was run that found no definition. -/
def miss (m : Memory) : Memory := { m with missed := true }

/-- Drops all that is owned. With its last owner a definition goes, and with it what it owns. -/
def drop : Owned → Memory → Memory
  | .nothing, m => m
  | .slot a content, m =>
    let rest := m.disown a
    if (rest.slot a).owners = 0 then drop content rest else rest
  | .both x y, m => drop y (drop x m)

/-- What becomes of a new definition before the parser is built that it is made for: it may have to
wait, it is put into its slot, or it is put there and then loses its owner. -/
def settle (m : Memory) (a : Nat) (content : Owned) : Lifetime → Memory
  | .underConstruction => m
  | .alive => m.fill a
  | .dropped => (m.fill a).drop (.slot a content)

end Memory

/-- What is left to the parser that a definition was made for. -/
def Lifetime.owner (a : Nat) (content : Owned) : Lifetime → Owned
  | underConstruction | alive => .slot a content
  | dropped => .nothing

/-! ## Runs -/

variable {σ α β γ : Type}

/-- The run with the given outcomes. -/
def Run.ofOutcome (f : σ → Except Halt α × σ) : Run σ α := ExceptT.mk f

@[simp] theorem Run.outcome_ofOutcome (f : σ → Except Halt α × σ) (state : σ) :
    (Run.ofOutcome f).outcome state = f state := rfl

/-- A run that leaves the memory as it is. -/
def Run.withMemory (r : Run σ α) : Run (σ × Memory) α :=
  .ofOutcome fun (state, m) => let (result, state) := r.outcome state; (result, state, m)

def Debugger.withMemory (d : Debugger σ) : Debugger (σ × Memory) where
  enter mark input := (d.enter mark input).withMemory
  leave mark candidates := (d.leave mark candidates).withMemory

/-- What a handle does: it owns the definition in its slot as long as it runs it. Without a
definition it halts, and the miss is noted. -/
def follow (a : Nat) (content : Owned) (b : Behaviour (σ × Memory) α) : Behaviour (σ × Memory) α :=
  fun t => .ofOutcome fun (state, m) =>
    match (m.slot a).lifetime with
    | .alive =>
      let (result, state, m) := (b t).outcome (state, m.own a)
      (result, state, m.drop (.slot a content))
    | .underConstruction => (.error (.fault .undefined), state, m.miss)
    | .dropped => (.error (.fault .dropped), state, m.miss)

/-! ## Building -/

/-- A parser that was built: what it does if its handles do as the store says, and what it owns. -/
structure Built (σ : Type) (Γ : Scopes) (α : Type) where
  behaviour : Store (σ × Memory) Γ → Behaviour (σ × Memory) α
  owned : Owned

/-- A way to build a parser, which may take slots. -/
abbrev Building (σ : Type) (Γ : Scopes) (α : Type) := Memory → Built σ Γ α × Memory

namespace Building

variable {Γ : Scopes}

def leaf (b : Store (σ × Memory) Γ → Behaviour (σ × Memory) α) : Building σ Γ α :=
  fun m => (⟨b, .nothing⟩, m)

/-- A parser made of another one, which it owns. -/
def one (f : Behaviour (σ × Memory) α → Behaviour (σ × Memory) β) (B : Building σ Γ α) :
    Building σ Γ β := fun m =>
  let (p, m) := B m
  (⟨fun s => f (p.behaviour s), p.owned⟩, m)

/-- A parser made of two others, which it owns. -/
def two (f : Behaviour (σ × Memory) α → Behaviour (σ × Memory) β → Behaviour (σ × Memory) γ)
    (B : Building σ Γ α) (C : Building σ Γ β) : Building σ Γ γ := fun m =>
  let (p, m) := B m
  let (q, m) := C m
  (⟨fun s => f (p.behaviour s) (q.behaviour s), .both p.owned q.owned⟩, m)

/-- Builds a parser, runs it once and drops it, however the run ends. -/
def once (B : Building σ Γ α) (s : Store (σ × Memory) Γ) : Behaviour (σ × Memory) α :=
  fun t => .ofOutcome fun (state, m) =>
    let (p, m) := B m
    let (result, state, m) := (p.behaviour s t).outcome (state, m)
    (result, state, m.drop p.owned)

/-- Goes on with a parser that is built anew for each candidate. -/
def bind (B : Building σ Γ α) (next : α → Building σ Γ β) : Building σ Γ β := fun m =>
  let (p, m) := B m
  (⟨fun s => (p.behaviour s).bind fun a => (next a).once s, p.owned⟩, m)

/-- Makes a definition in a new slot and a parser with a handle for it. In both, the handle runs
what is in the slot if it finds it there. -/
def define (depth : Nat) (state : Lifetime) (D : Building σ (β :: Γ) β)
    (B : Building σ (β :: Γ) α) : Building σ Γ α := fun m =>
  let a := m.next
  let (definition, m) := D m.allocate
  let (body, m) := B (m.settle a definition.owned state)
  let refer (s : Store (σ × Memory) Γ) (b : Behaviour (σ × Memory) β) :=
    s.push (.alive (follow a definition.owned b))
  let tied (s : Store (σ × Memory) Γ) := unfold (fun b => definition.behaviour (refer s b)) depth
  (⟨fun s => body.behaviour (refer s (tied s)),
    .both (state.owner a definition.owned) body.owned⟩, m)

end Building

/-- How a parser is built. A recursive parser builds its definition in the slot and once more as the
parser that owns the slot. -/
def Parser.build (d : Debugger σ) (depth : Nat) :
    {Γ : Scopes} → {α : Type} → Parser Γ α → Building σ Γ α
  | _, _, .pure value => .leaf fun _ => .pure value
  | _, _, .empty => .leaf fun _ => .split fun _ => none
  | _, _, .raise f => .leaf fun _ => .halt (.fault f)
  | _, _, .endOfText =>
    .leaf fun _ => .split fun t => if t.isEmpty then Option.some ((), t) else none
  | _, _, .item => .leaf fun _ => .split fun t => t.head?.map (·, t.tail)
  | _, _, .grapheme => .leaf fun _ => .split Grapheme.splitFirst?
  | _, _, .literal text => .leaf fun _ => .split fun t => (stripStart text t).map (text, ·)
  | _, _, .pattern p => .leaf fun _ => .split p.split
  | _, _, .custom f => .leaf fun _ => .custom f
  | _, _, .tryMap p f => .one (·.tryMap f) (p.build d depth)
  | _, _, .bind p next => .bind (p.build d depth) fun a => (next a).build d depth
  | _, _, .union p q => .two .union (p.build d depth) (q.build d depth)
  | _, _, .committed p q => .two .committed (p.build d depth) (q.build d depth)
  | _, _, .orElse p q => .two .orElse (p.build d depth) (q.build d depth)
  | _, _, .tryFilter p keep => .one (·.tryFilter keep) (p.build d depth)
  | _, _, .optional p => .one .optional (p.build d depth)
  | _, _, .many p => .one .many (p.build d depth)
  | _, _, .some p => .one .some (p.build d depth)
  | _, _, .separatedByAtLeastOne p q =>
    .two .separatedByAtLeastOne (p.build d depth) (q.build d depth)
  | _, _, .separatedBy p q => .two .separatedBy (p.build d depth) (q.build d depth)
  | _, _, .chain p q => .two .chain (p.build d depth) (q.build d depth)
  | _, _, .then p q => .two .then (p.build d depth) (q.build d depth)
  | _, _, .ap p q => .two .ap (p.build d depth) (q.build d depth)
  | _, _, .token p => .one .token (p.build d depth)
  | _, _, .debug mark p => .one (·.debug d.withMemory mark) (p.build d depth)
  | _, _, .handle h => .leaf fun s => (s h).behaviour
  | _, _, .define state definition body =>
    .define depth state (definition.build d depth) (body.build d depth)

end Backtrack
