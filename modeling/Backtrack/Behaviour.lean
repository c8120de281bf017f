import Backtrack.Debugger
import Backtrack.Pattern

/-!
# Behaviours

The behaviour of a parser takes a text to a run that has candidates: every way to
read a start of the text. The operations here combine behaviours; they fix in which
order the parts run, since a debugger can tell.
-/

namespace Backtrack

/-- What a parser does with a text. -/
abbrev Behaviour (σ α : Type) := Text → Run σ (Candidates α)

/-- Goes on from each candidate in order, and joins the results. -/
def fromEach {σ α β : Type} (next : α → Behaviour σ β) :
    Candidates α → Run σ (Candidates β)
  | [] => pure []
  | (a, rest) :: more => do
    let here ← next a rest
    return here ++ (← fromEach next more)

/-- Applies a function to each result in order. -/
def mapEach {σ α β : Type} (f : α → Attempt β) : Candidates α → Run σ (Candidates β)
  | [] => pure []
  | (a, rest) :: more => do
    let b ← Run.attempt (f a)
    return (b, rest) :: (← mapEach f more)

/-- Keeps the candidates whose result passes the test. -/
def filterEach {σ α : Type} (keep : α → Attempt Bool) : Candidates α → Run σ (Candidates α)
  | [] => pure []
  | (a, rest) :: more => do
    let kept ← Run.attempt (keep a)
    let others ← filterEach keep more
    return if kept then (a, rest) :: others else others

/-- The first way to put one of the candidates before a candidate of the behaviour. -/
def firstFollowed {σ α β : Type} (b : Behaviour σ β) :
    Candidates α → Run σ (Option (α × β × Text))
  | [] => pure none
  | (a, rest) :: more => do
    match ← b rest with
    | (x, rest) :: _ => return some (a, x, rest)
    | [] => firstFollowed b more

/-- Repeats a behaviour after the given items, the latest of which comes first. Each round takes
the first candidate. The repetition ends where there is none, or after a round that leaves as
much text as before. -/
def repeatFrom {σ α : Type} (b : Behaviour σ α) (items : List α) (t : Text) :
    Run σ (List α × Text) := do
  match ← b t with
  | [] => return (items.reverse, t)
  | (item, rest) :: _ =>
    if _progress : byteLength rest < byteLength t then repeatFrom b (item :: items) rest
    else return ((item :: items).reverse, rest)
termination_by byteLength t

/-- Folds pairs of an operator and a term into `acc`, from the left. Each round takes the first
operator that a term follows, and the first such term; it ends as a repetition does. -/
def foldFrom {σ α : Type} (term : Behaviour σ α) (operator : Behaviour σ (α → α → Attempt α))
    (acc : α) (t : Text) : Run σ (α × Text) := do
  match ← firstFollowed term (← operator t) with
  | none => return (acc, t)
  | some (f, right, rest) =>
    let acc ← Run.attempt (f acc right)
    if _progress : byteLength rest < byteLength t then foldFrom term operator acc rest
    else return (acc, rest)
termination_by byteLength t

namespace Behaviour

variable {σ α β : Type}

def halt (h : Halt) : Behaviour σ α := fun _ => Run.halt h

def pure (value : α) : Behaviour σ α := fun t => return [(value, t)]

/-- Splits off the start of the text in one way at most. -/
def split (f : Text → Option (α × Text)) : Behaviour σ α := fun t => return (f t).toList

def custom (f : Text → Attempt (Candidates α)) : Behaviour σ α := fun t => Run.attempt (f t)

def tryMap (b : Behaviour σ α) (f : α → Attempt β) : Behaviour σ β := fun t => do
  mapEach f (← b t)

def bind (b : Behaviour σ α) (next : α → Behaviour σ β) : Behaviour σ β := fun t => do
  fromEach next (← b t)

def union (b c : Behaviour σ α) : Behaviour σ α := fun t => return (← b t) ++ (← c t)

def orElse (b c : Behaviour σ α) : Behaviour σ α := fun t => do
  match ← b t with
  | [] => c t
  | found => return found

def committed (b c : Behaviour σ α) : Behaviour σ α := fun t => do
  match ← b t with
  | [] => return (← c t).take 1
  | found => return found.take 1

def tryFilter (b : Behaviour σ α) (keep : α → Attempt Bool) : Behaviour σ α := fun t => do
  filterEach keep (← b t)

def optional (b : Behaviour σ α) : Behaviour σ (Option α) := fun t => do
  return (← b t).map (fun (a, rest) => (some a, rest)) ++ [(none, t)]

def many (b : Behaviour σ α) : Behaviour σ (List α) := fun t => return [← repeatFrom b [] t]

/-- One candidate of the behaviour, then a repetition of `next`. -/
def followedByMany (b next : Behaviour σ α) : Behaviour σ (List α) := fun t => do
  (← b t).mapM fun (first, rest) => repeatFrom next [first] rest

def some (b : Behaviour σ α) : Behaviour σ (List α) := b.followedByMany b

def separatedByAtLeastOne (b : Behaviour σ α) (separator : Behaviour σ β) :
    Behaviour σ (List α) :=
  b.followedByMany (separator.bind fun _ => b)

def separatedBy (b : Behaviour σ α) (separator : Behaviour σ β) : Behaviour σ (List α) :=
  fun t => do
    match (← b.separatedByAtLeastOne separator t).take 1 with
    | [] => return [([], t)]
    | first => return first

def chain (term : Behaviour σ α) (operator : Behaviour σ (α → α → Attempt α)) :
    Behaviour σ α := fun t => do
  (← term t).mapM fun (first, rest) => foldFrom term operator first rest

def «then» (b : Behaviour σ α) (c : Behaviour σ β) : Behaviour σ (α × β) := fun t => do
  fromEach (fun a rest => return (← c rest).map fun (x, rest) => ((a, x), rest)) (← b t)

def ap (b : Behaviour σ (α → Attempt β)) (c : Behaviour σ α) : Behaviour σ β := fun t => do
  fromEach (fun f rest => do mapEach f (← c rest)) (← b t)

/-- White space, by its pattern. -/
def blanks : Behaviour σ Text := split Pattern.blanks.split

/-- Drops the white space after each candidate. -/
def token (b : Behaviour σ α) : Behaviour σ α := fun t => do
  fromEach (fun a rest => return ((← blanks rest).take 1).map fun (_, rest) => (a, rest)) (← b t)

/-- Reports the start and the end to the debugger. -/
def debug (d : Debugger σ) (mark : Mark) (b : Behaviour σ α) : Behaviour σ α := fun t => do
  d.enter mark t
  let found ← b t
  d.leave mark found.length
  return found

end Behaviour

end Backtrack
