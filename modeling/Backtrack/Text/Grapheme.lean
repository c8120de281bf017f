import Backtrack.Text.Basic
import Backtrack.Unicode.GraphemeBreak

/-!
# Grapheme clusters

A grapheme cluster is what a reader takes for one character: a letter with its marks, a
Hangul syllable, a flag, a family of emoji. Text is cut between two characters unless
a rule joins them. Apart from the two neighbours, the rules look back at a run of
regional indicators, at a pictograph before a joiner, and at consonants with a
linker; this is kept in a small state while the text is read.
-/

namespace Backtrack.Grapheme

/-- What a character is for the rules. -/
inductive Kind
  | carriageReturn
  | lineFeed
  | control
  | extender
  /-- An extender that links consonants. -/
  | linker
  /-- The extender that keeps consonants from being linked. -/
  | nonJoiner
  | joiner
  | spacingMark
  | prepended
  | regional
  | hangulL
  | hangulV
  | hangulT
  | hangulLV
  | hangulLVT
  | pictograph
  | consonant
  | other
  deriving DecidableEq, Repr

/-- The kind of a Hangul letter or syllable. -/
def Kind.ofHangul? (n : Nat) : Option Kind :=
  if 0xAC00 ≤ n ∧ n ≤ 0xD7A3 then some (if (n - 0xAC00) % 28 = 0 then hangulLV else hangulLVT)
  else if (0x1100 ≤ n ∧ n ≤ 0x115F) ∨ (0xA960 ≤ n ∧ n ≤ 0xA97C) then some hangulL
  else if (0x1160 ≤ n ∧ n ≤ 0x11A7) ∨ (0xD7B0 ≤ n ∧ n ≤ 0xD7C6) ∨ n = 0x16D63 ∨
    (0x16D67 ≤ n ∧ n ≤ 0x16D6A) then some hangulV
  else if (0x11A8 ≤ n ∧ n ≤ 0x11FF) ∨ (0xD7CB ≤ n ∧ n ≤ 0xD7FB) then some hangulT
  else none

/-- The kind of a character. -/
def Kind.of (c : Char) : Kind :=
  if c = '\r' then carriageReturn
  else if c = '\n' then lineFeed
  else if 0x20 ≤ c.toNat ∧ c.toNat < 0x7F then other
  else if c.toNat = 0x200C then nonJoiner
  else if c.toNat = 0x200D then joiner
  else if 0x1F1E6 ≤ c.toNat ∧ c.toNat ≤ 0x1F1FF then regional
  else if Unicode.controls.contains c then control
  else if Unicode.conjunctLinkers.contains c then linker
  else if Unicode.extenders.contains c then extender
  else if Unicode.spacingMarks.contains c then spacingMark
  else if Unicode.prepends.contains c then prepended
  else if Unicode.pictographs.contains c then pictograph
  else if Unicode.conjunctConsonants.contains c then consonant
  else (ofHangul? c.toNat).getD other

/-- A line break or another control, which stands alone. -/
def Kind.breaks : Kind → Bool
  | carriageReturn | lineFeed | control => true
  | _ => false

/-- A mark that extends whatever is before it. -/
def Kind.extends : Kind → Bool
  | extender | linker | nonJoiner => true
  | _ => false

/-- How much of the start of a joined pair was read. -/
inductive Progress
  | none
  /-- Its first part, with marks. -/
  | base
  /-- Its first part and what joins the second one to it. -/
  | linked
  deriving DecidableEq, Repr

/-- What the rules look back at. -/
structure Context where
  /-- The kind of the last character. -/
  last : Kind
  /-- Whether the run of regional indicators that ends here has an odd length. -/
  oddRegionals : Bool
  /-- A pictograph and its joiner. -/
  emoji : Progress
  /-- A consonant and its linker. -/
  conjunct : Progress
  deriving DecidableEq, Repr

def Context.emojiAfter (c : Context) (k : Kind) : Progress :=
  if k = .pictograph then .base
  else if c.emoji = .base then
    if k.extends then .base else if k = .joiner then .linked else .none
  else .none

def Context.conjunctAfter (c : Context) (k : Kind) : Progress :=
  if k = .consonant then .base
  else if c.conjunct = .none then .none
  else if k = .linker then .linked
  else if k = .extender || k = .joiner then c.conjunct
  else .none

/-- What to look back at after one more character. -/
def Context.after (c : Context) (k : Kind) : Context where
  last := k
  oddRegionals := k = .regional && !c.oddRegionals
  emoji := c.emojiAfter k
  conjunct := c.conjunctAfter k

/-- What to look back at after the first character. -/
def Context.first (k : Kind) : Context := Context.after ⟨.other, false, .none, .none⟩ k

/-- Whether a Hangul letter or syllable goes on with the next one. -/
def Kind.hangulJoins : Kind → Kind → Bool
  | hangulL, hangulL | hangulL, hangulV | hangulL, hangulLV | hangulL, hangulLVT => true
  | hangulLV, hangulV | hangulLV, hangulT | hangulV, hangulV | hangulV, hangulT => true
  | hangulLVT, hangulT | hangulT, hangulT => true
  | _, _ => false

/-- Whether the next character belongs to the cluster. The first rule that applies decides. -/
def Context.joins (c : Context) (k : Kind) : Bool :=
  if c.last = .carriageReturn && k = .lineFeed then true
  else if c.last.breaks || k.breaks then false
  else if c.last.hangulJoins k then true
  else if k.extends || k = .joiner || k = .spacingMark then true
  else if c.last = .prepended then true
  else if k = .consonant then c.conjunct = .linked
  else if k = .pictograph then c.emoji = .linked
  else k = .regional && c.oddRegionals

/-- The rest of a cluster, and the text after it. -/
def splitRest (c : Context) : Text → Text × Text
  | [] => ([], [])
  | d :: t =>
    let k := Kind.of d
    if c.joins k then
      let (cluster, rest) := splitRest (c.after k) t
      (d :: cluster, rest)
    else ([], d :: t)

/-- The first cluster of a text, and the text after it. -/
def splitFirst? : Text → Option (Text × Text)
  | [] => none
  | c :: t =>
    let (cluster, rest) := splitRest (.first (.of c)) t
    some (c :: cluster, rest)

end Backtrack.Grapheme
