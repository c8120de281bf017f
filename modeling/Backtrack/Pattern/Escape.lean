import Backtrack.Pattern.Expr
import Backtrack.Pattern.Flags
import Backtrack.Unicode.CaseFolding
import Backtrack.Unicode.Property

/-!
# Escapes

What a backslash and the characters after it stand for: a character, a class of
characters, or a condition on a place. A class depends on the flags: without the
Unicode flag it counts bytes, and a class of bytes is refused if it has a byte that is
not ASCII, since it could match a part of a character.
-/

namespace Backtrack.Pattern

/-- What one symbol of an expression stands for. -/
inductive Primitive
  | char (c : Char)
  | look (condition : Look)
  /-- A class of characters that is not negated yet. -/
  | members (s : CharSet)

/-- The largest member of any class: a byte, or a character with the Unicode flag. -/
def Flags.top (f : Flags) : Nat := if f.unicode then CharSet.maxCode else 0xFF

/-- Accepts a class of characters; of bytes, only if all of them are ASCII. -/
def Flags.accept? (f : Flags) (s : CharSet) : Option CharSet :=
  if f.unicode || s.within 0x7F then some s else none

/-- The class with both cases of its letters if case is ignored. -/
def Flags.fold (f : Flags) (s : CharSet) : CharSet :=
  if !f.ignoreCase then s
  else if f.unicode then Unicode.foldCase s
  else Unicode.foldAsciiCase s

/-- The class or its complement. -/
def Flags.negateIf (f : Flags) (negated : Bool) (s : CharSet) : CharSet :=
  if negated then s.complementUpTo f.top else s

/-- Ignores case if the flags say so, then negates: in that order. -/
def Flags.finish? (f : Flags) (negated : Bool) (s : CharSet) : Option CharSet :=
  f.accept? (f.negateIf negated (f.fold s))

/-- ASCII classes by name. -/
def asciiClass? (name : String) : Option CharSet :=
  let digit : CodeRange := ⟨0x30, 0x39⟩
  let upper : CodeRange := ⟨0x41, 0x5A⟩
  let lower : CodeRange := ⟨0x61, 0x7A⟩
  match name with
  | "alnum" => some ⟨[digit, upper, lower]⟩
  | "alpha" => some ⟨[upper, lower]⟩
  | "ascii" => some (.range 0 0x7F)
  | "blank" => some ⟨[⟨0x09, 0x09⟩, ⟨0x20, 0x20⟩]⟩
  | "cntrl" => some ⟨[⟨0, 0x1F⟩, ⟨0x7F, 0x7F⟩]⟩
  | "digit" => some ⟨[digit]⟩
  | "graph" => some (.range 0x21 0x7E)
  | "lower" => some ⟨[lower]⟩
  | "print" => some (.range 0x20 0x7E)
  | "punct" => some ⟨[⟨0x21, 0x2F⟩, ⟨0x3A, 0x40⟩, ⟨0x5B, 0x60⟩, ⟨0x7B, 0x7E⟩]⟩
  | "space" => some ⟨[⟨0x09, 0x0D⟩, ⟨0x20, 0x20⟩]⟩
  | "upper" => some ⟨[upper]⟩
  | "word" => some ⟨[digit, upper, ⟨0x5F, 0x5F⟩, lower]⟩
  | "xdigit" => some ⟨[digit, ⟨0x41, 0x46⟩, ⟨0x61, 0x66⟩]⟩
  | _ => none

/-- The class that `\d`, `\s` or `\w` stands for. -/
def Flags.shorthandClass? (f : Flags) : Char → Option CharSet
  | 'd' => if f.unicode then some Unicode.digits else asciiClass? "digit"
  | 's' => if f.unicode then some Unicode.blanks else asciiClass? "space"
  | 'w' => if f.unicode then some Unicode.wordCharacters else asciiClass? "word"
  | _ => none

def hexValue? (c : Char) : Option Nat :=
  if '0' ≤ c && c ≤ '9' then some (c.toNat - 0x30)
  else if 'a' ≤ c && c ≤ 'f' then some (c.toNat - 0x57)
  else if 'A' ≤ c && c ≤ 'F' then some (c.toNat - 0x37)
  else none

/-- The character whose number the hexadecimal digits spell. -/
def hexChar? (digits : Text) : Option Char := do
  let values ← digits.mapM hexValue?
  let n := values.foldl (fun n v => n * 16 + v) 0
  if values.isEmpty || !n.isValidChar then none else some (Char.ofNat n)

/-- The characters up to a closing brace, and the text after it. -/
def untilBrace (f : Flags) (t : Text) : Option (Text × Text) :=
  match _h : f.skip t with
  | [] => none
  | '}' :: rest => some ([], rest)
  | c :: rest => do
    let (more, rest) ← untilBrace f rest
    return (c :: more, rest)
termination_by t.length
decreasing_by
  have := f.length_skip_le t
  rw [_h, List.length_cons] at this
  omega

/-- The given number of characters, with what may be skipped after each. -/
def takeSkipping (f : Flags) : Nat → Text → Option (Text × Text)
  | 0, t => some ([], t)
  | _ + 1, [] => none
  | n + 1, c :: rest => do
    let (more, rest) ← takeSkipping f n (f.skip rest)
    return (c :: more, rest)

/-- A character by its number, in braces or by a fixed count of digits. -/
def readHex (f : Flags) (digits : Nat) (t : Text) : Option (Primitive × Text) :=
  match f.skip t with
  | '{' :: rest => do
    let (name, rest) ← untilBrace f rest
    return (.char (← hexChar? name), f.skip rest)
  | t => do
    let (name, rest) ← takeSkipping f digits t
    return (.char (← hexChar? name), rest)

/-- The part before the first occurrence of the separator and the part after it. -/
def splitAtFirst (separator : Text) : Text → Option (Text × Text)
  | [] => none
  | c :: rest =>
    match stripStart separator (c :: rest) with
    | some after => some ([], after)
    | none => (splitAtFirst separator rest).map fun (before, after) => (c :: before, after)

/-- The class that a property name in braces stands for. The name may be divided into a property
and its value by `!=`, `:` or `=`, which all mean the same. -/
def namedProperty? (name : Text) : Option CharSet :=
  let parts? :=
    splitAtFirst ['!', '='] name <|> splitAtFirst [':'] name <|> splitAtFirst ['='] name
  match parts? with
  | some (property, value) =>
    Unicode.propertyValue? (String.ofList property) (String.ofList value)
  | none => Unicode.property? (String.ofList name)

/-- A property class, after `\p` or the negating `\P`. -/
def readProperty (f : Flags) (negated : Bool) (t : Text) : Option (Primitive × Text) := do
  let (s, rest) ← match f.skip t with
    | [] | '\\' :: _ => none
    | '{' :: rest => do
      let (name, rest) ← untilBrace f rest
      some (← namedProperty? name, rest)
    | c :: rest => do some (← Unicode.property? (String.ofList [c]), f.skip rest)
  if !f.unicode then none
  return (.members (← f.finish? negated s), rest)

/-- Punctuation that may follow a backslash; the rest of ASCII that is no letter or digit may too,
apart from the two signs that are kept for the ends of words. -/
def isEscapable (c : Char) : Bool :=
  c.toNat < 0x80 && !c.isAlphanum && c != '<' && c != '>'

/-- The symbol that a backslash and the text after it start with. -/
def readEscape (f : Flags) : Text → Option (Primitive × Text)
  | [] => none
  | 'x' :: rest => readHex f 2 rest
  | 'u' :: rest => readHex f 4 rest
  | 'U' :: rest => readHex f 8 rest
  | 'p' :: rest => readProperty f false rest
  | 'P' :: rest => readProperty f true rest
  | 'a' :: rest => some (.char '\x07', rest)
  | 'f' :: rest => some (.char '\x0C', rest)
  | 't' :: rest => some (.char '\t', rest)
  | 'n' :: rest => some (.char '\n', rest)
  | 'r' :: rest => some (.char '\r', rest)
  | 'v' :: rest => some (.char '\x0B', rest)
  | 'A' :: rest => some (.look .textStart, rest)
  | 'z' :: rest => some (.look .textEnd, rest)
  | 'b' :: rest => some (.look (if f.unicode then .wordBoundary else .asciiWordBoundary), rest)
  | 'B' :: rest =>
    some (.look (if f.unicode then .notWordBoundary else .notAsciiWordBoundary), rest)
  | c :: rest =>
    match f.shorthandClass? c.toLower with
    | some s => do return (.members (← f.accept? (f.negateIf c.isUpper s)), rest)
    | none => if isEscapable c then some (.char c, rest) else none

/-- The class of one character, which is ASCII if the class is of bytes. -/
def charClass? (f : Flags) (c : Char) : Option CharSet := f.accept? (.single c)

namespace Primitive

/-- The expression for a symbol outside of brackets. -/
def expr? (f : Flags) : Primitive → Option Expr
  | char c => (charClass? f c).map fun s => .set (f.fold s)
  | look l => some (.look l)
  | members s => some (.set s)

/-- The class for a symbol inside of brackets, where no condition has a place. -/
def class? (f : Flags) : Primitive → Option CharSet
  | char c => charClass? f c
  | look _ => none
  | members s => some s

end Primitive

end Backtrack.Pattern
