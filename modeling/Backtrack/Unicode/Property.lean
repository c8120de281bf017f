import Backtrack.Unicode.Age
import Backtrack.Unicode.BinaryProperty
import Backtrack.Unicode.BreakProperty
import Backtrack.Unicode.GeneralCategory
import Backtrack.Unicode.Script
import Backtrack.Unicode.ScriptExtension

/-!
# Properties by name

A name is compared without case, blanks, `_`, `-` and a leading `is`. A name alone
stands for a binary property, a general category or a script; a name with a value
picks one row of the property's table.
-/

namespace Backtrack.Unicode

/-- The form in which names are compared. -/
def canonicalName (name : String) : String :=
  let rest := match name.toList with
    | i :: s :: rest =>
      if (i == 'i' || i == 'I') && (s == 's' || s == 'S') then (true, rest)
      else (false, name.toList)
    | cs => (false, cs)
  let kept := rest.2.filter fun c => c != ' ' && c != '_' && c != '-' && c.toNat ≤ 0x7F
  let name := String.ofList (kept.map Char.toLower)
  if rest.1 && name == "c" then "isc" else name

/-- The categories that are made of others. -/
def categoryGroups : List (List String × List String) := [
  (["c", "other"], ["cc", "cf", "cn", "co"]),
  (["l", "letter"], ["ll", "lm", "lo", "lt", "lu"]),
  (["lc", "casedletter"], ["ll", "lt", "lu"]),
  (["m", "mark", "combiningmark"], ["mc", "me", "mn"]),
  (["n", "number"], ["nd", "nl", "no"]),
  (["p", "punctuation", "punct"], ["pc", "pd", "pe", "pf", "pi", "po", "ps"]),
  (["s", "symbol"], ["sc", "sk", "sm", "so"]),
  (["z", "separator"], ["zl", "zp", "zs"])]

/-- The characters of a general category, by its canonical name. -/
def category? (name : String) : Option CharSet :=
  match name with
  | "any" => some .full
  | "ascii" => some (.range 0 0x7F)
  | "assigned" => (lookup generalCategories "cn").map (·.complement)
  | _ =>
    match categoryGroups.find? fun group => group.1.contains name with
    | some group => some (.unionAll (group.2.filterMap (lookup generalCategories)))
    | none => lookup generalCategories name

/-- The characters that the version of the standard with the given name contains. -/
def age? (name : String) : Option CharSet :=
  match ages.findIdx? fun row => row.names.contains name with
  | some i => some (.unionAll ((ages.take (i + 1)).map fun row => decodeRanges row.table))
  | none => none

/-- The characters that a name alone stands for. -/
def property? (name : String) : Option CharSet :=
  let name := canonicalName name
  lookup binaryProperties name <|> category? name <|> lookup scripts name

/-- The characters with the given value of the property. -/
def propertyValue? (property value : String) : Option CharSet :=
  let value := canonicalName value
  match canonicalName property with
  | "gc" | "generalcategory" => category? value
  | "sc" | "script" => lookup scripts value
  | "scx" | "scriptextensions" => lookup scriptExtensions value
  | "age" => age? value
  | "gcb" | "graphemeclusterbreak" => lookup graphemeClusterBreaks value
  | "wb" | "wordbreak" => lookup wordBreaks value
  | "sb" | "sentencebreak" => lookup sentenceBreaks value
  | _ => none

end Backtrack.Unicode
