import FileQuery.Text.CaseTables
import FileQuery.Text.Cased

/-!
# Upper and lower case

The full case mappings: one character may become several, and a capital sigma at the end of a word
becomes the final small sigma.

## Main definitions

* `FileQuery.Text.toLower`, `FileQuery.Text.toUpper`: full mappings of texts.
-/

namespace FileQuery.Text

/-- The lower case of a character outside of any word. -/
def lowerChar (c : Char) : List Char :=
  if c.toNat < 0x80 then [c.toLower]
  else if c.toNat = 0x130 then ['i', Char.ofNat 0x307]
  else [(CaseRun.lookup lowerRuns c).getD c]

/-- The upper case of a character. -/
def upperChar (c : Char) : List Char :=
  if c.toNat < 0x80 then [c.toUpper]
  else match upperExpansions.lookup c.toNat with
    | some cs => cs.map Char.ofNat
    | none => [(CaseRun.lookup upperRuns c).getD c]

/-- Whether the next character that casing does not look through is cased. -/
def casedNext (cs : List Char) : Bool :=
  match cs.dropWhile isCaseIgnorable with
  | [] => false
  | c :: _ => isCased c

/-- Lower case of a text whose characters before this point, last one first, are `before`. -/
def lowerFrom (before : List Char) : List Char → List Char
  | [] => []
  | c :: cs =>
    let image :=
      if c.toNat = 0x3A3 then
        [Char.ofNat (if casedNext before && !casedNext cs then 0x3C2 else 0x3C3)]
      else lowerChar c
    image ++ lowerFrom (c :: before) cs

/-- The lower case of a text. -/
def toLower (s : String) : String := String.ofList (lowerFrom [] s.toList)

/-- The upper case of a text. -/
def toUpper (s : String) : String := String.ofList (s.toList.flatMap upperChar)

/-- The lower case of the ASCII letters of a text; all else stays. -/
def toAsciiLower (s : String) : String := String.ofList (s.toList.map Char.toLower)

end FileQuery.Text
