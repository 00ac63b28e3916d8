/-!
# Faults of patterns

Why a text writes no pattern, and where in the text. The explanation of a fault repeats the text,
underlines the place with circumflexes and names the cause. A text of several lines is repeated
between rules, with its lines numbered. A pattern may also be too large as a whole.

## Main definitions

* `FileQuery.PatternFaultCause`, `FileQuery.Extent`, `FileQuery.PatternFault`.
* `FileQuery.PatternFault.explain`.
-/

namespace FileQuery

/-- What is wrong with a text that should write a pattern. -/
inductive PatternFaultCause where
  | nothingToRepeat
  | unclosedCount
  | countDigits
  | countSize
  | countRange
  | unclosedGroup
  | unopenedGroup
  | unclosedName
  | emptyName
  | nameCharacter
  | duplicateName
  | unclosedFlags
  | unknownFlag
  | duplicateFlag
  | repeatedNegation
  | danglingNegation
  | lookAround
  | backReference
  | unfinishedEscape
  | unknownEscape
  | hexDigit
  | noHexDigits
  | noCharacter
  | unclosedBoundary
  | unknownBoundary
  | unfinishedBoundary
  | unclosedClass
  | classEscape
  | classRange
  | classBoundary
  | unknownProperty
  | notText
  | tooDeep
  deriving DecidableEq, Repr

/-- How many parts of a pattern may lie in each other. -/
def nestLimit : Nat := 250

/-- How many bytes the automaton of a pattern may take. -/
def automatonLimit : Nat := 10 * 2 ^ 20

def PatternFaultCause.message : PatternFaultCause → String
  | .nothingToRepeat => "repetition operator missing expression"
  | .unclosedCount => "unclosed counted repetition"
  | .countDigits => "repetition quantifier expects a valid decimal"
  | .countSize => "decimal literal invalid"
  | .countRange => "invalid repetition count range, the start must be <= the end"
  | .unclosedGroup => "unclosed group"
  | .unopenedGroup => "unopened group"
  | .unclosedName => "unclosed capture group name"
  | .emptyName => "empty capture group name"
  | .nameCharacter => "invalid capture group character"
  | .duplicateName => "duplicate capture group name"
  | .unclosedFlags => "expected flag but got end of regex"
  | .unknownFlag => "unrecognized flag"
  | .duplicateFlag => "duplicate flag"
  | .repeatedNegation => "flag negation operator repeated"
  | .danglingNegation => "dangling flag negation operator"
  | .lookAround => "look-around, including look-ahead and look-behind, is not supported"
  | .backReference => "backreferences are not supported"
  | .unfinishedEscape => "incomplete escape sequence, reached end of pattern prematurely"
  | .unknownEscape => "unrecognized escape sequence"
  | .hexDigit => "invalid hexadecimal digit"
  | .noHexDigits => "hexadecimal literal empty"
  | .noCharacter => "hexadecimal literal is not a Unicode scalar value"
  | .unclosedBoundary => "special word boundary assertion is either unclosed or contains an " ++
      "invalid character"
  | .unknownBoundary => "unrecognized special word boundary assertion, valid choices are: " ++
      "start, end, start-half or end-half"
  | .unfinishedBoundary => "found either the beginning of a special word boundary or a bounded " ++
      "repetition on a \\b with an opening brace, but no closing brace"
  | .unclosedClass => "unclosed character class"
  | .classEscape => "invalid escape sequence found in character class"
  | .classRange => "invalid character class range, the start must be <= the end"
  | .classBoundary => "invalid range boundary, must be a literal"
  | .unknownProperty => "Unicode property not found"
  | .notText => "pattern can match invalid UTF-8"
  | .tooDeep => s!"exceed the maximum number of nested parentheses/brackets ({nestLimit})"

/-- A part of a text, given by the numbers of characters that follow its beginning and its end. -/
structure Extent where
  fromStart : Nat
  fromStop : Nat
  deriving DecidableEq, Repr

/-- The part of a text between two of its ends. -/
def Extent.between (start stop : List Char) : Extent := ⟨start.length, stop.length⟩

/-- Why a text cannot be used as a pattern. -/
inductive PatternFault where
  /-- A part of the text is wrong. It may repeat an earlier one. -/
  | misread (cause : PatternFaultCause) (place : Extent) (earlier : Option Extent)
  /-- The automaton of the pattern takes too many bytes. -/
  | tooLarge
  deriving DecidableEq, Repr

namespace PatternFault

/-- The line and the column of a place in a text, both counted from zero. -/
def lineColumn : List Char → Nat × Nat
  | cs => cs.foldl (fun (line, column) c => if c = '\n' then (line + 1, 0) else (line, column + 1))
    (0, 0)

/-- The lines of a text. A line feed at the end begins no further line, and a carriage return before
a line feed is no part of the line. -/
def lines : List Char → List (List Char)
  | [] => []
  | '\n' :: cs => [] :: lines cs
  | '\r' :: '\n' :: cs => [] :: lines cs
  | c :: '\n' :: cs => [c] :: lines cs
  | c :: cs =>
    match lines cs with
    | [] => [[c]]
    | l :: ls => (c :: l) :: ls

/-- A marked part of a text with the lines and columns of its ends. -/
structure Mark where
  line : Nat
  column : Nat
  lastLine : Nat
  lastColumn : Nat

/-- The mark of a part of a text. -/
def mark (cs : List Char) (e : Extent) : Mark :=
  let (line, column) := lineColumn (cs.take (cs.length - e.fromStart))
  let (lastLine, lastColumn) := lineColumn (cs.take (cs.length - e.fromStop))
  ⟨line, column, lastLine, lastColumn⟩

/-- Circumflexes below the marked columns of a line, from a column on. -/
def underline (column : Nat) : List Mark → List Char
  | [] => []
  | m :: ms =>
    let width := max 1 (m.lastColumn - m.column)
    List.replicate (m.column - column) ' ' ++ List.replicate width '^' ++
      underline (max column m.column + width) ms

/-- A number with blanks before it up to a width. -/
def numbered (width n : Nat) : List Char :=
  let digits := Nat.toDigits 10 n
  List.replicate (width - digits.length) ' ' ++ digits

/-- The lines of a text, each followed by the marks on it. -/
def annotate (width : Nat) (marks : List Mark) (ls : List (List Char)) : List (List Char) :=
  (ls.mapIdx fun i l =>
    let head := if width = 0 then List.replicate 4 ' ' else numbered width (i + 1) ++ [':', ' ']
    let below := match marks.filter fun m => m.line = i ∧ m.lastLine = i with
      | [] => []
      | ms => [List.replicate head.length ' ' ++ underline 0 ms]
    (head ++ l) :: below).flatten

/-- The lines that a mark of several lines reaches over. -/
def reach (m : Mark) : List Char :=
  let number (n : Nat) : String := toString (n + 1)
  String.toList (s!"on line {number m.line} (column {number m.column}) through line " ++
    s!"{number m.lastLine} (column {m.lastColumn})")

/-- The order of marks in a text. -/
def Mark.isBefore (m n : Mark) : Bool :=
  decide (m.line < n.line) || (m.line == n.line && decide (m.column ≤ n.column))

/-- A text with some of its parts underlined. -/
def underlined (text : String) (places : List Extent) : String :=
  let cs := text.toList
  let ls := lines cs
  let count := if cs.getLast? = some '\n' then ls.length + 1 else ls.length
  let width := if count ≤ 1 then 0 else (Nat.toDigits 10 count).length
  let marks := (places.map (mark cs)).mergeSort Mark.isBefore
  let body := annotate width marks ls
  let rule := [List.replicate 79 '~']
  let several := (marks.filter fun m => m.line != m.lastLine).map reach
  let shown := if cs.contains '\n' then rule ++ body ++ rule ++ several else body
  String.join (shown.map fun l => String.ofList (l ++ ['\n']))

/-- The explanation of a fault of a text. -/
def explain (text : String) : PatternFault → String
  | .misread cause place earlier =>
    "regex parse error:\n" ++ underlined text (place :: earlier.toList) ++ "error: " ++
      cause.message
  | .tooLarge => s!"Compiled regex exceeds size limit of {automatonLimit} bytes."

end PatternFault

end FileQuery
