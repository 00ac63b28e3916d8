import FileQuery.Pattern.Automaton
import FileQuery.Text.Numeric

/-!
# Reading patterns

The written form of patterns. Flags in groups change how the rest of the group is read: letters in
any case (`i`), anchors at lines (`m`), a dot for line breaks too (`s`), both characters of a line
break (`R`), and white space and comments ignored (`x`). Look-around and references to groups are
no part of the language.

The engine here knows no Unicode properties (`\p` and `\P`), and Unicode cannot be switched off for
a part of a pattern (`(?-u)`); patterns that ask for one or the other are rejected. What matches
patterns takes its engine as an argument, so that nothing rests on this.

## Main definitions

* `FileQuery.Pattern.Flags`.
* `FileQuery.Pattern.escape`: what a backslash means.
* `FileQuery.Pattern.bracket`: sets in brackets, with nesting and set operations.
* `FileQuery.Pattern.readWritten`: the written pattern of a text, or what is wrong with it.
* `FileQuery.Pattern.parse`: the pattern of a text, or why there is none.
* `FileQuery.PatternEngine`: what patterns are matched with.
-/

namespace FileQuery.Pattern

/-- How a pattern is read. -/
structure Flags where
  ignoreCase : Bool
  multiLine : Bool
  dotAll : Bool
  wideBreaks : Bool
  spaced : Bool
  lazy : Bool
  deriving DecidableEq, Repr

def Flags.none : Flags := ⟨false, false, false, false, false, false⟩

/-- Drops white space and comments; inside a comment all up to the line feed. -/
def dropBlanks (comment : Bool) : List Char → List Char
  | [] => []
  | c :: cs =>
    if comment then dropBlanks (c != '\n') cs
    else if Text.isWhiteSpace c then dropBlanks false cs
    else if c = '#' then dropBlanks true cs
    else c :: cs

/-- Drops white space and comments where they are ignored. -/
def Flags.skip (f : Flags) (cs : List Char) : List Char :=
  if f.spaced then dropBlanks false cs else cs

/-- Flags with one of them switched on or off, by its letter. The letter `u` is known but changes
nothing. -/
def Flags.switch (f : Flags) (on : Bool) : Char → Flags
  | 'i' => { f with ignoreCase := on }
  | 'm' => { f with multiLine := on }
  | 's' => { f with dotAll := on }
  | 'R' => { f with wideBreaks := on }
  | 'x' => { f with spaced := on }
  | 'U' => { f with lazy := on }
  | _ => f

/-- The letters of the flags that have a meaning. -/
def flagLetters : List Char := ['i', 'm', 's', 'R', 'x', 'U', 'u']

/-- What is read from a part of a text, or a fault. -/
abbrev Reading (α : Type) := Except PatternFault α

/-- A reading that stops at a fault between two places of a text. -/
def stop {α : Type} (cause : PatternFaultCause) (start upTo : List Char) : Reading α :=
  .error (.misread cause (.between start upTo) none)

/-- The flags written in a group up to its colon or closing parenthesis, with the place of each
letter and of the minus sign: the flags after them, whether there are any, and the rest. Nothing may
stand there twice, and a minus sign needs a letter after it. -/
def switches (f : Flags) (seen : List (Char × Extent)) (on : Bool) :
    List Char → Reading (Flags × Bool × List Char)
  | [] => stop .unclosedFlags [] []
  | c :: cs =>
    let place : Extent := .between (c :: cs) cs
    let again (cause : PatternFaultCause) (earlier : Extent) : Reading (Flags × Bool × List Char) :=
      .error (.misread cause place (some earlier))
    if c = ':' ∨ c = ')' then
      match seen with
      | ('-', minus) :: _ => .error (.misread .danglingNegation minus none)
      | seen => .ok (f, !seen.isEmpty, c :: cs)
    else if c = '-' then
      match seen.lookup c with
      | some earlier => again .repeatedNegation earlier
      | none => switches f ((c, place) :: seen) false cs
    else if !flagLetters.contains c then .error (.misread .unknownFlag place none)
    else
      match seen.lookup c with
      | some earlier => again .duplicateFlag earlier
      | none =>
        if c = 'u' ∧ on = false then .error (.misread .notText place none)
        else switches (f.switch on c) ((c, place) :: seen) on cs

/-! ### Numbers -/

/-- Characters of a class with white space and comments between them where they are ignored. -/
def runOf (p : Char → Bool) (spaced comment : Bool) : List Char → List Char × List Char
  | [] => ([], [])
  | c :: cs =>
    if comment then runOf p spaced (c != '\n') cs
    else if p c then
      let (ds, r) := runOf p spaced false cs
      (c :: ds, r)
    else if spaced && Text.isWhiteSpace c then runOf p spaced false cs
    else if spaced && c == '#' then runOf p spaced true cs
    else ([], c :: cs)

/-- A count below `2 ^ 32` with white space around it, and the rest. -/
def count (f : Flags) (cs : List Char) : Reading Nat × List Char :=
  let start := cs.dropWhile Text.isWhiteSpace
  let (ds, r) := runOf Char.isDigit f.spaced false start
  let n := Nat.ofDigitChars 10 ds 0
  let value := if ds.isEmpty then stop .countDigits start r
    else if 2 ^ 32 ≤ n then stop .countSize start r else .ok n
  (value, r.dropWhile Text.isWhiteSpace)

/-- The bounds of a repetition, and the rest behind the closing brace. A brace that is not closed is
told before a bad count, unless more text follows the count. -/
def bounds (f : Flags) (brace : List Char) : Reading (Nat × Option Nat × List Char) :=
  match f.skip (brace.drop 1) with
  | [] => stop .unclosedCount brace []
  | r =>
    let (least, r) := count f r
    match r with
    | [] => stop .unclosedCount brace []
    | ',' :: r =>
      match f.skip r with
      | [] => stop .unclosedCount brace []
      | '\x7d' :: r => least.map fun n => (n, none, r)
      | r => do
        let least ← least
        let (most, r) := count f r
        let most ← most
        match r with
        | '\x7d' :: r => return (least, some most, r)
        | r => stop .unclosedCount brace r
    | '\x7d' :: r => least.map fun n => (n, some n, r)
    | r => do
      let _ ← least
      stop .unclosedCount brace r

/-! ### Escapes -/

/-- What one item stands for. -/
inductive Primitive where
  | character (c : Char)
  | set (s : CharSet)
  | anchor (a : Anchor)

/-- The value of a hexadecimal digit. -/
def hexValue? (c : Char) : Option Nat :=
  if c.isDigit then some (c.toNat - 48)
  else if 'a' ≤ c ∧ c ≤ 'f' then some (c.toNat - 87)
  else if 'A' ≤ c ∧ c ≤ 'F' then some (c.toNat - 55)
  else none

/-- The character of a code point, if there is one. -/
def character? (n : Nat) : Option Char :=
  if h : n.isValidChar then some (Char.ofNatAux n h) else none

/-- A fixed number of hexadecimal digits. -/
def hexDigits (f : Flags) (value : Nat) : Nat → List Char → Reading (Nat × List Char)
  | 0, cs => .ok (value, cs)
  | n + 1, c :: cs =>
    match hexValue? c with
    | some d => hexDigits f (16 * value + d) n (f.skip cs)
    | none => stop .hexDigit (c :: cs) cs
  | _ + 1, [] => stop .unfinishedEscape [] []

/-- Hexadecimal digits in braces, at least one: their value, and the rest from the closing brace
on. -/
def hexBraced (f : Flags) (brace : List Char) : Reading (Nat × List Char) :=
  let (ds, r) := runOf (fun c => (hexValue? c).isSome) f.spaced false (brace.drop 1)
  match r with
  | [] => stop .unfinishedEscape brace []
  | '\x7d' :: r' =>
    if ds.isEmpty then stop .noHexDigits brace (f.skip r')
    else .ok (ds.foldl (fun n d => 16 * n + (hexValue? d).getD 0) 0, r)
  | c :: r' => stop .hexDigit (c :: r') r'

/-- A character by its number: in braces, or in a fixed number of digits. -/
def hex (f : Flags) (digits : Nat) (cs : List Char) : Reading (Char × List Char) :=
  let found (start stop' rest : List Char) (n : Nat) : Reading (Char × List Char) :=
    match character? n with
    | some c => .ok (c, rest)
    | none => stop .noCharacter start stop'
  match f.skip cs with
  | [] => stop .unfinishedEscape [] []
  | '\x7b' :: r => do
    let (n, r') ← hexBraced f ('\x7b' :: r)
    found r r' (f.skip (r'.drop 1)) n
  | start => do
    let (n, r) ← hexDigits f 0 digits start
    found start r r n

/-- The kinds of word boundaries that have names. -/
def namedBoundary? (name : String) : Option Anchor :=
  match name with
  | "start" => some .wordStart
  | "end" => some .wordEnd
  | "start-half" => some .wordStartHalf
  | "end-half" => some .wordEndHalf
  | _ => none

/-- Whether a character may stand in the name of a word boundary. -/
def isBoundaryName (c : Char) : Bool := c.isAlpha || c == '-'

/-- The kind of word boundary named in braces behind `\b`; braces without a name are left to be read
as a repetition. -/
def boundary (f : Flags) (escape : List Char) : Reading (Anchor × List Char) :=
  match escape.drop 2 with
  | '\x7b' :: r =>
    match f.skip r with
    | [] => stop .unfinishedBoundary escape []
    | c :: r' =>
      if isBoundaryName c then
        match runOf isBoundaryName f.spaced false (c :: r') with
        | (name, '\x7d' :: rest) =>
          match namedBoundary? (String.ofList name) with
          | some a => .ok (a, rest)
          | none => stop .unknownBoundary (c :: r') ('\x7d' :: rest)
        | (_, rest) => stop .unclosedBoundary ('\x7b' :: r) rest
      else .ok (.wordBoundary, '\x7b' :: r)
  | r => .ok (.wordBoundary, r)

/-- The characters that stand for themselves behind a backslash. -/
def isEscapable (c : Char) : Bool :=
  c.toNat < 0x80 && !c.isAlphanum && c != '<' && c != '>'

/-- What a text that begins with a backslash means, and the rest behind it. -/
def escape (f : Flags) (cs : List Char) : Reading (Primitive × List Char) :=
  match cs.drop 1 with
  | [] => stop .unfinishedEscape cs []
  | c :: r =>
    match c with
    | 'd' => .ok (.set .digit, r)
    | 's' => .ok (.set .space, r)
    | 'w' => .ok (.set .word, r)
    | 'D' => .ok (.set CharSet.digit.complement, r)
    | 'S' => .ok (.set CharSet.space.complement, r)
    | 'W' => .ok (.set CharSet.word.complement, r)
    | 'a' => .ok (.character (Char.ofNat 0x07), r)
    | 'f' => .ok (.character (Char.ofNat 0x0C), r)
    | 't' => .ok (.character '\t', r)
    | 'n' => .ok (.character '\n', r)
    | 'r' => .ok (.character '\r', r)
    | 'v' => .ok (.character (Char.ofNat 0x0B), r)
    | 'A' => .ok (.anchor .textStart, r)
    | 'z' => .ok (.anchor .textEnd, r)
    | 'b' => (boundary f cs).map fun (a, r) => (.anchor a, r)
    | 'B' => .ok (.anchor .notWordBoundary, r)
    | '<' => .ok (.anchor .wordStart, r)
    | '>' => .ok (.anchor .wordEnd, r)
    | 'x' => (hex f 2 r).map fun (c, r) => (.character c, r)
    | 'u' => (hex f 4 r).map fun (c, r) => (.character c, r)
    | 'U' => (hex f 8 r).map fun (c, r) => (.character c, r)
    | c =>
      if isEscapable c then .ok (.character c, r)
      else if c.isDigit then stop .backReference cs r
      else if c = 'p' ∨ c = 'P' then stop .unknownProperty cs r
      else stop .unknownEscape cs r

/-! ### Sets in brackets -/

/-- A set with all case variants where case is ignored. -/
def Flags.variants (f : Flags) (s : CharSet) : CharSet := if f.ignoreCase then s.folded else s

/-- The set that a bracket or a name between colons stands for. Case variants are added before it is
negated. -/
def Flags.negate (f : Flags) (negated : Bool) (s : CharSet) : CharSet :=
  let s := f.variants s
  if negated then s.complement else s

/-- A named set behind an opening bracket, such as `:alpha:]`. -/
def colonSet? (f : Flags) (cs : List Char) : Option (CharSet × List Char) :=
  match cs with
  | ':' :: r =>
    let (negated, r) := match r with
      | '^' :: r => (true, r)
      | r => (false, r)
    match r.dropWhile (· != ':') with
    | ':' :: ']' :: rest => do
      let s ← CharSet.named? (String.ofList (r.takeWhile (· != ':')))
      return (f.negate negated s, rest)
    | _ => none
  | _ => none

/-- The operations on sets. -/
inductive SetOp where
  | intersection
  | difference
  | symmetricDifference

def SetOp.apply : SetOp → CharSet → CharSet → CharSet
  | .intersection => .intersection
  | .difference => .difference
  | .symmetricDifference => .symmetricDifference

/-- A bracket that is still open: whether it is negated, the set before its last operation with
that operation, and the items after it, all with their parts. -/
structure OpenBracket where
  /-- The part of the text that opened it. -/
  opening : Extent
  negated : Bool
  left : Option (CharSet × Nesting × SetOp)
  /-- Where the items begin. -/
  start : Nat
  /-- The ranges of the items. -/
  items : List (Nat × Nat)
  /-- The parts of the items, last one first. -/
  parts : List Nesting

namespace OpenBracket

/-- The bracket with one more item. -/
def add (b : OpenBracket) (s : CharSet) (n : Nesting) : OpenBracket :=
  { b with items := s ++ b.items, parts := n :: b.parts }

/-- The set so far with its parts: the last operation is carried out. -/
def value (f : Flags) (b : OpenBracket) : CharSet × Nesting :=
  let s := CharSet.ofRanges b.items
  let n := match b.parts.reverse with
    | [] => .leaf ⟨b.start, b.start⟩
    | n :: ns => n.joined ns
  match b.left with
  | none => (s, n)
  | some (t, m, op) =>
    (op.apply (f.variants t) (f.variants s), .node ⟨m.place.fromStart, n.place.fromStop⟩ [m, n])

/-- The bracket behind a further operation, with the rest of the text. -/
def operate (f : Flags) (b : OpenBracket) (op : SetOp) (rest : List Char) : OpenBracket :=
  let (s, n) := b.value f
  ⟨b.opening, b.negated, some (s, n, op), rest.length, [], []⟩

/-- The set and the parts of the bracket when it is closed in front of a rest. -/
def close (f : Flags) (b : OpenBracket) (rest : List Char) : CharSet × Nesting :=
  let (s, n) := b.value f
  (f.negate b.negated s, .node ⟨b.opening.fromStart, rest.length⟩ [n])

end OpenBracket

/-- A bracket from its opening on: a circumflex negates it, and hyphens or a closing bracket right
at its beginning stand for themselves. -/
def openBracket (f : Flags) (cs : List Char) : Reading (OpenBracket × List Char) :=
  let start (negated : Bool) (items : List Char) : Reading (OpenBracket × List Char) :=
    let opened (c : Char) (parts : List Nesting) (r : List Char) : OpenBracket × List Char :=
      let ranges := if parts.isEmpty then [] else CharSet.single c
      (⟨.between cs r, negated, none, items.length, ranges, parts⟩, r)
    match items, runOf (· == '-') f.spaced false items with
    | [], _ => stop .unclosedClass cs []
    | '-' :: _, (_, []) => stop .unclosedClass cs cs
    | '-' :: r, (hyphens, r') =>
      let hyphen : Nesting := .leaf (.between items r)
      .ok (opened '-' (hyphens.map fun _ => hyphen) r')
    | ']' :: r, _ =>
      match f.skip r with
      | [] => stop .unclosedClass cs []
      | r' => .ok (opened ']' [.leaf (.between items r)] r')
    | r, _ => .ok (opened ']' [] r)
  match f.skip (cs.drop 1) with
  | '^' :: r => start true (f.skip r)
  | r => start false r

/-- One character or set inside a bracket. -/
def bracketItem (f : Flags) : List Char → Reading (Primitive × List Char)
  | '\\' :: r => escape f ('\\' :: r)
  | c :: r => .ok (.character c, r)
  | [] => stop .unclosedClass [] []

/-- The end of a range, which must be a character. -/
def boundOf (place : Extent) : Primitive → Reading Char
  | .character c => .ok c
  | _ => .error (.misread .classBoundary place none)

/-- An item of a bracket: a range of characters, a character or a set. -/
def bracketRange (f : Flags) (opening : Extent) (cs : List Char) :
    Reading (CharSet × List Char) := do
  let unclosed : Reading (CharSet × List Char) := .error (.misread .unclosedClass opening none)
  let (p, r) ← bracketItem f cs
  let alone : Reading (CharSet × List Char) :=
    match p with
    | .character c => .ok (CharSet.single c, r)
    | .set s => .ok (s, r)
    | .anchor _ => stop .classEscape cs r
  match f.skip r with
  | [] => unclosed
  | '-' :: r' =>
    match f.skip r' with
    | [] => unclosed
    | c :: r'' =>
      if c = ']' ∨ c = '-' then alone
      else
        let (q, rest) ← bracketItem f (c :: r'')
        let low ← boundOf (.between cs r) p
        let high ← boundOf (.between (c :: r'') rest) q
        if low ≤ high then return ([(low.toNat, high.toNat)], rest)
        else stop .classRange cs rest
  | _ => alone

/-- What the brackets that are open, innermost first, and the text after them come to: the set of
the outermost one with its parts and the rest behind it. Every item takes at least one character. -/
def brackets (f : Flags) (b : OpenBracket) (outer : List OpenBracket) (cs : List Char) :
    Reading ((CharSet × Nesting) × List Char) :=
  let unclosed : Reading ((CharSet × Nesting) × List Char) :=
    .error (.misread .unclosedClass b.opening none)
  let read (b : OpenBracket) (outer : List OpenBracket) (r : List Char) :
      Reading ((CharSet × Nesting) × List Char) :=
    if r.length < cs.length then brackets f b outer r else unclosed
  let operate (op : SetOp) (r : List Char) : Reading ((CharSet × Nesting) × List Char) :=
    read (b.operate f op r) outer r
  match f.skip cs with
  | [] => unclosed
  | '[' :: r =>
    match colonSet? f r with
    | some (s, r') => read (b.add s (.leaf (.between ('[' :: r) r'))) outer r'
    | none => do
      let (b', r') ← openBracket f ('[' :: r)
      read b' (b :: outer) r'
  | ']' :: r =>
    let (s, n) := b.close f r
    match outer with
    | [] => .ok ((s, n), r)
    | o :: os => read (o.add s n) os r
  | '&' :: '&' :: r => operate .intersection r
  | '-' :: '-' :: r => operate .difference r
  | '~' :: '~' :: r => operate .symmetricDifference r
  | r => do
    let (s, r') ← bracketRange f b.opening r
    read (b.add s (.leaf (.between r r'))) outer r'
termination_by cs.length

/-- The set of a bracket from its opening on with its parts, and the rest behind its closing. -/
def bracket (f : Flags) (cs : List Char) : Reading ((CharSet × Nesting) × List Char) := do
  let (b, r) ← openBracket f cs
  brackets f b [] r

/-! ### Groups -/

/-- A group that is still open: the part of the text that opened it, whether its match is
remembered, the flags outside of it, its finished alternatives and the items of the last one, both
last one first. -/
structure OpenGroup where
  opening : Extent
  captures : Bool
  outside : Flags
  /-- Where the first alternative begins. -/
  start : Nat
  alternatives : List WrittenPattern
  /-- Where the last alternative begins. -/
  lastStart : Nat
  items : List WrittenPattern

namespace OpenGroup

/-- A group that was just opened in front of a rest. -/
def opened (opening : Extent) (captures : Bool) (outside : Flags) (rest : List Char) : OpenGroup :=
  ⟨opening, captures, outside, rest.length, [], rest.length, []⟩

def push (g : OpenGroup) (w : WrittenPattern) : OpenGroup := { g with items := w :: g.items }

/-- The sequence of the items of the last alternative, which ends in front of a rest. -/
def last (g : OpenGroup) (rest : List Char) : WrittenPattern :=
  let place : Extent := ⟨g.lastStart, rest.length⟩
  match g.items with
  | [] => .empty place
  | [w] => w
  | ws => .sequence place ws.reverse

/-- All alternatives, the last of which ends in front of a rest. -/
def value (g : OpenGroup) (rest : List Char) : WrittenPattern :=
  match g.alternatives with
  | [] => g.last rest
  | ws => .alternatives ⟨g.start, rest.length⟩ (g.last rest :: ws).reverse

/-- The group with its last alternative finished in front of a bar and a rest. -/
def alternate (g : OpenGroup) (bar rest : List Char) : OpenGroup :=
  { g with alternatives := g.last bar :: g.alternatives, lastStart := rest.length, items := [] }

/-- The group when it is closed by a parenthesis in front of a rest. -/
def close (g : OpenGroup) (parenthesis rest : List Char) : WrittenPattern :=
  .group ⟨g.opening.fromStart, rest.length⟩ g.captures (g.value parenthesis)

/-- The last item, which a repetition in front of a text repeats, and the group without it. A change
of flags cannot be repeated. -/
def takeLast (g : OpenGroup) (cs : List Char) : Reading (WrittenPattern × OpenGroup) :=
  match g.items with
  | [] => stop .nothingToRepeat cs cs
  | .flags _ :: _ => stop .nothingToRepeat cs cs
  | w :: ws => .ok (w, { g with items := ws })

end OpenGroup

/-- Whether a character may stand in the name of a group. -/
def isNameCharacter (first : Bool) (c : Char) : Bool :=
  c == '_' || (if first then Text.isAlphabetic c
    else c == '.' || c == '[' || c == ']' || Text.isAlphanumeric c)

/-- The characters of a name up to its closing angle bracket, and the rest from there on. -/
def nameRun (first : Bool) : List Char → Reading (List Char × List Char)
  | [] => stop .unclosedName [] []
  | c :: cs =>
    if c = '>' then .ok ([], c :: cs)
    else if isNameCharacter first c then
      (nameRun false cs).map fun (name, r) => (c :: name, r)
    else stop .nameCharacter (c :: cs) cs

/-- The name of a group behind its opening angle bracket, other than the names there are, and the
rest behind the closing bracket. -/
def groupName (names : List (String × Extent)) (cs : List Char) :
    Reading ((String × Extent) × List Char) := do
  let (name, r) ← nameRun true cs
  let place : Extent := .between cs r
  if name.isEmpty then .error (.misread .emptyName place none)
  else
    match names.lookup (String.ofList name) with
    | some earlier => .error (.misread .duplicateName place (some earlier))
    | none => .ok ((String.ofList name, place), r.drop 1)

/-- Whether a mark that makes a repetition lazy stands there, and the rest behind it. -/
def lazyMark : List Char → Bool × List Char
  | '?' :: r => (true, r)
  | r => (false, r)

/-- An item outside of brackets, by its place. -/
def written (f : Flags) (place : Extent) : Primitive → WrittenPattern
  | .character c => .set place (f.variants (.single c))
  | .set s => .set place s
  | .anchor a => .anchor place a

/-- A dot: any character but a line break, unless line breaks count as well. -/
def dotSet (f : Flags) : CharSet :=
  if f.dotAll then CharSet.complement []
  else if f.wideBreaks then CharSet.complement [(0x0A, 0x0A), (0x0D, 0x0D)]
  else CharSet.complement [(0x0A, 0x0A)]

def startAnchor (f : Flags) : Anchor :=
  if f.multiLine then (if f.wideBreaks then .wideLineStart else .lineStart) else .textStart

def endAnchor (f : Flags) : Anchor :=
  if f.multiLine then (if f.wideBreaks then .wideLineEnd else .lineEnd) else .textEnd

/-- What the groups that are open, innermost first, and the text after them come to. The names of
groups must differ. Every item takes at least one character. -/
def groups (f : Flags) (names : List (String × Extent)) (g : OpenGroup) (outer : List OpenGroup)
    (cs : List Char) : Reading WrittenPattern :=
  let read (f : Flags) (names : List (String × Extent)) (g : OpenGroup) (outer : List OpenGroup)
      (r : List Char) : Reading WrittenPattern :=
    if r.length < cs.length then groups f names g outer r else stop .unclosedGroup cs []
  let item (p : Primitive) (r : List Char) : Reading WrittenPattern :=
    read f names (g.push (written f (.between (f.skip cs) r) p)) outer r
  let repeated (w : WrittenPattern) (g : OpenGroup) (least : Nat) (most : Option Nat)
      (isLazy : Bool) (r : List Char) : Reading WrittenPattern :=
    let place : Extent := ⟨w.place.fromStart, r.length⟩
    read f names (g.push (.repetition place least most (isLazy == f.lazy) w)) outer r
  let marked (least : Nat) (most : Option Nat) (r : List Char) : Reading WrittenPattern := do
    let (w, g) ← g.takeLast (f.skip cs)
    let (isLazy, r) := lazyMark r
    repeated w g least most isLazy r
  match f.skip cs with
  | [] =>
    if outer.isEmpty then .ok (g.value []) else .error (.misread .unclosedGroup g.opening none)
  | '(' :: r =>
    let opening : Extent := .between ('(' :: r) r
    let lookAround (r' : List Char) : Reading WrittenPattern := stop .lookAround ('(' :: r) r'
    let inner (f' : Flags) (names : List (String × Extent)) (captures : Bool) (r' : List Char) :
        Reading WrittenPattern :=
      read f' names (.opened opening captures f r') (g :: outer) r'
    let named (r' : List Char) : Reading WrittenPattern := do
      let (name, r') ← groupName names r'
      inner f (name :: names) true r'
    match f.skip r with
    | '?' :: r' =>
      match r' with
      | '=' :: r' => lookAround r'
      | '!' :: r' => lookAround r'
      | '<' :: '=' :: r' => lookAround r'
      | '<' :: '!' :: r' => lookAround r'
      | '<' :: r' => named r'
      | 'P' :: '<' :: r' => named r'
      | [] => .error (.misread .unclosedGroup opening none)
      | r' => do
        match ← switches f [] true r' with
        | (f', _, ':' :: r') => inner f' names false r'
        | (f', true, _ :: r') => read f' names (g.push (.flags (.between ('(' :: r) r'))) outer r'
        | _ => stop .nothingToRepeat (f.skip r) (f.skip r)
    | r => inner f names true r
  | ')' :: r =>
    match outer with
    | [] => stop .unopenedGroup (')' :: r) r
    | o :: os => read g.outside names (o.push (g.close (')' :: r) r)) os r
  | '|' :: r => read f names (g.alternate ('|' :: r) r) outer r
  | '[' :: r => do
    let ((s, n), r') ← bracket f ('[' :: r)
    read f names (g.push (.bracket n s)) outer r'
  | '?' :: r => marked 0 (some 1) r
  | '*' :: r => marked 0 none r
  | '+' :: r => marked 1 none r
  | '\x7b' :: r => do
    let brace := '\x7b' :: r
    let (w, g) ← g.takeLast brace
    let (least, most, r') ← bounds f brace
    let (isLazy, r') := lazyMark (f.skip r')
    if most.any (· < least) then stop .countRange brace r' else repeated w g least most isLazy r'
  | '\\' :: r => do
    let (p, r') ← escape f ('\\' :: r)
    item p r'
  | '.' :: r => item (.set (dotSet f)) r
  | '^' :: r => item (.anchor (startAnchor f)) r
  | '$' :: r => item (.anchor (endAnchor f)) r
  | c :: r => item (.character c) r
termination_by cs.length

/-- The written pattern that a text is. -/
def readWritten (text : String) : Reading WrittenPattern :=
  let cs := text.toList
  groups .none [] (.opened ⟨cs.length, cs.length⟩ false .none cs) [] cs

/-- The pattern that a text writes, which must be neither nested too deep nor too large. -/
def parse (text : String) : Reading Pattern := do
  let w ← readWritten text
  match w.nesting.beyond? nestLimit with
  | some place => .error (.misread .tooDeep place none)
  | none => if w.shape.isBuildable then .ok w.pattern else .error .tooLarge

end FileQuery.Pattern

namespace FileQuery

/-- What patterns are matched with: the test that a pattern stands for, or what is wrong with it. -/
class PatternEngine where
  compile : String → Except PatternFault (String → Bool)

instance : PatternEngine := ⟨fun text => (Pattern.parse text).map Pattern.isMatch⟩

end FileQuery
