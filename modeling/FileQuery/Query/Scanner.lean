import FileQuery.Query.Token
import FileQuery.Text.CaseMap
import FileQuery.Text.Numeric
import FileQuery.Text.WhiteSpace

/-!
# Reading tokens off a text

A scanner holds the rest of a text, its place, and whether an unquoted source may come next. One
step skips white space and reads one token; how many characters the token takes is decided first,
so that the lexemes of a text are pieces of it by construction.

## Main definitions

* `FileQuery.LexError`.
* `FileQuery.Reading`: what stands at the front of a text, and how wide it is.
* `FileQuery.Scanner`, `FileQuery.Scanner.next`, `FileQuery.tokenize`.

## Main results

* `FileQuery.Reading.width_pos`: a reading of a text that is not empty has a character.
* `FileQuery.Scanner.next_rest_lt`: a lexeme other than the end makes the rest shorter.
-/

namespace FileQuery

/-- Why a text is no sequence of tokens. -/
inductive LexError where
  | unexpectedCharacter (c : Char) (position : Position)
  | unterminatedString (position : Position)
  | invalidNumber (text : String) (position : Position)
  deriving DecidableEq

namespace LexError

/-- The place of an error. -/
def position : LexError → Position
  | .unexpectedCharacter _ p => p
  | .unterminatedString p => p
  | .invalidNumber _ p => p

def message : LexError → String
  | .unexpectedCharacter c p => s!"unexpected character '{c}' at {p.toText}"
  | .unterminatedString p =>
    s!"unterminated string starting at {p.toText}: missing closing quote"
  | .invalidNumber s p => s!"invalid number '{s}' at {p.toText}"

end LexError

/-- Why no token stands at the front of a text. -/
inductive Fault where
  | character (c : Char)
  | unterminated
  | number
  deriving DecidableEq

/-- What stands at the front of a text, and how many characters are taken off it. -/
structure Reading where
  outcome : Except Fault Token
  width : Nat

namespace Reading

/-- Whether a character opens and closes strings. -/
def isQuote (c : Char) : Bool := c.toNat == 34 || c.toNat == 39

/-- Whether a name may begin with a character. -/
def startsName (c : Char) : Bool := Text.isAlphabetic c || c == '_'

/-- Whether a name may go on with a character. -/
def continuesName (c : Char) : Bool := Text.isAlphanumeric c || c == '_'

/-- The token of a word: a keyword in any case of ASCII letters, or what words are otherwise. -/
def wordToken (other : String → Token) (word : String) : Token :=
  (Token.ofKeyword? (Text.toAsciiLower word)).getD (other word)

/-- The unquoted source at the front: all up to white space. A keyword stays a keyword. -/
def source (cs : List Char) : Reading :=
  let word := cs.takeWhile fun c => !Text.isWhiteSpace c
  ⟨.ok (wordToken .path (String.ofList word)), word.length⟩

/-- The name or keyword at the front. -/
def name (cs : List Char) : Reading :=
  let word := cs.takeWhile continuesName
  ⟨.ok (wordToken .identifier (String.ofList word)), word.length⟩

/-- The string behind an opening quote: all up to the next such quote. -/
def quoted (quote : Char) (r : List Char) : Reading :=
  let body := r.takeWhile (· != quote)
  if body.length = r.length then ⟨.error .unterminated, r.length + 1⟩
  else ⟨.ok (.string (String.ofList body)), body.length + 2⟩

/-- An integer of 64 bits. -/
def integerToken (ds : List Char) : Except Fault Token :=
  let n := Nat.ofDigitChars 10 ds 0
  if n < 2 ^ 63 then .ok (.integer (.ofNat n)) else .error .number

/-- The number at the front: digits, and more digits after a point. -/
def number (cs : List Char) : Reading :=
  let ds := cs.takeWhile Char.isDigit
  match cs.dropWhile Char.isDigit with
  | '.' :: r =>
    let fs := r.takeWhile Char.isDigit
    if fs.isEmpty then ⟨integerToken ds, ds.length⟩
    else ⟨.ok (.float (.ofNumeral ds fs)), ds.length + 1 + fs.length⟩
  | _ => ⟨integerToken ds, ds.length⟩

/-- The sign at the front. -/
def sign (c : Char) (r : List Char) : Reading :=
  match c, r with
  | ',', _ => ⟨.ok .comma, 1⟩
  | '(', _ => ⟨.ok .leftParen, 1⟩
  | ')', _ => ⟨.ok .rightParen, 1⟩
  | '+', _ => ⟨.ok .plus, 1⟩
  | '-', _ => ⟨.ok .minus, 1⟩
  | '*', _ => ⟨.ok .star, 1⟩
  | '/', _ => ⟨.ok .slash, 1⟩
  | '=', '=' :: _ => ⟨.ok (.relation .equal), 2⟩
  | '=', _ => ⟨.ok (.relation .equal), 1⟩
  | '!', '=' :: _ => ⟨.ok (.relation .notEqual), 2⟩
  | '<', '=' :: _ => ⟨.ok (.relation .lessEqual), 2⟩
  | '<', '>' :: _ => ⟨.ok (.relation .notEqual), 2⟩
  | '<', _ => ⟨.ok (.relation .less), 1⟩
  | '>', '=' :: _ => ⟨.ok (.relation .greaterEqual), 2⟩
  | '>', _ => ⟨.ok (.relation .greater), 1⟩
  | c, _ => ⟨.error (.character c), 0⟩

/-- What stands at the front of a text that does not begin with white space. -/
def ofText (expectPath : Bool) : List Char → Reading
  | [] => ⟨.ok .endOfText, 0⟩
  | c :: r =>
    if isQuote c then quoted c r
    else if expectPath then source (c :: r)
    else if startsName c then name (c :: r)
    else if c.isDigit then number (c :: r)
    else sign c r

theorem continuesName_of_startsName {c : Char} (h : startsName c = true) :
    continuesName c = true := by
  simp only [startsName, continuesName, Text.isAlphanumeric, Bool.or_eq_true] at h ⊢
  rcases h with h | h
  · exact Or.inl (Or.inl h)
  · exact Or.inr h

/-- A text that is not empty and does not begin with white space begins with a token of at least
one character, unless it has none. -/
theorem width_pos {expectPath : Bool} {c : Char} {r : List Char} {t : Token}
    (hc : Text.isWhiteSpace c = false) (h : (ofText expectPath (c :: r)).outcome = .ok t) :
    0 < (ofText expectPath (c :: r)).width := by
  simp only [ofText] at h ⊢
  by_cases hq : isQuote c = true
  · simp only [hq, if_true, quoted]
    split <;> simp
  by_cases he : expectPath = true
  · simp [hq, he, source, hc]
  by_cases hn : startsName c = true
  · simp [hq, he, hn, name, continuesName_of_startsName hn]
  by_cases hd : c.isDigit = true
  · simp only [hq, he, hn, hd, if_true, if_false, Bool.false_eq_true, number]
    split
    · split
      · simp [hd]
      · simp only
        omega
    · simp [hd]
  · simp only [hq, he, hn, hd, if_false, Bool.false_eq_true] at h ⊢
    revert h
    unfold sign
    split <;> simp

end Reading

/-- The rest of a text with its place. -/
structure Scanner where
  rest : List Char
  position : Position
  /-- Whether an unquoted source may come next. -/
  expectPath : Bool

namespace Scanner

/-- A scanner at the beginning of a text. -/
def ofText (text : String) : Scanner := ⟨text.toList, .start, false⟩

/-- The rest without the white space at its front. -/
def ahead (s : Scanner) : List Char := s.rest.dropWhile Text.isWhiteSpace

/-- The place of that rest. -/
def aheadPosition (s : Scanner) : Position :=
  s.position.advanceOver (s.rest.takeWhile Text.isWhiteSpace)

/-- The next lexeme or error, and the scanner behind it. A character that begins no token stays in
front; the keyword `from` lets an unquoted source follow. -/
def next (s : Scanner) : Except LexError Lexeme × Scanner :=
  let reading := Reading.ofText s.expectPath s.ahead
  let text := s.ahead.take reading.width
  let after (expectPath : Bool) : Scanner :=
    ⟨s.ahead.drop reading.width, s.aheadPosition.advanceOver text, expectPath⟩
  match reading.outcome with
  | .ok t =>
    (.ok ⟨t, String.ofList text, s.aheadPosition⟩,
      after (!s.expectPath && t = .word .fromWord))
  | .error (.character c) => (.error (.unexpectedCharacter c s.aheadPosition), after false)
  | .error .unterminated => (.error (.unterminatedString s.aheadPosition), after false)
  | .error .number =>
    (.error (.invalidNumber (String.ofList text) s.aheadPosition), after false)

theorem not_isWhiteSpace_of_ahead {s : Scanner} {c : Char} {r : List Char}
    (h : s.ahead = c :: r) : Text.isWhiteSpace c = false := by
  have := List.head?_dropWhile_not Text.isWhiteSpace s.rest
  unfold ahead at h
  rw [h] at this
  simpa using this

theorem ahead_length_le (s : Scanner) : s.ahead.length ≤ s.rest.length :=
  (List.dropWhile_suffix _).length_le

/-- A lexeme other than the end makes the rest shorter. -/
theorem next_rest_lt {s s' : Scanner} {l : Lexeme} (h : s.next = (.ok l, s'))
    (hl : l.token ≠ .endOfText) : s'.rest.length < s.rest.length := by
  unfold next at h
  dsimp only at h
  split at h
  · next t ht =>
    simp only [Prod.mk.injEq, Except.ok.injEq] at h
    obtain ⟨rfl, rfl⟩ := h
    have hle := s.ahead_length_le
    cases hs : s.ahead with
    | nil =>
      rw [hs] at ht
      simp only [Reading.ofText, Except.ok.injEq] at ht
      exact absurd ht.symm hl
    | cons c r =>
      rw [hs] at ht hle
      have hpos := Reading.width_pos (not_isWhiteSpace_of_ahead hs) ht
      simp only [List.length_drop]
      rw [List.length_cons] at hle ⊢
      omega
  · simp at h
  · simp at h
  · simp at h

/-- The lexemes up to the end of the text, or the first error. -/
def lexemes (s : Scanner) : Except LexError (List Lexeme) :=
  match h : s.next with
  | (.error e, _) => .error e
  | (.ok l, s') =>
    if hl : l.token = .endOfText then .ok []
    else
      have := next_rest_lt h hl
      (lexemes s').map (l :: ·)
termination_by s.rest.length

end Scanner

/-- The lexemes of a text, without one for its end. -/
def tokenize (text : String) : Except LexError (List Lexeme) := (Scanner.ofText text).lexemes

end FileQuery
