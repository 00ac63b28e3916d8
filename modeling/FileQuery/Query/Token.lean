import FileQuery.Number.FloatText
import FileQuery.Query.Operator

/-!
# Tokens, positions and lexemes

The words of a query. A lexeme is a token with the text it was written as and the place where that
text begins.

## Main definitions

* `FileQuery.Keyword`, `FileQuery.Token`, `FileQuery.Token.ofKeyword?`.
* `FileQuery.Position`: offset, line and column; `Position.advance` moves past a character.
* `FileQuery.Lexeme`, `FileQuery.Lexeme.endPosition`.
-/

namespace FileQuery

/-- The words with a fixed place in a query. -/
inductive Keyword where
  | selectWord
  | fromWord
  | whereWord
  | orderWord
  | byWord
  | limitWord
  | ascWord
  | descWord
  | asWord
  | andWord
  | orWord
  | notWord
  deriving DecidableEq, Repr

inductive Token where
  | integer (n : Int64)
  | float (x : Binary64)
  | string (s : String)
  | boolean (b : Bool)
  | null
  | identifier (name : String)
  /-- An unquoted source after `from`. -/
  | path (text : String)
  | word (k : Keyword)
  | relation (r : Relation)
  | plus
  | minus
  /-- The product sign, or all default columns in the place of a projection. -/
  | star
  | slash
  | leftParen
  | rightParen
  | comma
  | endOfText
  deriving DecidableEq

namespace Token

/-- The token of a word in lower case that is a keyword or names a constant. -/
def ofKeyword? (word : String) : Option Token :=
  match word with
  | "select" => some (.word .selectWord)
  | "from" => some (.word .fromWord)
  | "where" => some (.word .whereWord)
  | "order" => some (.word .orderWord)
  | "by" => some (.word .byWord)
  | "limit" => some (.word .limitWord)
  | "asc" => some (.word .ascWord)
  | "desc" => some (.word .descWord)
  | "as" => some (.word .asWord)
  | "and" => some (.word .andWord)
  | "or" => some (.word .orWord)
  | "not" => some (.word .notWord)
  | "true" => some (.boolean true)
  | "false" => some (.boolean false)
  | "null" => some .null
  | _ => none

/-- Whether an expression may begin with the token. -/
def startsExpression : Token → Bool
  | .integer _ => true
  | .float _ => true
  | .string _ => true
  | .boolean _ => true
  | .null => true
  | .identifier _ => true
  | .leftParen => true
  | .minus => true
  | .word .notWord => true
  | _ => false

end Token

/-- A place in a text: characters before it, and line and column counted from one. -/
structure Position where
  offset : Nat
  line : Nat
  column : Nat
  deriving DecidableEq, Repr

namespace Position

/-- The beginning of a text. -/
def start : Position := ⟨0, 1, 1⟩

/-- The place after a character; a line feed begins a new line. -/
def advance (p : Position) (c : Char) : Position :=
  if c = '\n' then ⟨p.offset + 1, p.line + 1, 1⟩ else ⟨p.offset + 1, p.line, p.column + 1⟩

/-- The place after several characters. -/
def advanceOver (p : Position) (cs : List Char) : Position := cs.foldl advance p

@[simp] theorem advanceOver_nil (p : Position) : p.advanceOver [] = p := rfl

@[simp] theorem advanceOver_append (p : Position) (cs ds : List Char) :
    p.advanceOver (cs ++ ds) = (p.advanceOver cs).advanceOver ds := by
  simp [advanceOver]

theorem advance_offset (p : Position) (c : Char) : (p.advance c).offset = p.offset + 1 := by
  unfold advance
  split <;> rfl

theorem advanceOver_offset (p : Position) (cs : List Char) :
    (p.advanceOver cs).offset = p.offset + cs.length := by
  induction cs generalizing p with
  | nil => rfl
  | cons c cs ih =>
    have h : p.advanceOver (c :: cs) = (p.advance c).advanceOver cs := rfl
    rw [h, ih, advance_offset, List.length_cons]
    omega

def toText (p : Position) : String := s!"line {p.line}, column {p.column}"

end Position

/-- A token with its text and the place where the text begins. -/
structure Lexeme where
  token : Token
  text : String
  position : Position
  deriving DecidableEq

namespace Lexeme

/-- The lexeme that stands for the end of a query. -/
def endAt (p : Position) : Lexeme := ⟨.endOfText, "", p⟩

/-- The place that lies as many columns after the beginning of a lexeme as its text has
characters. Lines are not counted. -/
def endPosition (l : Lexeme) : Position :=
  ⟨l.position.offset + l.text.length, l.position.line, l.position.column + l.text.length⟩

/-- The lexeme as messages show it. -/
def toText (l : Lexeme) : String :=
  if l.token = .endOfText then "end of query" else l.text

end Lexeme

end FileQuery
