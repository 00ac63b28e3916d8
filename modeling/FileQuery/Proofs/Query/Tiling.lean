import Mathlib.Data.List.Induction
import FileQuery.Proofs.Query.Spelling

/-!
# Lexemes tile a text

A text is a row of tokens with white space before each of them and at the end, or it has such a row
in front of the place where it goes wrong. The row says where every lexeme lies, so each lexeme is a
piece of the text at its own place, nothing but white space lies between them, and lines and columns
are counted from the text.

## Main definitions

* `FileQuery.Yields`: the lexemes that a text has from a place on.
* `FileQuery.Position.Marks`: offset, line and column agree about a text.
* `FileQuery.Tiles`: lexemes are the pieces of a text apart from white space.

## Main results

* `FileQuery.Scanner.lexemes_cases`: one step of a scanner.
* `FileQuery.Scanner.lexemes_eq_ok`: a scanner gives the lexemes that its text has.
* `FileQuery.tokenize_tiles`: the lexemes of a text tile it, and an error lies behind a text that
  has lexemes.
-/

namespace FileQuery

variable {expectPath : Bool} {p : Position} {cs rest : List Char} {t : Token} {ls : List Lexeme}

namespace Reading

/-- A token has characters, and the first one is no white space. -/
theorem Spells.exists_cons (h : Spells expectPath cs t rest) :
    ∃ c r, cs = c :: r ∧ Text.isWhiteSpace c = false := by
  have hblank {c : Char} (hc : continuesName c = true ∨ c.isDigit = true) :
      Text.isWhiteSpace c = false := by
    cases hwhite : Text.isWhiteSpace c with
    | false => rfl
    | true =>
      obtain ⟨hname, hdigit, -⟩ := not_continues_of_isWhiteSpace hwhite
      rw [hname, hdigit] at hc
      simp at hc
  have hdigits {ds us : List Char} (hne : ds ≠ []) (hds : ds.all Char.isDigit = true) :
      ∃ c r, ds ++ us = c :: r ∧ Text.isWhiteSpace c = false := by
    obtain ⟨d, r, rfl⟩ := List.exists_cons_of_ne_nil hne
    exact ⟨d, r ++ us, rfl, hblank (Or.inr (List.all_eq_true.1 hds d List.mem_cons_self))⟩
  cases h with
  | @string _ quote body _ hquote hbody =>
    refine ⟨quote, body ++ [quote], rfl, ?_⟩
    simp only [isQuote, Bool.or_eq_true, beq_iff_eq] at hquote
    rcases hquote with hquote | hquote
    · rw [← Char.ofNat_toNat quote, hquote]
      decide
    · rw [← Char.ofNat_toNat quote, hquote]
      decide
  | @source c r _ hc hcs hrest =>
    exact ⟨c, r, rfl, by simpa using List.all_eq_true.1 hcs c List.mem_cons_self⟩
  | @word c r _ hc hcs hrest =>
    exact ⟨c, r, rfl, hblank (Or.inl (continuesName_of_startsName hc))⟩
  | integer hne hds hrest hpoint ht =>
    rw [← List.append_nil cs]
    exact hdigits hne hds
  | float hne hds hne' hfs hrest => exact hdigits hne hds
  | @sign c r _ _ hc h => exact ⟨c, r, rfl, hc.2.2.2⟩

theorem wordToken_ne_endOfText {other : String → Token} (hother : ∀ s, other s ≠ .endOfText)
    (word : String) : wordToken other word ≠ .endOfText := by
  rw [wordToken]
  cases h : Token.ofKeyword? (Text.toAsciiLower word) with
  | none => exact hother word
  | some t =>
    unfold Token.ofKeyword? at h
    split at h <;> cases h <;> simp

/-- No characters stand for the end of a text. -/
theorem Spells.ne_endOfText (h : Spells expectPath cs t rest) : t ≠ .endOfText := by
  cases h with
  | string hquote hbody => simp
  | source hc hcs hrest => exact wordToken_ne_endOfText (by simp) _
  | word hc hcs hrest => exact wordToken_ne_endOfText (by simp) _
  | integer hne hds hrest hpoint ht =>
    rw [integerToken] at ht
    split at ht <;> cases ht
    simp
  | float hne hds hne' hfs hrest => simp
  | @sign c r _ _ hc h =>
    have hout := congrArg Reading.outcome h
    unfold Reading.sign at hout
    split at hout <;> cases hout <;> simp

end Reading

open Reading

/-! ### The lexemes of a text -/

/-- The lexemes that a text has from a place on: tokens behind white space, and white space behind
the last one. A source may follow the keyword `from`. -/
inductive Yields : Bool → Position → List Char → List Lexeme → Prop
  | blank {expectPath : Bool} {p : Position} {cs : List Char}
      (hcs : cs.all Text.isWhiteSpace = true) : Yields expectPath p cs []
  | lexeme {expectPath : Bool} {p : Position} {gap cs rest : List Char} {t : Token}
      {ls : List Lexeme} (hgap : gap.all Text.isWhiteSpace = true)
      (ht : Spells expectPath cs t rest)
      (hrest : Yields (!expectPath && t = .word .fromWord)
        ((p.advanceOver gap).advanceOver cs) rest ls) :
      Yields expectPath p (gap ++ (cs ++ rest)) (⟨t, String.ofList cs, p.advanceOver gap⟩ :: ls)

namespace Scanner

theorem next_gap {gap : List Char} (hgap : gap.all Text.isWhiteSpace = true) (rest : List Char)
    (p : Position) (expectPath : Bool) :
    next ⟨gap ++ rest, p, expectPath⟩ = next ⟨rest, p.advanceOver gap, expectPath⟩ := by
  induction gap generalizing p with
  | nil => rfl
  | cons c gap ih =>
    obtain ⟨hc, hgap⟩ : Text.isWhiteSpace c = true ∧ gap.all Text.isWhiteSpace = true := by
      simpa using hgap
    exact (next_blank hc (gap ++ rest) p expectPath).trans (ih hgap _)

theorem lexemes_blank (hcs : cs.all Text.isWhiteSpace = true) :
    (Scanner.mk cs p expectPath).lexemes = .ok [] := by
  have hnext := next_gap hcs [] p expectPath
  rw [List.append_nil] at hnext
  exact (lexemes_congr hnext).trans (lexemes_nil _ _)

/-- A token behind white space is the first lexeme. -/
theorem lexemes_spells {gap : List Char} (hgap : gap.all Text.isWhiteSpace = true)
    (ht : Spells expectPath cs t rest) :
    (Scanner.mk (gap ++ (cs ++ rest)) p expectPath).lexemes =
      (Scanner.mk rest ((p.advanceOver gap).advanceOver cs)
        (!expectPath && t = .word .fromWord)).lexemes.map
          (⟨t, String.ofList cs, p.advanceOver gap⟩ :: ·) := by
  obtain ⟨c, r, rfl, hc⟩ := ht.exists_cons
  have hnext := next_of_reading (p := p.advanceOver gap) (by simpa using hc) ht.ofText_eq
  rw [lexemes_congr (next_gap hgap _ p expectPath), lexemes_of_next hnext ht.ne_endOfText]

/-- A text that begins with no token is an error there. -/
theorem lexemes_error {c : Char} {r : List Char} (hc : Text.isWhiteSpace c = false) {f : Fault}
    (hf : (Reading.ofText expectPath (c :: r)).outcome = .error f) :
    ∃ e, (Scanner.mk (c :: r) p expectPath).lexemes = .error e ∧ e.position = p := by
  have hahead : ahead ⟨c :: r, p, expectPath⟩ = c :: r := by simp [ahead, hc]
  have hposition : aheadPosition ⟨c :: r, p, expectPath⟩ = p := by simp [aheadPosition, hc]
  rw [lexemes_eq, next, hahead, hposition]
  dsimp only
  rw [hf]
  cases f <;> exact ⟨_, rfl, rfl⟩

/-- One step: a text is blank, begins with a token behind white space, or goes wrong there. -/
theorem lexemes_cases (expectPath : Bool) (p : Position) (cs : List Char) :
    cs.all Text.isWhiteSpace = true ∨
    (∃ gap ds rest t, cs = gap ++ (ds ++ rest) ∧ gap.all Text.isWhiteSpace = true ∧
      Spells expectPath ds t rest) ∨
    ∃ gap rest e, cs = gap ++ rest ∧ gap.all Text.isWhiteSpace = true ∧
      (Scanner.mk cs p expectPath).lexemes = .error e ∧ e.position = p.advanceOver gap := by
  obtain ⟨rest, hcs, -, hgap, hhead⟩ := exists_takeWhile Text.isWhiteSpace cs
  generalize cs.takeWhile Text.isWhiteSpace = gap at hcs hgap
  subst hcs
  match rest with
  | [] =>
    rw [List.append_nil]
    exact Or.inl hgap
  | c :: r =>
    have hc := hhead c rfl
    cases h : (Reading.ofText expectPath (c :: r)).outcome with
    | ok t =>
      obtain ⟨ds, rest, hr, -, ht⟩ := exists_spells hc h
      rw [hr]
      exact Or.inr (Or.inl ⟨gap, ds, rest, t, rfl, hgap, ht⟩)
    | error f =>
      obtain ⟨e, he, hposition⟩ := lexemes_error (p := p.advanceOver gap) hc h
      rw [← lexemes_congr (next_gap hgap _ p expectPath)] at he
      exact Or.inr (Or.inr ⟨gap, c :: r, e, rfl, hgap, he, hposition⟩)

/-- A text has lexemes, or it has some in front of the place of an error. -/
theorem exists_yields (expectPath : Bool) (p : Position) (cs : List Char) :
    (∃ ls, (Scanner.mk cs p expectPath).lexemes = .ok ls ∧ Yields expectPath p cs ls) ∨
    ∃ front rest ls e, cs = front ++ rest ∧ Yields expectPath p front ls ∧
      (Scanner.mk cs p expectPath).lexemes = .error e ∧ e.position = p.advanceOver front := by
  induction hn : cs.length using Nat.strongRecOn generalizing expectPath p cs with
  | ind n ih =>
    subst hn
    rcases lexemes_cases expectPath p cs with hcs | ⟨gap, ds, r, t, rfl, hgap, ht⟩ |
      ⟨gap, r, e, rfl, hgap, he, hposition⟩
    · exact Or.inl ⟨[], lexemes_blank hcs, .blank hcs⟩
    · have hlt : r.length < (gap ++ (ds ++ r)).length := by
        obtain ⟨c, us, rfl, -⟩ := ht.exists_cons
        simp only [List.length_append, List.length_cons]
        omega
      rw [lexemes_spells hgap ht]
      rcases ih _ hlt (!expectPath && t = .word .fromWord)
        ((p.advanceOver gap).advanceOver ds) r rfl with
        ⟨ls, hls, hyields⟩ | ⟨front, us, ls, e, rfl, hyields, he, hposition⟩
      · rw [hls]
        exact Or.inl ⟨_, rfl, .lexeme hgap ht hyields⟩
      · -- the part in front of the error may be cut off behind the token
        have hfront : Detached (front ++ us) front :=
          Or.inr (by rw [List.map_append]; exact List.prefix_append _ _)
        rw [he]
        refine Or.inr ⟨gap ++ (ds ++ front), us, _, e, by simp,
          .lexeme hgap (ht.detached hfront) hyields, rfl, ?_⟩
        rw [hposition, Position.advanceOver_append, Position.advanceOver_append]
    · exact Or.inr ⟨gap, r, [], e, rfl, .blank hgap, he, hposition⟩

/-- A scanner gives the lexemes that its text has. -/
theorem lexemes_eq_ok :
    (Scanner.mk cs p expectPath).lexemes = .ok ls ↔ Yields expectPath p cs ls := by
  constructor
  · intro h
    rcases exists_yields expectPath p cs with ⟨us, hus, hyields⟩ | ⟨_, _, _, e, -, -, he, -⟩
    · rw [h] at hus
      obtain rfl := Except.ok.inj hus
      exact hyields
    · rw [h] at he
      cases he
  · intro h
    induction h with
    | blank hcs => exact lexemes_blank hcs
    | lexeme hgap ht _ ih =>
      rw [lexemes_spells hgap ht, ih]
      rfl

end Scanner

theorem tokenize_eq_ok {text : String} :
    tokenize text = .ok ls ↔ Yields false .start text.toList ls :=
  Scanner.lexemes_eq_ok

/-! ### Places -/

namespace Position

/-- A place lies in a text, and its line and column are counted from the text before it: line feeds
for the line, and for the column the characters behind the last line feed. -/
structure Marks (p : Position) (text : List Char) : Prop where
  offset_le : p.offset ≤ text.length
  line_eq : p.line = 1 + (text.take p.offset).count '\n'
  column_eq : p.column = 1 + ((text.take p.offset).reverse.takeWhile (· != '\n')).length

theorem advanceOver_concat (p : Position) (cs : List Char) (c : Char) :
    p.advanceOver (cs ++ [c]) = (p.advanceOver cs).advance c :=
  advanceOver_append p cs [c]

theorem advanceOver_start (front : List Char) : start.advanceOver front =
    ⟨front.length, 1 + front.count '\n', 1 + (front.reverse.takeWhile (· != '\n')).length⟩ := by
  induction front using List.reverseRecOn with
  | nil => rfl
  | append_singleton front c ih =>
    rw [advanceOver_concat, ih, advance]
    by_cases hc : c = '\n'
    · simp [hc, Nat.add_assoc]
    · simp [hc, Nat.add_comm]

/-- The place behind some characters of a text. -/
theorem marks_advanceOver (front rest : List Char) :
    (start.advanceOver front).Marks (front ++ rest) := by
  rw [advanceOver_start]
  refine ⟨by simp, ?_, ?_⟩ <;> simp

end Position

/-! ### Tilings -/

/-- Whether a lexeme covers an offset of its text. -/
def Lexeme.Covers (l : Lexeme) (i : Nat) : Prop :=
  l.position.offset ≤ i ∧ i < l.position.offset + l.text.length

instance (l : Lexeme) (i : Nat) : Decidable (l.Covers i) := inferInstanceAs (Decidable (_ ∧ _))

/-- Lexemes are the pieces of a text apart from white space, in order, each one at its place. -/
structure Tiles (text : List Char) (ls : List Lexeme) : Prop where
  ne_empty : ∀ l ∈ ls, l.text ≠ ""
  piece : ∀ l ∈ ls, l.text.toList = (text.drop l.position.offset).take l.text.length
  ordered : ls.Pairwise fun l l' => l.position.offset + l.text.length ≤ l'.position.offset
  blank : ∀ i c, text[i]? = some c → (∀ l ∈ ls, ¬ l.Covers i) → Text.isWhiteSpace c = true
  marks : ∀ l ∈ ls, l.position.Marks text

namespace Yields

theorem ne_empty (h : Yields expectPath p cs ls) : ∀ l ∈ ls, l.text ≠ "" := by
  induction h with
  | blank _ => simp
  | lexeme _ ht _ ih =>
    obtain ⟨c, r, rfl, -⟩ := ht.exists_cons
    refine List.forall_mem_cons.2 ⟨fun hempty => ?_, ih⟩
    simpa using congrArg String.toList hempty

/-- Every lexeme stands somewhere in the text, and its place is behind the characters before it. -/
theorem exists_front (h : Yields expectPath p cs ls) : ∀ l ∈ ls, ∃ front rest,
    cs = front ++ (l.text.toList ++ rest) ∧ l.position = p.advanceOver front := by
  induction h with
  | blank _ => simp
  | @lexeme _ p gap cs rest t ls _ _ _ ih =>
    refine List.forall_mem_cons.2 ⟨⟨gap, rest, by simp, rfl⟩, fun l hl => ?_⟩
    obtain ⟨front, r, rfl, hposition⟩ := ih l hl
    refine ⟨gap ++ cs ++ front, r, by simp, ?_⟩
    rw [hposition, Position.advanceOver_append, Position.advanceOver_append]

theorem offset_le (h : Yields expectPath p cs ls) : ∀ l ∈ ls, p.offset ≤ l.position.offset := by
  intro l hl
  obtain ⟨front, rest, -, hposition⟩ := h.exists_front l hl
  rw [hposition, Position.advanceOver_offset]
  exact Nat.le_add_right _ _

theorem ordered (h : Yields expectPath p cs ls) :
    ls.Pairwise fun l l' => l.position.offset + l.text.length ≤ l'.position.offset := by
  induction h with
  | blank _ => exact .nil
  | lexeme _ _ hrest ih =>
    refine .cons (fun l hl => ?_) ih
    have hle := hrest.offset_le l hl
    rw [Position.advanceOver_offset] at hle
    simpa using hle

/-- A character that no lexeme covers is white space. -/
theorem blank_of_not_covers (h : Yields expectPath p cs ls) : ∀ i c, cs[i]? = some c →
    (∀ l ∈ ls, ¬ l.Covers (p.offset + i)) → Text.isWhiteSpace c = true := by
  induction h with
  | blank hcs => exact fun i c hc _ => List.all_eq_true.1 hcs c (List.mem_of_getElem? hc)
  | @lexeme _ p gap cs rest t ls hgap _ _ ih =>
    intro i c hc hcovers
    obtain ⟨hfirst, hothers⟩ := List.forall_mem_cons.1 hcovers
    simp only [Lexeme.Covers, Position.advanceOver_offset, String.length_ofList] at hfirst
    by_cases hlead : i < gap.length
    · rw [List.getElem?_append_left hlead] at hc
      exact List.all_eq_true.1 hgap c (List.mem_of_getElem? hc)
    · have hbehind : cs.length ≤ i - gap.length := by omega
      rw [List.getElem?_append_right (by omega), List.getElem?_append_right hbehind] at hc
      refine ih _ c hc ?_
      have hoffset : ((p.advanceOver gap).advanceOver cs).offset + (i - gap.length - cs.length) =
          p.offset + i := by
        rw [Position.advanceOver_offset, Position.advanceOver_offset]
        omega
      rw [hoffset]
      exact hothers

theorem tiles (h : Yields expectPath .start cs ls) : Tiles cs ls where
  ne_empty := h.ne_empty
  piece l hl := by
    obtain ⟨front, rest, rfl, hposition⟩ := h.exists_front l hl
    simp [hposition, Position.advanceOver_start, ← String.length_toList]
  ordered := h.ordered
  blank i c hc hcovers := by
    refine h.blank_of_not_covers i c hc ?_
    rw [show Position.start.offset + i = i from Nat.zero_add i]
    exact hcovers
  marks l hl := by
    obtain ⟨front, rest, rfl, hposition⟩ := h.exists_front l hl
    rw [hposition]
    exact Position.marks_advanceOver front _

end Yields

/-- The lexemes of a text tile it. Where a text has none, the error is at a place of the text, and
the characters before that place are a text with lexemes. -/
theorem tokenize_tiles (text : String) :
    (∀ ls, tokenize text = .ok ls → Tiles text.toList ls) ∧
    ∀ e, tokenize text = .error e → e.position.Marks text.toList ∧
      ∃ ls, tokenize (String.ofList (text.toList.take e.position.offset)) = .ok ls := by
  refine ⟨fun ls h => (tokenize_eq_ok.1 h).tiles, fun e h => ?_⟩
  rcases Scanner.exists_yields false .start text.toList with
    ⟨ls, hls, -⟩ | ⟨front, rest, ls, e', htext, hyields, he, hposition⟩
  · cases h.symm.trans hls
  · obtain rfl := Except.error.inj (h.symm.trans he)
    rw [hposition, htext]
    refine ⟨Position.marks_advanceOver front rest, ls, tokenize_eq_ok.2 ?_⟩
    simpa [Position.advanceOver_start] using hyields

/-- The lexemes of a comparison over two lines, and a string that is not closed behind a name. -/
theorem tokenize_tiles_sizeAtLeast :
    Tiles "size\n>=10".toList [⟨.identifier "size", "size", ⟨0, 1, 1⟩⟩,
      ⟨.relation .greaterEqual, ">=", ⟨5, 2, 1⟩⟩, ⟨.integer 10, "10", ⟨7, 2, 3⟩⟩] ∧
    tokenize "size\n'10" = .error (.unterminatedString ⟨5, 2, 1⟩) ∧
    (Position.mk 5 2 1).Marks "size\n'10".toList ∧ ∃ ls, tokenize "size\n" = .ok ls := by
  have hsize : Scanner.next (.ofText "size\n>=10") =
      (.ok ⟨.identifier "size", "size", ⟨0, 1, 1⟩⟩, ⟨"\n>=10".toList, ⟨4, 1, 5⟩, false⟩) := rfl
  have hsize' : Scanner.next (.ofText "size\n'10") =
      (.ok ⟨.identifier "size", "size", ⟨0, 1, 1⟩⟩, ⟨"\n'10".toList, ⟨4, 1, 5⟩, false⟩) := rfl
  have hrelation : Scanner.next ⟨"\n>=10".toList, ⟨4, 1, 5⟩, false⟩ =
      (.ok ⟨.relation .greaterEqual, ">=", ⟨5, 2, 1⟩⟩, ⟨"10".toList, ⟨7, 2, 3⟩, false⟩) := rfl
  have hten : Scanner.next ⟨"10".toList, ⟨7, 2, 3⟩, false⟩ =
      (.ok ⟨.integer 10, "10", ⟨7, 2, 3⟩⟩, ⟨[], ⟨9, 2, 5⟩, false⟩) := rfl
  have hclosed : tokenize "size\n>=10" = .ok _ :=
    Scanner.lexemes_cons hsize (by simp) <|
      Scanner.lexemes_cons hrelation (by simp) <|
        Scanner.lexemes_cons hten (by simp) (Scanner.lexemes_nil _ _)
  have hopen : tokenize "size\n'10" = .error (.unterminatedString ⟨5, 2, 1⟩) := by
    refine (Scanner.lexemes_of_next hsize' (by simp)).trans ?_
    rw [Scanner.lexemes_eq]
    rfl
  exact ⟨(tokenize_tiles _).1 _ hclosed, hopen, (tokenize_tiles _).2 _ hopen⟩

end FileQuery
