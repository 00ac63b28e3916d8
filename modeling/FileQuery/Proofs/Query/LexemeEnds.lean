import Mathlib.Logic.Function.Iterate
import FileQuery.Proofs.Query.ErrorPlaces
import FileQuery.Proofs.Query.Tiling
import FileQuery.Query.Cursor

/-!
# Where lexemes end

A scanner stands behind all that it has taken off its text, after errors too, so behind a lexeme it
is at the end of the lexeme. The end that a lexeme states for itself is as many columns behind its
beginning as its text has characters, without regard to lines. Both are the same place as long as
the text of the lexeme has no line feed. Only a string can have one; then the stated end has the
right offset, but it is too few lines down. A parser takes the end of a query from its last lexeme,
so whatever it reports at the end of a query is reported there, be it the right place or not.

## Main definitions

* `FileQuery.Position.IsBehind`: the place behind a lexeme, lines and columns counted.
* `FileQuery.Scanner.after`: a scanner some steps on.
* `FileQuery.Scanner.StandsIn`: a scanner in the middle of a text.

## Main results

* `FileQuery.Scanner.StandsIn.next`, `FileQuery.Scanner.standsIn_after`: one step and all steps.
* `FileQuery.Lexeme.endPosition_eq_iff`: when a lexeme states its end correctly.
* `FileQuery.Lexeme.endPosition_isBehind`: ends of lexemes, of queries and of what is reported
  there.
-/

namespace FileQuery

/-- A place is behind a lexeme of a text: as many characters on from the beginning of the lexeme as
it has, with the line and column of that place in the text. -/
structure Position.IsBehind (p : Position) (l : Lexeme) (text : List Char) : Prop where
  marks : p.Marks text
  offset_eq : p.offset = l.position.offset + l.text.length

variable {text : List Char} {l : Lexeme} {p q : Position}

/-! ### Lines and columns -/

namespace Position

theorem Marks.eq (hp : p.Marks text) (hq : q.Marks text) (h : p.offset = q.offset) : p = q := by
  obtain ⟨offset, line, column⟩ := p
  obtain ⟨offset', line', column'⟩ := q
  obtain rfl : offset = offset' := h
  obtain rfl : line = line' := hp.line_eq.trans hq.line_eq.symm
  obtain rfl : column = column' := hp.column_eq.trans hq.column_eq.symm
  rfl

theorem IsBehind.eq (hp : p.IsBehind l text) (hq : q.IsBehind l text) : p = q :=
  hp.marks.eq hq.marks (hp.offset_eq.trans hq.offset_eq.symm)

theorem advanceOver_cons (p : Position) (c : Char) (cs : List Char) :
    p.advanceOver (c :: cs) = (p.advance c).advanceOver cs := rfl

theorem advanceOver_line (p : Position) (cs : List Char) :
    (p.advanceOver cs).line = p.line + cs.count '\n' := by
  induction cs generalizing p with
  | nil => rfl
  | cons c cs ih =>
    rw [advanceOver_cons, ih, advance]
    by_cases hc : c = '\n'
    · rw [if_pos hc, hc, List.count_cons_self]
      exact Nat.add_right_comm _ _ _
    · rw [if_neg hc, List.count_cons_of_ne hc]

/-- Characters without a line feed are so many columns. -/
theorem advanceOver_of_not_mem {cs : List Char} (h : '\n' ∉ cs) (p : Position) :
    p.advanceOver cs = ⟨p.offset + cs.length, p.line, p.column + cs.length⟩ := by
  induction cs generalizing p with
  | nil => rfl
  | cons c cs ih =>
    obtain ⟨hc, hcs⟩ : c ≠ '\n' ∧ '\n' ∉ cs := by simpa [eq_comm] using h
    rw [advanceOver_cons, ih hcs, advance, if_neg hc, List.length_cons]
    simp only [Position.mk.injEq, true_and]
    omega

end Position

namespace Lexeme

/-- A lexeme states the place behind it unless it has a line feed. -/
theorem endPosition_eq_iff (l : Lexeme) :
    l.endPosition = l.position.advanceOver l.text.toList ↔ '\n' ∉ l.text.toList := by
  constructor
  · intro h hmem
    have hline : l.position.line = l.position.line + l.text.toList.count '\n' := by
      rw [← Position.advanceOver_line, ← h]
      rfl
    have hpos : 0 < l.text.toList.count '\n' := List.count_pos_iff.2 hmem
    omega
  · intro h
    rw [Position.advanceOver_of_not_mem h, String.length_toList]
    rfl

/-- A lexeme stands in a text: its own text is there, and its place is behind what is before it. -/
def LiesIn (l : Lexeme) (text : List Char) : Prop :=
  ∃ front rest, text = front ++ (l.text.toList ++ rest) ∧
    l.position = Position.start.advanceOver front

theorem LiesIn.isBehind (h : l.LiesIn text) :
    (l.position.advanceOver l.text.toList).IsBehind l text := by
  obtain ⟨front, rest, rfl, hposition⟩ := h
  refine ⟨?_, by rw [Position.advanceOver_offset, String.length_toList]⟩
  rw [hposition, ← Position.advanceOver_append, ← List.append_assoc]
  exact Position.marks_advanceOver _ _

/-- The stated end is the place behind a lexeme of a text unless the lexeme has a line feed. -/
theorem LiesIn.endPosition_isBehind_iff (h : l.LiesIn text) :
    l.endPosition.IsBehind l text ↔ '\n' ∉ l.text.toList := by
  rw [← endPosition_eq_iff]
  constructor
  · exact fun hend => hend.eq h.isBehind
  · intro hend
    rw [hend]
    exact h.isBehind

end Lexeme

/-! ### Tokens with white space -/

namespace Reading

variable {expectPath : Bool} {cs rest : List Char} {t : Token}

/-- A sign is one character, or two of which the second one is not white space. -/
theorem sign_not_isWhiteSpace {c : Char} (hc : Scanner.IsSign c)
    (h : sign c (cs ++ rest) = ⟨.ok t, cs.length + 1⟩) :
    ∀ d ∈ c :: cs, Text.isWhiteSpace d = false := by
  have hwidth {r : List Char} {n : Nat} (hr : sign c r = ⟨.ok t, n⟩) : n = 1 ∨ n = 2 ∧ r ≠ [] := by
    simpa only [hr] using sign_width (congrArg Reading.outcome hr)
  refine List.forall_mem_cons.2 ⟨hc.2.2.2, ?_⟩
  match cs with
  | [] => exact fun _ h => by cases h
  | d :: cs =>
    have hcs : cs = [] := by
      have hlength := hwidth h
      simp only [List.length_cons] at hlength
      exact List.length_eq_zero_iff.1 (by omega)
    have hd : d ∈ ['=', '>'] := by
      by_contra hd
      have hhead : ∀ u ∈ ['=', '>'], u ∉ (d :: cs ++ rest).head? := fun u hu hmem =>
        hd (Option.some.inj hmem ▸ hu)
      have hlength := hwidth ((sign_of_head hhead).symm.trans h)
      simp at hlength
    rw [hcs]
    refine List.forall_mem_singleton.2 ?_
    rcases List.mem_pair.1 hd with rfl | rfl <;> decide

/-- Only strings have white space. -/
theorem Spells.string_or_not_isWhiteSpace (h : Spells expectPath cs t rest) :
    (∃ quote body, isQuote quote = true ∧ cs = quote :: body ++ [quote] ∧
      t = .string (String.ofList body)) ∨ ∀ c ∈ cs, Text.isWhiteSpace c = false := by
  have hblank {c : Char} (hc : continuesName c = true ∨ c.isDigit = true ∨ c = '.') :
      Text.isWhiteSpace c = false := by
    cases hwhite : Text.isWhiteSpace c with
    | false => rfl
    | true =>
      obtain ⟨hname, hdigit, hpoint⟩ := not_continues_of_isWhiteSpace hwhite
      rcases hc with hc | hc | rfl
      · cases hname.symm.trans hc
      · cases hdigit.symm.trans hc
      · simp at hpoint
  cases h with
  | @string _ quote body _ hquote hbody => exact Or.inl ⟨quote, body, hquote, rfl, rfl⟩
  | source hc hcs hrest =>
    exact Or.inr fun c hc => by simpa using List.all_eq_true.1 hcs c hc
  | word hc hcs hrest =>
    exact Or.inr fun c hc => hblank (Or.inl (List.all_eq_true.1 hcs c hc))
  | integer hne hds hrest hpoint ht =>
    exact Or.inr fun c hc => hblank (Or.inr (Or.inl (List.all_eq_true.1 hds c hc)))
  | float hne hds hne' hfs hrest =>
    refine Or.inr fun c hc => hblank (Or.inr ?_)
    rcases List.mem_append.1 hc with hc | hc
    · exact Or.inl (List.all_eq_true.1 hds c hc)
    · rcases List.mem_cons.1 hc with rfl | hc
      · exact Or.inr rfl
      · exact Or.inl (List.all_eq_true.1 hfs c hc)
  | sign hc h => exact Or.inr (sign_not_isWhiteSpace hc h)

end Reading

/-! ### Scanners in a text -/

namespace Scanner

variable {s : Scanner} {t : String}

/-- A scanner so many steps on. -/
def after (s : Scanner) (n : Nat) : Scanner := (fun s => s.next.2)^[n] s

/-- A scanner stands in a text: the text ends with what the scanner has left, and its place is
behind the characters before that. -/
def StandsIn (s : Scanner) (text : List Char) : Prop :=
  ∃ front, text = front ++ s.rest ∧ s.position = Position.start.advanceOver front

/-- A step takes as many characters off a text as are read, be it a token or not. -/
theorem next_snd (s : Scanner) : ∃ expectPath, s.next.2 =
    ⟨s.ahead.drop (Reading.ofText s.expectPath s.ahead).width, s.aheadPosition.advanceOver
      (s.ahead.take (Reading.ofText s.expectPath s.ahead).width), expectPath⟩ := by
  unfold next
  dsimp only
  split <;> exact ⟨_, rfl⟩

theorem lexeme_of_next (h : s.next.1 = .ok l) :
    l.text.toList = s.ahead.take (Reading.ofText s.expectPath s.ahead).width ∧
      l.position = s.aheadPosition := by
  unfold next at h
  dsimp only at h
  split at h
  · obtain rfl := Except.ok.inj h
    exact ⟨String.toList_ofList, rfl⟩
  all_goals cases h

/-- Behind a lexeme a scanner is at the place behind it. -/
theorem position_of_next (h : s.next.1 = .ok l) :
    s.next.2.position = l.position.advanceOver l.text.toList := by
  obtain ⟨htext, hposition⟩ := lexeme_of_next h
  obtain ⟨expectPath, hnext⟩ := s.next_snd
  rw [hnext, htext, hposition]

theorem StandsIn.ahead (h : s.StandsIn text) :
    ∃ front, text = front ++ s.ahead ∧ s.aheadPosition = Position.start.advanceOver front := by
  obtain ⟨front, rfl, hposition⟩ := h
  refine ⟨front ++ s.rest.takeWhile Text.isWhiteSpace, ?_, ?_⟩
  · rw [List.append_assoc, Scanner.ahead, List.takeWhile_append_dropWhile]
  · rw [aheadPosition, hposition, Position.advanceOver_append]

theorem StandsIn.next (h : s.StandsIn text) : s.next.2.StandsIn text := by
  obtain ⟨front, rfl, hposition⟩ := h.ahead
  obtain ⟨expectPath, hnext⟩ := s.next_snd
  rw [hnext]
  refine ⟨front ++ s.ahead.take (Reading.ofText s.expectPath s.ahead).width, ?_, ?_⟩
  · rw [List.append_assoc, List.take_append_drop]
  · rw [hposition, Position.advanceOver_append]

theorem StandsIn.liesIn (h : s.StandsIn text) (hl : s.next.1 = .ok l) : l.LiesIn text := by
  obtain ⟨front, rfl, hposition⟩ := h.ahead
  obtain ⟨htext, hplace⟩ := lexeme_of_next hl
  refine ⟨front, s.ahead.drop (Reading.ofText s.expectPath s.ahead).width, ?_, ?_⟩
  · rw [htext, List.take_append_drop]
  · rw [hplace, hposition]

theorem standsIn_after (text : String) (n : Nat) :
    ((Scanner.ofText text).after n).StandsIn text.toList := by
  induction n with
  | zero => exact ⟨[], rfl, rfl⟩
  | succ n ih =>
    rw [after, Function.iterate_succ_apply']
    exact ih.next

/-- The place of the scanner behind the lexeme of a step. -/
theorem position_after_succ {n : Nat} (h : ((Scanner.ofText t).after n).next.1 = .ok l) :
    ((Scanner.ofText t).after (n + 1)).position = l.position.advanceOver l.text.toList := by
  rw [after, Function.iterate_succ_apply']
  exact position_of_next h

/-- A lexeme with a line feed is a string. -/
theorem string_of_lineFeed (h : s.next.1 = .ok l) (hmem : '\n' ∈ l.text.toList) :
    ∃ body, l.token = .string body := by
  obtain ⟨htext, -⟩ := lexeme_of_next h
  have houtcome : (Reading.ofText s.expectPath s.ahead).outcome = .ok l.token :=
    reading_of_next (Prod.ext h rfl)
  cases hs : s.ahead with
  | nil =>
    rw [htext, hs, List.take_nil] at hmem
    cases hmem
  | cons c r =>
    rw [hs] at houtcome htext
    obtain ⟨cs, rest, hcs, hwidth, hspells⟩ :=
      Reading.exists_spells (not_isWhiteSpace_of_ahead hs) houtcome
    rw [hwidth, hcs, List.take_left] at htext
    rcases hspells.string_or_not_isWhiteSpace with ⟨_, body, -, -, htoken⟩ | hwhite
    · exact ⟨_, htoken⟩
    · have hblank := hwhite '\n' (htext ▸ hmem)
      exact absurd hblank (by decide)

end Scanner

/-! ### Ends of queries -/

namespace Yields

variable {expectPath : Bool} {ls : List Lexeme}

theorem exists_spells (h : Yields expectPath p text ls) : ∀ l ∈ ls, ∃ expectPath rest,
    Reading.Spells expectPath l.text.toList l.token rest := by
  induction h with
  | blank _ => exact fun _ h => by cases h
  | @lexeme expectPath _ _ _ rest _ _ _ ht _ ih =>
    refine List.forall_mem_cons.2 ⟨⟨expectPath, rest, ?_⟩, ih⟩
    rw [String.toList_ofList]
    exact ht

/-- No lexeme of a text is shown as the end of a query. -/
theorem toText_ne (h : Yields expectPath p text ls) : ∀ l ∈ ls, l.toText ≠ "end of query" := by
  intro l hl hshown
  obtain ⟨_, rest, hspells⟩ := h.exists_spells l hl
  rw [Lexeme.toText, if_neg hspells.ne_endOfText] at hshown
  rw [hshown] at hspells
  rcases hspells.string_or_not_isWhiteSpace with ⟨quote, body, hquote, hbody, -⟩ | hwhite
  · obtain ⟨rfl, -⟩ : 'e' = quote ∧ _ := List.cons.inj hbody
    exact absurd hquote (by decide)
  · exact absurd (hwhite ' ' (by decide)) (by decide)

theorem liesIn (h : Yields expectPath .start text ls) : ∀ l ∈ ls, l.LiesIn text :=
  h.exists_front

end Yields

/-- Parsers of the lexemes of a text take the end of the query from the last one. -/
theorem Parser.ofLexemes_eq {ts : List Lexeme} (c : Catalog) (hlast : ts.getLast? = some l)
    (hl : l.token ≠ .endOfText) : Parser.ofLexemes c ts = ⟨c, ts, l.endPosition, false⟩ := by
  rw [Parser.ofLexemes, hlast]
  exact if_neg hl

theorem Cursor.ofLexemes_eq {ts : List Lexeme} (c : Catalog) (hlast : ts.getLast? = some l)
    (hl : l.token ≠ .endOfText) :
    Cursor.ofLexemes c ts = ⟨c, ts ++ [.endAt l.endPosition], 0, false, 0⟩ := by
  rw [Cursor.ofLexemes, hlast]
  exact if_neg hl

/-- An error that finds the end of the query is about no lexeme of a text. -/
theorem Blames.position_of_findsEnd {stop : Position} {ts : List Lexeme} {e : ParseError}
    (h : Blames stop ts e) (hts : Yields false p text ts) (he : e.FindsEnd) :
    e.position? = some stop := by
  obtain ⟨l, hl, habout⟩ := h
  rcases List.mem_append.1 hl with hl | hl
  · exfalso
    rcases he with hfound | ⟨q, hlimit⟩
    · exact hts.toText_ne l hl (habout.found _ hfound).symm
    · obtain ⟨_, _, hspells⟩ := hts.exists_spells l hl
      exact hspells.ne_endOfText (habout.limit q hlimit)
  · rw [List.mem_singleton.1 hl] at habout
    exact habout.position

namespace Parser

variable {s : Scope} {ts : List Lexeme}

/-- A list of projections that the query ends behind misses the source. -/
theorem projections_of_end {ps : List Projection} (h : (projection s ts).Reads ps []) :
    projections s ts = .failed (.missingSource s.stop) [] := by
  rw [projections]
  generalize projection s ts = x at h
  cases x with
  | failed e r => exact absurd h Parsed.not_reads_failed
  | done qs r hr =>
    obtain ⟨-, rfl⟩ := Parsed.reads_done.1 h
    rfl

/-- A query fails where its projections do. -/
theorem ofLexemes_of_projections {c : Catalog} {stop : Position} {e : ParseError} {r : List Lexeme}
    (hparser : ofLexemes c (l :: ts) = ⟨c, l :: ts, stop, false⟩)
    (hl : l.token = .word .selectWord)
    (h : projections ⟨c, stop, false, false⟩ ts = .failed e r) :
    Query.ofLexemes c (l :: ts) = .error e := by
  have hfront : (Parser.mk c (l :: ts) stop false).front.token = .word .selectWord := hl
  have hprojections : projections (Parser.mk c ts stop false).scope
      (Parser.mk c ts stop false).ahead = .failed e r := h
  have hquery : query ⟨c, l :: ts, stop, false⟩ = .error e ⟨c, r, stop, false⟩ := by
    rw [query, peek_bind, if_neg (by rw [hfront]; simp)]
    change (Step.sees .selectWord >>= _) _ = _
    rw [sees_bind, decide_eq_true hfront]
    change EStateM.bind (Step.ofParsed projections) _ ⟨c, ts, stop, false⟩ = _
    rw [EStateM.bind, Step.ofParsed, hprojections]
    rfl
  rw [Query.ofLexemes, hparser, run, EStateM.run, hquery]

end Parser

/-- An error of a text is about one of its lexemes or about the end that the last one states. -/
theorem Query.blames_of_tokenize {text : String} {ts : List Lexeme} {c : Catalog} {e : ParseError}
    (hts : tokenize text = .ok ts) (hlast : ts.getLast? = some l)
    (h : Query.ofLexemes c ts = .error e) : Blames l.endPosition ts e := by
  have hend := Scanner.token_ne_endOfText _ hts
  have hparser := Parser.ofLexemes_eq c hlast (hend l (List.mem_of_getLast? hlast))
  rcases Query.blames_of_ofLexemes h with ⟨-, hfront⟩ | hblames
  · rw [hparser] at hfront
    cases ts with
    | nil => cases hlast
    | cons l ts => exact absurd hfront (hend l List.mem_cons_self)
  · rwa [hparser] at hblames

/-- Behind each lexeme the scanner is at the place behind it, and the end that the lexeme states is
that place unless the lexeme is a string over several lines; then the stated end is too few lines
down, by as many as the string has line feeds. The end of a query is the stated end of its last
lexeme, with the same exception; every error of the query is about one of its lexemes or that end,
and one that finds the end of the query is reported there. -/
theorem Lexeme.endPosition_isBehind (text : String) :
    (∀ n l, ((Scanner.ofText text).after n).next.1 = .ok l →
      ((Scanner.ofText text).after (n + 1)).position.IsBehind l text.toList ∧
      (l.endPosition.IsBehind l text.toList ↔ '\n' ∉ l.text.toList) ∧
      ('\n' ∈ l.text.toList → ∃ body, l.token = .string body) ∧
      ((Scanner.ofText text).after (n + 1)).position.offset = l.endPosition.offset ∧
      ((Scanner.ofText text).after (n + 1)).position.line =
        l.endPosition.line + l.text.toList.count '\n') ∧
    ∀ ts last, tokenize text = .ok ts → ts.getLast? = some last → ∀ c,
      (Parser.ofLexemes c ts).stop = last.endPosition ∧
      (Cursor.ofLexemes c ts).lexemes = ts ++ [.endAt last.endPosition] ∧
      (last.endPosition.IsBehind last text.toList ↔ '\n' ∉ last.text.toList) ∧
      ∀ e, Query.ofLexemes c ts = .error e →
        Blames last.endPosition ts e ∧ (e.FindsEnd → e.position? = some last.endPosition) := by
  constructor
  · intro n l hl
    have hlies := (Scanner.standsIn_after text n).liesIn hl
    rw [Scanner.position_after_succ hl]
    refine ⟨hlies.isBehind, hlies.endPosition_isBehind_iff, Scanner.string_of_lineFeed hl, ?_, ?_⟩
    · rw [Position.advanceOver_offset, String.length_toList]
      rfl
    · exact Position.advanceOver_line _ _
  · intro ts last hts hlast c
    have hyields := tokenize_eq_ok.1 hts
    have hmem := List.mem_of_getLast? hlast
    have hend := Scanner.token_ne_endOfText _ hts last hmem
    refine ⟨by rw [Parser.ofLexemes_eq c hlast hend], by rw [Cursor.ofLexemes_eq c hlast hend],
      (hyields.liesIn last hmem).endPosition_isBehind_iff, fun e he => ?_⟩
    have hblames := Query.blames_of_tokenize hts hlast he
    exact ⟨hblames, hblames.position_of_findsEnd hyields⟩

/-- A query that ends too early says so at its end. -/
theorem endPosition_isBehind_select :
    (Position.mk 6 1 7).IsBehind ⟨.word .selectWord, "select", .start⟩ "select".toList ∧
    Query.ofLexemes .empty [⟨.word .selectWord, "select", .start⟩] =
      .error (.noProjection "end of query" ⟨6, 1, 7⟩) ∧
    Blames ⟨6, 1, 7⟩ [⟨.word .selectWord, "select", .start⟩]
      (.noProjection "end of query" ⟨6, 1, 7⟩) := by
  have hnext : Scanner.next (.ofText "select") =
      (.ok ⟨.word .selectWord, "select", .start⟩, ⟨[], ⟨6, 1, 7⟩, false⟩) := rfl
  have htokens : tokenize "select" = .ok [⟨.word .selectWord, "select", .start⟩] :=
    Scanner.lexemes_cons hnext (by simp) (Scanner.lexemes_nil _ _)
  have herror : Query.ofLexemes .empty [⟨.word .selectWord, "select", .start⟩] =
      .error (.noProjection "end of query" ⟨6, 1, 7⟩) := by
    refine Parser.ofLexemes_of_projections rfl rfl (r := []) ?_
    rw [Parser.projections, Parser.projection]
    rfl
  obtain ⟨hends, hquery⟩ := Lexeme.endPosition_isBehind "select"
  obtain ⟨-, -, -, hblames⟩ := hquery _ _ htokens rfl .empty
  exact ⟨(hends 0 _ (congrArg Prod.fst hnext)).1, herror, (hblames _ herror).1⟩

/-- The lexemes of a selection of a string over two lines. -/
def twoLines : List Lexeme :=
  [⟨.word .selectWord, "select", .start⟩, ⟨.string "a\nb", "'a\nb'", ⟨7, 1, 8⟩⟩]

/-- The string ends on the second line, but the end that it states is on the first one, and there
the source is reported as missing. -/
theorem endPosition_twoLines :
    tokenize "select 'a\nb'" = .ok twoLines ∧
    (Position.mk 12 2 3).IsBehind ⟨.string "a\nb", "'a\nb'", ⟨7, 1, 8⟩⟩ "select 'a\nb'".toList ∧
    (Lexeme.mk (.string "a\nb") "'a\nb'" ⟨7, 1, 8⟩).endPosition = ⟨12, 1, 13⟩ ∧
    ¬(Position.mk 12 1 13).IsBehind ⟨.string "a\nb", "'a\nb'", ⟨7, 1, 8⟩⟩
      "select 'a\nb'".toList ∧
    Query.ofLexemes .empty twoLines = .error (.missingSource ⟨12, 1, 13⟩) := by
  have hselect : Scanner.next (.ofText "select 'a\nb'") =
      (.ok ⟨.word .selectWord, "select", .start⟩, ⟨" 'a\nb'".toList, ⟨6, 1, 7⟩, false⟩) := rfl
  have hstring : Scanner.next ⟨" 'a\nb'".toList, ⟨6, 1, 7⟩, false⟩ =
      (.ok ⟨.string "a\nb", "'a\nb'", ⟨7, 1, 8⟩⟩, ⟨[], ⟨12, 2, 3⟩, false⟩) := rfl
  refine ⟨?_, ⟨⟨by decide, by decide, by decide⟩, rfl⟩, rfl,
    fun h => absurd h.marks.line_eq (by decide), ?_⟩
  · exact Scanner.lexemes_cons hselect (by simp)
      (Scanner.lexemes_cons hstring (by simp) (Scanner.lexemes_nil _ _))
  · let l : Lexeme := ⟨.string "a\nb", "'a\nb'", ⟨7, 1, 8⟩⟩
    let s : Scope := ⟨.empty, ⟨12, 1, 13⟩, false, false⟩
    have hproduct : Grammar.Derives s.catalog (.chain .product) ([l].map Lexeme.token)
        (.literal (.string "a\nb")) := .operand (.primary (.literal (.string _)))
    have hderives : Grammar.Derives s.catalog (.chain .disjunction) ([l].map Lexeme.token)
        (.literal (.string "a\nb")) := .operand (.operand (.comparison (.sum (.operand hproduct))))
    have hstop : ExprParser.Stops (.chain .disjunction) [] := fun _ h => by cases h
    have hexpr := ExprParser.reads_of_derives hderives (Scope.admits_literal _) hstop
    have hprojection := (Parser.projection_expr_reads (by simp)).2 ⟨rfl, _, _, none, hexpr,
      Parser.label_nil_reads.2 ⟨rfl, rfl⟩, rfl⟩
    exact Parser.ofLexemes_of_projections rfl rfl (Parser.projections_of_end hprojection)

end FileQuery
