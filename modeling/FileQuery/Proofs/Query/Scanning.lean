import FileQuery.Query.Scanner

/-!
# Scanning pieces of a text

What holds of every token that is read holds of every token of a text. A piece of a text is scanned
to the same tokens whatever comes behind it, as long as that does not go on with the last token of
the piece. Pieces can be put one behind the other, so a text made of pieces is scanned piece by
piece.

## Main definitions

* `FileQuery.Scanner.Scans`: a piece is scanned to some tokens.
* `FileQuery.Scanner.Ends`: what may come behind an expression in a text.
* `FileQuery.IsWord`, `FileQuery.IsName`: texts that are scanned as one word.

## Main results

* `FileQuery.Scanner.forall_lexemes`: from what is read to the lexemes of a text.
* `FileQuery.Scanner.Scans.append`: pieces one behind the other.
* `FileQuery.Scanner.scans_word`, `FileQuery.Scanner.scans_digits`,
  `FileQuery.Scanner.scans_string`, `FileQuery.Scanner.scans_sign`.
-/

namespace FileQuery

/-- Whether a text has the characters of a name or keyword. -/
def IsWord (word : String) : Prop :=
  word.toList.head?.any (fun c => Reading.startsName c && !Text.isWhiteSpace c) = true ∧
    word.toList.all Reading.continuesName = true

instance (word : String) : Decidable (IsWord word) := inferInstanceAs (Decidable (_ ∧ _))

/-- Whether a text is scanned as a name. -/
def IsName (name : String) : Prop :=
  IsWord name ∧ Token.ofKeyword? (Text.toAsciiLower name) = none

instance (name : String) : Decidable (IsName name) := inferInstanceAs (Decidable (_ ∧ _))

namespace Scanner

/-! ### One step -/

theorem lexemes_eq (s : Scanner) : s.lexemes = match s.next with
    | (.error e, _) => .error e
    | (.ok l, s') => if l.token = .endOfText then .ok [] else s'.lexemes.map (l :: ·) := by
  rw [lexemes]
  split
  · next e t h => simp only [h]
  · next l t h =>
    simp only [h]
    by_cases hl : l.token = .endOfText
    · rw [dif_pos hl, if_pos hl]
    · rw [dif_neg hl, if_neg hl]

theorem lexemes_of_next {s s' : Scanner} {l : Lexeme} (h : s.next = (.ok l, s'))
    (hl : l.token ≠ .endOfText) : s.lexemes = s'.lexemes.map (l :: ·) := by
  rw [lexemes_eq, h]
  exact if_neg hl

theorem lexemes_cons {s s' : Scanner} {l : Lexeme} {ls : List Lexeme} (h : s.next = (.ok l, s'))
    (hl : l.token ≠ .endOfText) (hs' : s'.lexemes = .ok ls) : s.lexemes = .ok (l :: ls) := by
  rw [lexemes_of_next h hl, hs']
  rfl

/-- The lexemes depend on the next one only. -/
theorem lexemes_congr {s s' : Scanner} (h : s.next = s'.next) : s.lexemes = s'.lexemes := by
  rw [lexemes_eq, lexemes_eq s', h]

/-- The token of the next lexeme is read at the front of what is ahead. -/
theorem reading_of_next {s s' : Scanner} {l : Lexeme} (h : s.next = (.ok l, s')) :
    (Reading.ofText s.expectPath s.ahead).outcome = .ok l.token := by
  unfold next at h
  dsimp only at h
  split at h
  · next t ht =>
    obtain ⟨rfl, -⟩ : (⟨t, _, _⟩ : Lexeme) = l ∧ _ = s' := by simpa using h
    exact ht
  · simp at h
  · simp at h
  · simp at h

/-- What holds of every token that can be read, the end apart, holds of the tokens of a text. -/
theorem forall_lexemes {P : Token → Prop}
    (hread : ∀ expectPath cs t, (Reading.ofText expectPath cs).outcome = .ok t →
      t ≠ .endOfText → P t)
    (s : Scanner) {ts : List Lexeme} (h : s.lexemes = .ok ts) : ∀ l ∈ ts, P l.token := by
  induction hn : s.rest.length using Nat.strongRecOn generalizing s ts with
  | ind n ih =>
    rw [Scanner.lexemes] at h
    split at h
    · cases h
    · next l s' hnext =>
      split at h
      · obtain rfl := Except.ok.inj h
        intro l hl
        cases hl
      · next hl =>
        cases hs' : s'.lexemes with
        | error e => rw [hs'] at h; cases h
        | ok us =>
          rw [hs'] at h
          obtain rfl := Except.ok.inj h
          exact List.forall_mem_cons.2 ⟨hread _ _ _ (reading_of_next hnext) hl,
            ih _ (hn ▸ next_rest_lt hnext hl) s' hs' rfl⟩

/-- The lexemes of a text do not include its end. -/
theorem token_ne_endOfText (s : Scanner) {ts : List Lexeme} (h : s.lexemes = .ok ts) :
    ∀ l ∈ ts, l.token ≠ .endOfText :=
  forall_lexemes (fun _ _ _ _ hend => hend) s h

/-- The next lexeme at the front of a text that does not begin with white space. -/
theorem next_of_reading {cs rest : List Char} {p : Position} {expectPath : Bool} {t : Token}
    (hcs : cs.head?.any (fun c => !Text.isWhiteSpace c) = true)
    (hread : Reading.ofText expectPath (cs ++ rest) = ⟨.ok t, cs.length⟩) :
    next ⟨cs ++ rest, p, expectPath⟩ = (.ok ⟨t, String.ofList cs, p⟩,
      ⟨rest, p.advanceOver cs, !expectPath && t = .word .fromWord⟩) := by
  match cs with
  | [] => cases hcs
  | c :: cs =>
    have hc : Text.isWhiteSpace c = false := by simpa using hcs
    have hahead : ahead ⟨c :: cs ++ rest, p, expectPath⟩ = c :: cs ++ rest := by
      simp [ahead, hc]
    have hposition : aheadPosition ⟨c :: cs ++ rest, p, expectPath⟩ = p := by
      simp [aheadPosition, hc]
    rw [next, hahead, hposition, hread]
    simp

/-! ### Pieces -/

/-- A piece of a text in front of some rest is scanned to some tokens. -/
def Scans (cs : List Char) (ts : List Token) (rest : List Char) : Prop :=
  ∀ p, ∃ ls q, (Scanner.mk (cs ++ rest) p false).lexemes =
    (Scanner.mk rest q false).lexemes.map (ls ++ ·) ∧ ls.map Lexeme.token = ts

variable {cs ds rest : List Char} {ts us : List Token}

theorem scans_nil (rest : List Char) : Scans [] [] rest := by
  intro p
  refine ⟨[], p, ?_, rfl⟩
  rw [List.nil_append]
  cases (Scanner.mk rest p false).lexemes <;> rfl

theorem Scans.append (hcs : Scans cs ts (ds ++ rest)) (hds : Scans ds us rest) :
    Scans (cs ++ ds) (ts ++ us) rest := by
  intro p
  obtain ⟨ls, q, hls, rfl⟩ := hcs p
  obtain ⟨ks, r, hks, rfl⟩ := hds q
  refine ⟨ls ++ ks, r, ?_, List.map_append⟩
  rw [List.append_assoc, hls, hks]
  cases (Scanner.mk rest r false).lexemes <;> simp [Except.map]

/-- White space is skipped. -/
theorem next_blank {c : Char} (hc : Text.isWhiteSpace c = true) (rest : List Char) (p : Position)
    (expectPath : Bool) :
    next ⟨c :: rest, p, expectPath⟩ = next ⟨rest, p.advance c, expectPath⟩ := by
  have hahead : ahead ⟨c :: rest, p, expectPath⟩ = ahead ⟨rest, p.advance c, expectPath⟩ := by
    simp [ahead, hc]
  have hposition : aheadPosition ⟨c :: rest, p, expectPath⟩ =
      aheadPosition ⟨rest, p.advance c, expectPath⟩ := by
    simp [aheadPosition, hc, Position.advanceOver]
  rw [next, next, hahead, hposition]

theorem scans_blank {c : Char} (hc : Text.isWhiteSpace c = true) (rest : List Char) :
    Scans [c] [] rest := by
  intro p
  refine ⟨[], p.advance c, ?_, rfl⟩
  rw [List.singleton_append, lexemes_congr (next_blank hc rest p false)]
  cases (Scanner.mk rest (p.advance c) false).lexemes <;> rfl

/-- One token. -/
theorem scans_token {t : Token} (hcs : cs.head?.any (fun c => !Text.isWhiteSpace c) = true)
    (hread : Reading.ofText false (cs ++ rest) = ⟨.ok t, cs.length⟩) (hend : t ≠ .endOfText)
    (hfrom : t ≠ .word .fromWord) : Scans cs [t] rest := by
  intro p
  refine ⟨[⟨t, String.ofList cs, p⟩], p.advanceOver cs, ?_, rfl⟩
  rw [lexemes_of_next (next_of_reading hcs hread) hend, decide_eq_false hfrom]
  rfl

/-! ### Signs, words, numbers and strings -/

/-- Whether a character begins neither a string nor a word nor a number, and is not skipped. -/
def IsSign (c : Char) : Prop :=
  Reading.isQuote c = false ∧ Reading.startsName c = false ∧ c.isDigit = false ∧
    Text.isWhiteSpace c = false

instance (c : Char) : Decidable (IsSign c) := inferInstanceAs (Decidable (_ ∧ _))

theorem scans_sign {c : Char} (hc : IsSign c) {t : Token}
    (hread : Reading.sign c (cs ++ rest) = ⟨.ok t, (c :: cs).length⟩) (hend : t ≠ .endOfText)
    (hfrom : t ≠ .word .fromWord) : Scans (c :: cs) [t] rest := by
  obtain ⟨hquote, hstarts, hdigit, hblank⟩ := hc
  refine scans_token (by simpa using hblank) ?_ hend hfrom
  rw [List.cons_append, Reading.ofText, hquote, hstarts, hdigit]
  exact hread

/-- What may come behind an expression: nothing, a blank, a comma or a closing parenthesis. -/
def Ends (rest : List Char) : Prop := ∀ c ∈ rest.head?, c ∈ [' ', ',', ')']

theorem ends_blank (rest : List Char) : Ends (' ' :: rest) := by simp [Ends]

theorem ends_comma (rest : List Char) : Ends (',' :: rest) := by simp [Ends]

theorem ends_rightParen (rest : List Char) : Ends (')' :: rest) := by simp [Ends]

/-- A piece all of whose characters satisfy a condition is taken off a text that does not go on
with such a character. -/
theorem takeWhile_append_of_head {p : Char → Bool} (hcs : cs.all p = true)
    (hrest : ∀ c ∈ rest.head?, p c = false) : (cs ++ rest).takeWhile p = cs := by
  rw [List.takeWhile_append_of_pos (List.all_eq_true.1 hcs)]
  cases rest with
  | nil => simp
  | cons c rest => simp [hrest c rfl]

theorem dropWhile_append_of_head {p : Char → Bool} (hcs : cs.all p = true)
    (hrest : ∀ c ∈ rest.head?, p c = false) : (cs ++ rest).dropWhile p = rest := by
  rw [List.dropWhile_append_of_pos (List.all_eq_true.1 hcs)]
  cases rest with
  | nil => rfl
  | cons c rest => simp [hrest c rfl]

/-- The quotes begin no name. -/
theorem not_startsName_of_isQuote {c : Char} (h : Reading.isQuote c = true) :
    Reading.startsName c = false := by
  simp only [Reading.isQuote, Bool.or_eq_true, beq_iff_eq] at h
  rcases h with h | h
  · rw [← Char.ofNat_toNat c, h]
    decide +kernel
  · rw [← Char.ofNat_toNat c, h]
    decide +kernel

theorem not_isQuote_of_startsName {c : Char} (h : Reading.startsName c = true) :
    Reading.isQuote c = false := by
  cases hq : Reading.isQuote c with
  | false => rfl
  | true => rw [not_startsName_of_isQuote hq] at h; cases h

/-- A digit is neither a quote nor white space, and it begins no name. -/
theorem digit_class {c : Char} (h : c.isDigit = true) : Reading.isQuote c = false ∧
    Reading.startsName c = false ∧ Text.isWhiteSpace c = false := by
  have hrange : 48 ≤ c.toNat ∧ c.toNat ≤ 57 := by
    simpa [Char.isDigit, UInt32.le_iff_toNat_le] using h
  have hdigits : ∀ n ≤ 57, 48 ≤ n → Reading.isQuote (Char.ofNat n) = false ∧
      Reading.startsName (Char.ofNat n) = false := by
    decide +kernel
  have hclass := hdigits _ hrange.2 hrange.1
  rw [Char.ofNat_toNat] at hclass
  exact ⟨hclass.1, hclass.2, Text.isWhiteSpace_of_isDigit h⟩

/-- A word is read as a whole. -/
theorem scans_word {word : String} (hword : IsWord word) {t : Token}
    (ht : Reading.wordToken .identifier word = t) (hend : t ≠ .endOfText)
    (hfrom : t ≠ .word .fromWord) (hrest : ∀ c ∈ rest.head?, Reading.continuesName c = false) :
    Scans word.toList [t] rest := by
  obtain ⟨hhead, hall⟩ := hword
  have hname : Reading.name (word.toList ++ rest) = ⟨.ok t, word.toList.length⟩ := by
    simp only [Reading.name]
    rw [takeWhile_append_of_head hall hrest, String.ofList_toList, ht]
  cases hcs : word.toList with
  | nil => rw [hcs] at hhead; cases hhead
  | cons c cs =>
    rw [hcs] at hhead hname
    obtain ⟨hstarts, hblank⟩ : Reading.startsName c = true ∧ Text.isWhiteSpace c = false := by
      simpa using hhead
    refine scans_token (by simpa using hblank) ?_ hend hfrom
    rw [List.cons_append] at hname ⊢
    simp [Reading.ofText, not_isQuote_of_startsName hstarts, hstarts, hname]

theorem scans_name {name : String} (hname : IsName name)
    (hrest : ∀ c ∈ rest.head?, Reading.continuesName c = false) :
    Scans name.toList [.identifier name] rest := by
  refine scans_word hname.1 ?_ (by simp) (by simp) hrest
  rw [Reading.wordToken, hname.2]
  rfl

/-- What may come behind an expression goes on with no name and no number. -/
theorem Ends.not_continuesName (h : Ends rest) :
    ∀ c ∈ rest.head?, Reading.continuesName c = false := by
  have hall : [' ', ',', ')'].all (fun c => !Reading.continuesName c) = true := by decide +kernel
  intro c hc
  simpa using List.all_eq_true.1 hall c (h c hc)

/-- Digits are read as the number they stand for. -/
theorem scans_digits {n : Nat} (hn : n < 2 ^ 63) (hrest : Ends rest) :
    Scans (Nat.toDigits 10 n) [.integer (.ofNat n)] rest := by
  have hdigits : (Nat.toDigits 10 n).all Char.isDigit = true :=
    List.all_eq_true.2 fun c hc => Nat.isDigit_of_mem_toDigits (by decide) (by decide) hc
  have hends : ∀ c ∈ rest.head?, c.isDigit = false ∧ c ≠ '.' := by
    have hall : [' ', ',', ')'].all (fun c => !c.isDigit && c != '.') = true := by decide
    intro c hc
    simpa using List.all_eq_true.1 hall c (hrest c hc)
  have hnext : ∀ c ∈ rest.head?, c.isDigit = false := fun c hc => (hends c hc).1
  have hnumber : Reading.number (Nat.toDigits 10 n ++ rest) =
      ⟨.ok (.integer (.ofNat n)), (Nat.toDigits 10 n).length⟩ := by
    simp only [Reading.number]
    rw [takeWhile_append_of_head hdigits hnext, dropWhile_append_of_head hdigits hnext]
    have htoken : Reading.integerToken (Nat.toDigits 10 n) = .ok (.integer (.ofNat n)) := by
      simp only [Reading.integerToken, Nat.ofDigitChars_ten_toDigits, if_pos hn]
    rw [htoken]
    split
    · next r => exact absurd rfl (hends '.' rfl).2
    · rfl
  cases hcs : Nat.toDigits 10 n with
  | nil => exact absurd hcs Nat.toDigits_ne_nil
  | cons c cs =>
    rw [hcs] at hdigits hnumber
    have hc : c.isDigit = true := List.all_eq_true.1 hdigits c List.mem_cons_self
    obtain ⟨hquote, hstarts, hblank⟩ := digit_class hc
    refine scans_token (by simpa using hblank) ?_ (by simp) (by simp)
    rw [List.cons_append] at hnumber ⊢
    simp [Reading.ofText, hquote, hstarts, hc, hnumber]

/-- A string is read up to the next quote. -/
theorem scans_string {quote : Char} (hquote : Reading.isQuote quote = true)
    (hblank : Text.isWhiteSpace quote = false) {s : String} (hs : quote ∉ s.toList)
    (rest : List Char) : Scans (quote :: s.toList ++ [quote]) [.string s] rest := by
  have hbody : (s.toList ++ quote :: rest).takeWhile (· != quote) = s.toList := by
    refine takeWhile_append_of_head (List.all_eq_true.2 fun c hc => ?_) (by simp)
    exact bne_iff_ne.2 fun h => hs (h ▸ hc)
  refine scans_token (by simpa using hblank) ?_ (by simp) (by simp)
  have htext : quote :: s.toList ++ [quote] ++ rest = quote :: (s.toList ++ quote :: rest) := by
    simp
  rw [htext, Reading.ofText, if_pos hquote, Reading.quoted]
  simp [hbody, String.ofList_toList]

/-! ### Whole texts -/

theorem lexemes_nil (p : Position) (expectPath : Bool) :
    (Scanner.mk [] p expectPath).lexemes = .ok [] := by
  rw [lexemes_eq]
  rfl

/-- A piece and a rest that is scanned to the end. -/
theorem Scans.lexemes (h : Scans cs ts rest)
    (hrest : ∀ p, ∃ ls, (Scanner.mk rest p false).lexemes = .ok ls ∧ ls.map Lexeme.token = us)
    (p : Position) :
    ∃ ls, (Scanner.mk (cs ++ rest) p false).lexemes = .ok ls ∧ ls.map Lexeme.token = ts ++ us := by
  obtain ⟨ls, q, hls, rfl⟩ := h p
  obtain ⟨ks, hks, rfl⟩ := hrest q
  refine ⟨ls ++ ks, ?_, List.map_append⟩
  rw [hls, hks]
  rfl

/-- The keyword `from` and the place itself as a source. -/
theorem lexemes_from (p : Position) : ∃ ls, (Scanner.mk " from .".toList p false).lexemes = .ok ls ∧
    ls.map Lexeme.token = [.word .fromWord, .path "."] := by
  have hkeyword : Reading.ofText false ("from".toList ++ " .".toList) =
    ⟨.ok (.word .fromWord), "from".toList.length⟩ := rfl
  have hsource : Reading.ofText true (".".toList ++ []) = ⟨.ok (.path "."), ".".toList.length⟩ := rfl
  have hblank : Text.isWhiteSpace ' ' = true := by decide
  have hfrom := next_of_reading (p := p.advance ' ') (by decide) hkeyword
  have hpath := next_of_reading
    (p := ((p.advance ' ').advanceOver "from".toList).advance ' ') (by decide) hsource
  have hlast := lexemes_cons hpath (by simp) (lexemes_nil _ _)
  have htail := (lexemes_congr (next_blank hblank ".".toList _ true)).trans hlast
  have hword := lexemes_cons hfrom (by simp) htail
  exact ⟨_, (lexemes_congr (next_blank hblank "from .".toList p false)).trans hword, rfl⟩

end Scanner

end FileQuery
