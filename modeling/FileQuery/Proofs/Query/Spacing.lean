import FileQuery.Catalog.Standard
import FileQuery.Proofs.Query.Lockstep
import FileQuery.Proofs.Query.Tiling

/-!
# White space between tokens

The lexemes of a text can be written down again with any white space before the first of them, any
between two of them as long as there is some, and any behind the last. Tokens that touched each
other are then apart, and none of them goes on with what is between them. So the new text has the
same tokens with the same texts, and it is the same query.

## Main definitions

* `FileQuery.spaced`: words with white space before, between and behind them.
* `FileQuery.Blur.unplaced`: all of an error but its place.

## Main results

* `FileQuery.Yields.spaced`: lexemes written down again.
* `FileQuery.Query.parse_spaced`: white space between tokens does not matter.
-/

namespace FileQuery

/-- A lead, and words each with a gap behind it. -/
def spaced (lead : String) : List (String × String) → String
  | [] => lead
  | (word, gap) :: row => lead ++ (word ++ spaced gap row)

/-- Whether words with their gaps are those of some lexemes, the gaps are white space, and there is
some between two words. -/
structure Respaces (ls : List Lexeme) (row : List (String × String)) : Prop where
  words : row.map Prod.fst = ls.map Lexeme.text
  blank : ∀ r ∈ row, Text.isBlank r.2 = true
  separated : ∀ r ∈ row.dropLast, r.2 ≠ ""

namespace Respaces

variable {l : Lexeme} {ls : List Lexeme} {r : String × String} {row : List (String × String)}

theorem tail (h : Respaces (l :: ls) (r :: row)) : Respaces ls row where
  words := (List.cons.inj h.words).2
  blank := (List.forall_mem_cons.1 h.blank).2
  separated r' hr' := by
    cases row with
    | nil => cases hr'
    | cons r'' row => exact h.separated r' (List.mem_cons_of_mem _ hr')

/-- Behind a word there is white space, or nothing. -/
theorem detached (h : Respaces ls (r :: row)) (rest : List Char) :
    Detached rest (spaced r.2 row).toList := by
  obtain ⟨word, gap⟩ := r
  have hblank : gap.toList.all Text.isWhiteSpace = true := h.blank _ List.mem_cons_self
  have hgap (us : List Char) (hne : gap ≠ "") : Detached rest (gap.toList ++ us) := by
    cases hlist : gap.toList with
    | nil => exact absurd (String.toList_eq_nil_iff.1 hlist) hne
    | cons c cs =>
      rw [hlist] at hblank
      exact Or.inl ⟨c, cs ++ us, rfl, List.all_eq_true.1 hblank c List.mem_cons_self⟩
  cases row with
  | nil =>
    by_cases hne : gap = ""
    · subst hne
      exact Or.inr List.nil_prefix
    · rw [← List.append_nil (spaced _ _).toList]
      exact hgap [] hne
  | cons r row =>
    rw [spaced, String.toList_append]
    exact hgap _ (h.separated _ List.mem_cons_self)

end Respaces

/-- The lexemes of a text written down again are the lexemes of the new text, but for places. -/
theorem Yields.spaced {expectPath : Bool} {p : Position} {cs : List Char} {ls : List Lexeme}
    (h : Yields expectPath p cs ls) (p' : Position) {lead : String}
    (hlead : Text.isBlank lead = true) {row : List (String × String)} (hrow : Respaces ls row) :
    ∃ us, Yields expectPath p' (FileQuery.spaced lead row).toList us ∧
      us.map Lexeme.token = ls.map Lexeme.token ∧ us.map Lexeme.text = ls.map Lexeme.text := by
  induction h generalizing p' lead row with
  | blank _ =>
    obtain rfl := List.map_eq_nil_iff.1 hrow.words
    exact ⟨[], .blank hlead, rfl, rfl⟩
  | @lexeme _ p gap cs rest t ls hgap ht _ ih =>
    -- The old gap goes; the one behind this word leads what is written of the rest.
    cases row with
    | nil => cases hrow.words
    | cons r row =>
      obtain ⟨word, behind⟩ := r
      obtain rfl : word = String.ofList cs := (List.cons.inj hrow.words).1
      have hbehind := hrow.blank _ List.mem_cons_self
      obtain ⟨us, hus, htokens, htexts⟩ := ih ((p'.advanceOver lead.toList).advanceOver cs) hbehind
        hrow.tail
      refine ⟨⟨t, String.ofList cs, p'.advanceOver lead.toList⟩ :: us, ?_,
        congrArg (t :: ·) htokens, congrArg (String.ofList cs :: ·) htexts⟩
      rw [FileQuery.spaced, String.toList_append, String.toList_append, String.toList_ofList]
      exact .lexeme hlead (ht.detached (hrow.detached rest)) hus

/-- All of an error but its place. -/
def Blur.unplaced : Blur := ⟨id, fun _ => .start⟩

theorem Blur.fits_unplaced (c : Catalog) : Blur.unplaced.Fits c := by
  rintro name _ rfl
  exact ⟨rfl, rfl⟩

/-- Lexemes with the same tokens and texts. -/
theorem allAlike_unplaced {ls us : List Lexeme}
    (htokens : us.map Lexeme.token = ls.map Lexeme.token)
    (htexts : us.map Lexeme.text = ls.map Lexeme.text) : AllAlike .unplaced us ls := by
  induction ls generalizing us with
  | nil =>
    obtain rfl := List.map_eq_nil_iff.1 htokens
    exact .nil
  | cons l ls ih =>
    obtain ⟨l', us, rfl, htoken, htokens⟩ := List.map_eq_cons_iff.1 htokens
    obtain ⟨htext, htexts⟩ := List.cons.inj htexts
    refine .cons ⟨htoken ▸ .refl _, htext, rfl, rfl⟩ (fun _ => ?_) (ih htokens htexts)
    rw [← List.head?_map, ← List.head?_map, htokens]

/-- White space between tokens does not matter: a text with the same words has the same tokens, and
it is the same query or none for the same reason, places apart. -/
theorem Query.parse_spaced {text : String} {ls : List Lexeme} (h : tokenize text = .ok ls)
    (lead : String) (hlead : Text.isBlank lead = true) (row : List (String × String))
    (hrow : Respaces ls row) :
    (∃ us, tokenize (spaced lead row) = .ok us ∧
      us.map Lexeme.token = ls.map Lexeme.token ∧ us.map Lexeme.text = ls.map Lexeme.text) ∧
    ∀ c, (Query.parse c (spaced lead row)).mapError (SyntaxError.blur .unplaced) =
      (Query.parse c text).mapError (SyntaxError.blur .unplaced) := by
  obtain ⟨us, hus, htokens, htexts⟩ := (tokenize_eq_ok.1 h).spaced .start hlead hrow
  have htokenize := tokenize_eq_ok.2 hus
  exact ⟨⟨us, htokenize, htokens, htexts⟩, fun c =>
    Query.parse_alike (Blur.fits_unplaced c) htokenize h (allAlike_unplaced htokens htexts)⟩

/-- A query whose tokens touch each other, and the same tokens over two lines. -/
theorem Query.parse_spaced_minusOne :
    (∃ us, tokenize " select - 1\nfrom\t." = .ok us ∧
      us.map Lexeme.token = [.word .selectWord, .minus, .integer 1, .word .fromWord, .path "."] ∧
      us.map Lexeme.text = ["select", "-", "1", "from", "."]) ∧
    (Query.parse .standard " select - 1\nfrom\t.").mapError (SyntaxError.blur .unplaced) =
      (Query.parse .standard "select-1from.").mapError (SyntaxError.blur .unplaced) := by
  have hselect : Scanner.next (.ofText "select-1from.") =
      (.ok ⟨.word .selectWord, "select", ⟨0, 1, 1⟩⟩,
        ⟨"-1from.".toList, ⟨6, 1, 7⟩, false⟩) := rfl
  have hminus : Scanner.next ⟨"-1from.".toList, ⟨6, 1, 7⟩, false⟩ =
      (.ok ⟨.minus, "-", ⟨6, 1, 7⟩⟩, ⟨"1from.".toList, ⟨7, 1, 8⟩, false⟩) := rfl
  have hone : Scanner.next ⟨"1from.".toList, ⟨7, 1, 8⟩, false⟩ =
      (.ok ⟨.integer 1, "1", ⟨7, 1, 8⟩⟩, ⟨"from.".toList, ⟨8, 1, 9⟩, false⟩) := rfl
  have hfrom : Scanner.next ⟨"from.".toList, ⟨8, 1, 9⟩, false⟩ =
      (.ok ⟨.word .fromWord, "from", ⟨8, 1, 9⟩⟩, ⟨".".toList, ⟨12, 1, 13⟩, true⟩) := rfl
  have hpath : Scanner.next ⟨".".toList, ⟨12, 1, 13⟩, true⟩ =
      (.ok ⟨.path ".", ".", ⟨12, 1, 13⟩⟩, ⟨[], ⟨13, 1, 14⟩, false⟩) := rfl
  have htext : tokenize "select-1from." = .ok _ :=
    Scanner.lexemes_cons hselect (by simp) <| Scanner.lexemes_cons hminus (by simp) <|
      Scanner.lexemes_cons hone (by simp) <| Scanner.lexemes_cons hfrom (by simp) <|
        Scanner.lexemes_cons hpath (by simp) (Scanner.lexemes_nil _ _)
  have hspaced := Query.parse_spaced htext " " (by decide)
    [("select", " "), ("-", " "), ("1", "\n"), ("from", "\t"), (".", "")]
    ⟨rfl, by decide, by decide⟩
  exact ⟨hspaced.1, hspaced.2 .standard⟩

end FileQuery
