import FileQuery.Proofs.Number.Numerals
import FileQuery.Proofs.Query.Layout
import FileQuery.Proofs.Query.Tiling

/-!
# Floating-point literals in a text

Numerals have no exponent. A literal that is written as digits, a point and digits is one token, and
this token is the number. A literal that is written with an exponent is no token: the letter of the
exponent ends the number in front of it.

## Main definitions

* `FileQuery.tokensOf`: the tokens of a text.

## Main results

* `FileQuery.Expr.tokensOf_float`: which numbers are read back from their literals.
-/

namespace FileQuery

open Reading Scanner

/-- The tokens of a text. -/
def tokensOf (text : String) : Except LexError (List Token) :=
  (tokenize text).map (List.map Lexeme.token)

variable {c : Char} {cs r ds fs rest : List Char} {t : Token} {ts : List Token} {l : Lexeme}
  {p : Position}

/-! ### What is written positionally -/

theorem tokensOf_eq_ok : tokensOf (String.ofList cs) = .ok ts ↔
    ∃ ls, (Scanner.mk cs .start false).lexemes = .ok ls ∧ ls.map Lexeme.token = ts := by
  rw [tokensOf, tokenize, Scanner.ofText, String.toList_ofList]
  cases (Scanner.mk cs .start false).lexemes <;> simp [Except.map]

theorem tokensOf_of_scans (h : Scans cs ts []) : tokensOf (String.ofList cs) = .ok ts := by
  have hnil (q : Position) : ∃ ls, (Scanner.mk [] q false).lexemes = .ok ls ∧
      ls.map Lexeme.token = [] := ⟨[], lexemes_nil q false, rfl⟩
  have hlexemes := h.lexemes hnil .start
  rw [List.append_nil, List.append_nil] at hlexemes
  exact tokensOf_eq_ok.2 hlexemes

/-- The tokens behind a piece of a text. -/
theorem Scanner.Scans.behind (h : Scans cs ts rest) {us : List Token} {ls : List Lexeme}
    (hls : (Scanner.mk (cs ++ rest) p false).lexemes = .ok ls)
    (htokens : ls.map Lexeme.token = ts ++ us) : ∃ q ks,
      (Scanner.mk rest q false).lexemes = .ok ks ∧ ks.map Lexeme.token = us := by
  obtain ⟨fs, q, hfront, rfl⟩ := h p
  rw [hfront] at hls
  cases hrest : (Scanner.mk rest q false).lexemes with
  | error e =>
    rw [hrest] at hls
    cases hls
  | ok ks =>
    rw [hrest] at hls
    obtain rfl := Except.ok.inj hls
    rw [List.map_append] at htokens
    exact ⟨q, ks, hrest, List.append_cancel_left htokens⟩

/-- Digits, a point and digits are one token. -/
theorem scans_numeral (hds : IsDigits ds) (hfs : IsDigits fs)
    (hrest : ∀ d ∈ rest.head?, d.isDigit = false) :
    Scans (ds ++ '.' :: fs) [.float (.ofNumeral ds fs)] rest := by
  have hspells : Spells false (ds ++ '.' :: fs) _ rest := .float hds.1 hds.2 hfs.1 hfs.2 hrest
  refine scans_token ?_ hspells.ofText_eq (by simp) (by simp)
  obtain ⟨c, r, hc, hblank⟩ := hspells.exists_cons
  simp [hc, hblank]

/-! ### What is written with an exponent -/

/-- A token that begins with a digit has digits and a point only. -/
theorem Reading.Spells.isDigit_or_point (h : Spells false (c :: r) t rest)
    (hc : c.isDigit = true) : ∀ d ∈ c :: r, d.isDigit = true ∨ d = '.' := by
  obtain ⟨hquote, hstarts, -⟩ := digit_class hc
  generalize hcs : c :: r = cs at h
  cases h with
  | @string _ quote body _ hquote' hbody =>
    obtain ⟨rfl, -⟩ := List.cons.inj hcs
    rw [hquote] at hquote'
    cases hquote'
  | word hc' hcs' hrest =>
    obtain ⟨rfl, -⟩ := List.cons.inj hcs
    rw [hstarts] at hc'
    cases hc'
  | integer hne hds hrest hpoint ht =>
    exact fun d hd => Or.inl (List.all_eq_true.1 hds d hd)
  | float hne hds hne' hfs hrest =>
    intro d hd
    rcases List.mem_append.1 hd with hd | hd
    · exact Or.inl (List.all_eq_true.1 hds d hd)
    · rcases List.mem_cons.1 hd with rfl | hd
      · exact Or.inr rfl
      · exact Or.inl (List.all_eq_true.1 hfs d hd)
  | sign hsign h =>
    obtain ⟨rfl, -⟩ := List.cons.inj hcs
    rw [hsign.2.2.1] at hc
    cases hc

/-- A text that begins with a digit and has the letter of an exponent is not one lexeme. -/
theorem not_yields_exponent (hc : c.isDigit = true) (he : 'e' ∈ r) :
    ¬Yields false p (c :: r) [l] := by
  intro h
  have hmem : 'e' ∈ c :: r := List.mem_cons_of_mem c he
  generalize hcs : c :: r = cs at h hmem
  cases h with
  | @lexeme _ _ gap ds rest t _ hgap ht hrest =>
    cases hrest with
    | blank hblank =>
      cases gap with
      | cons b gap =>
        obtain ⟨rfl, -⟩ := List.cons.inj hcs
        rw [List.all_cons, Bool.and_eq_true] at hgap
        rw [(not_continues_of_isWhiteSpace hgap.1).2.1] at hc
        cases hc
      | nil =>
        rw [List.nil_append] at hcs hmem
        obtain ⟨d, us, rfl, -⟩ := ht.exists_cons
        obtain ⟨rfl, -⟩ := List.cons.inj hcs
        rcases List.mem_append.1 hmem with hmem | hmem
        · exact absurd (ht.isDigit_or_point hc _ hmem) (by decide)
        · exact absurd (List.all_eq_true.1 hblank _ hmem) (by decide)

/-- A text that begins with a digit and has the letter of an exponent is not one token. -/
theorem lexemes_exponent_ne (hc : c.isDigit = true) (he : 'e' ∈ r) {ls : List Lexeme}
    (h : (Scanner.mk (c :: r) p false).lexemes = .ok ls) : ls.map Lexeme.token ≠ [t] := by
  intro hls
  obtain ⟨l, rfl, -⟩ := List.map_eq_singleton_iff.1 hls
  exact not_yields_exponent hc he (lexemes_eq_ok.1 h)

namespace Expr

open Binary64 ExprParser

variable {u : Nat}

theorem toText_float (negative : Bool) (h : Representable u) :
    (literal (.float (.finite negative u h))).toText =
      String.ofList ((if negative then ['-'] else []) ++ literalBody u) := by
  rw [← write_literal negative h, String.ofList_toList]
  rfl

/-- A literal is one token, or a minus and one token, with exactly its number if it is written
positionally. A literal that is written with an exponent is not. -/
theorem tokensOf_float (h : Representable u) :
    (tokensOf (literal (.float (.finite false u h))).toText =
      .ok [.float (.finite false u h)] ↔ Positional u) ∧
    (tokensOf (negated (literal (.float (.finite false u h)))).toText =
      .ok [.minus, .float (.finite false u h)] ↔ Positional u) := by
  have hnegated : negated (literal (.float (.finite false u h))) =
      literal (.float (.finite true u h)) := rfl
  rw [hnegated, toText_float, toText_float]
  by_cases hpositional : Positional u
  · obtain ⟨ds, fs, hds, hfs, htext, hnumber⟩ := exists_numeral h hpositional
    have hscans : Scans (literalBody u) [.float (.finite false u h)] [] := by
      rw [htext, ← hnumber]
      exact scans_numeral hds hfs (by simp)
    exact ⟨iff_of_true (tokensOf_of_scans hscans) hpositional,
      iff_of_true (tokensOf_of_scans ((scans_minus _).append hscans)) hpositional⟩
  · obtain ⟨c, r, htext, hc, he⟩ := exists_exponent h hpositional
    have hminus := scans_minus (c :: r)
    rw [htext]
    constructor
    · refine iff_of_false (fun hread => ?_) hpositional
      obtain ⟨ls, hls, htokens⟩ := tokensOf_eq_ok.1 hread
      exact lexemes_exponent_ne hc he hls htokens
    · refine iff_of_false (fun hread => ?_) hpositional
      obtain ⟨ls, hls, htokens⟩ := tokensOf_eq_ok.1 hread
      obtain ⟨q, ks, hks, htokens'⟩ := hminus.behind hls htokens
      exact lexemes_exponent_ne hc he hks htokens'

/-- The number `2.5`. -/
def twoAndAHalf : Binary64 := .finite false (5 * 2 ^ 1073) (by decide +kernel)

/-- `2.5` and `-2.5` are written and read back. -/
theorem tokensOf_float_twoAndAHalf :
    (literal (.float twoAndAHalf)).toText = "2.5" ∧
    tokensOf (literal (.float twoAndAHalf)).toText = .ok [.float twoAndAHalf] ∧
    tokensOf (negated (literal (.float twoAndAHalf))).toText =
      .ok [.minus, .float twoAndAHalf] := by
  have hread := tokensOf_float (u := 5 * 2 ^ 1073) (by decide +kernel)
  exact ⟨by decide +kernel, hread.1.2 (by decide +kernel), hread.2.2 (by decide +kernel)⟩

/-- The first number that is written with an exponent. -/
def tenQuadrillion : Binary64 := .finite false (10 ^ 16 * unitsPerOne) (by decide +kernel)

/-- A numeral of this number is read as it, but its literal is read as an integer and a name. -/
theorem tokensOf_tenQuadrillion :
    tokensOf "10000000000000000.0" = .ok [.float tenQuadrillion] ∧
    (literal (.float tenQuadrillion)).toText = "1e16" ∧
    tokensOf (literal (.float tenQuadrillion)).toText = .ok [.integer 1, .identifier "e16"] ∧
    tokensOf (literal (.float tenQuadrillion)).toText ≠ .ok [.float tenQuadrillion] := by
  have hnumeral : IsDigits "10000000000000000".toList ∧ IsDigits "0".toList := by
    unfold IsDigits
    decide
  have hvalue : ofNumeral "10000000000000000".toList "0".toList = tenQuadrillion := by
    decide +kernel
  have hscans : Scans "10000000000000000.0".toList [.float tenQuadrillion] [] := by
    rw [← hvalue]
    exact scans_numeral hnumeral.1 hnumeral.2 (by simp)
  have htext : (literal (.float tenQuadrillion)).toText = "1e16" := by decide +kernel
  have hone : Scans ['1'] [.integer 1] ("e16".toList ++ []) :=
    scans_token (by decide) rfl (by simp) (by simp)
  have hname : Scans "e16".toList [.identifier "e16"] [] :=
    scans_name (by decide +kernel) (by simp)
  have htokens : tokensOf "1e16" = .ok [.integer 1, .identifier "e16"] :=
    tokensOf_of_scans (hone.append hname)
  rw [htext, htokens]
  exact ⟨tokensOf_of_scans hscans, rfl, rfl, by simp⟩

end Expr

end FileQuery
