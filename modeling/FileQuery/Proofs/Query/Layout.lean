import FileQuery.Proofs.Query.Printing

/-!
# Scanning the text of an expression

The text of an expression is scanned to the tokens of the expression, whatever comes behind it that
may come behind an expression. The text is made of pieces, each of which ends where the next one
begins: an operator stands between blanks, a name ends at a parenthesis, a string at its quote.

## Main results

* `FileQuery.Expr.scans_literalText`: the text of a literal.
* `FileQuery.Expr.Printable.scannedBack`: the text of an expression.
-/

namespace FileQuery

open Scanner

variable {rest : List Char}

/-! ### Literals -/

theorem Int64.ofNat_toNat_toInt {n : Int64} (h : 0 ≤ n.toInt) : Int64.ofNat n.toInt.toNat = n := by
  have hlt := n.toInt_lt
  rw [← Int64.toInt_inj, Int64.toInt_ofNat_of_lt (by omega), Int.toNat_of_nonneg h]

/-- Only the least integer has no opposite. -/
theorem Int64.toInt_neg_of_lt {n : Int64} (h : -2 ^ 63 < n.toInt) : (-n).toInt = -n.toInt := by
  have hlt := n.toInt_lt
  rw [Int64.toInt_neg]
  exact Int.bmod_eq_of_le (by omega) (by omega)

theorem scans_minus (rest : List Char) : Scans ['-'] [.minus] rest :=
  scans_sign (by decide +kernel) rfl (by simp) (by simp)

/-- A piece in parentheses. -/
theorem scans_parens {cs : List Char} {ts : List Token} (h : Scans cs ts (')' :: rest)) :
    Scans (['('] ++ (cs ++ [')'])) (.leftParen :: ts ++ [.rightParen]) rest := by
  have hopen : Scans ['('] [.leftParen] (cs ++ [')'] ++ rest) :=
    scans_sign (by decide +kernel) rfl (by simp) (by simp)
  have hclose : Scans [')'] [.rightParen] rest :=
    scans_sign (by decide +kernel) rfl (by simp) (by simp)
  exact hopen.append (h.append hclose)

/-- The text of an integer that is not negative. -/
theorem scans_integer {n : Int64} (hn : 0 ≤ n.toInt) (hrest : Ends rest) :
    Scans (Nat.toDigits 10 n.toInt.toNat) [.integer n] rest := by
  have hlt := n.toInt_lt
  have hdigits := scans_digits (n := n.toInt.toNat) (by omega) hrest
  rwa [Int64.ofNat_toNat_toInt hn] at hdigits

namespace Expr

theorem quoteFor_not_mem {s : String} (h : '\x27' ∉ s.toList ∨ '\x22' ∉ s.toList) :
    quoteFor s ∉ s.toList := by
  rw [quoteFor]
  split
  · next hsingle => exact h.resolve_left (not_not_intro (List.contains_iff_mem.1 hsingle))
  · next hsingle => exact fun hmem => hsingle (List.contains_iff_mem.2 hmem)

theorem scans_literalText {v : Value} (h : v.Writable) (hrest : Ends rest) :
    Scans (literalText v).toList (literalTokens v) rest := by
  cases v with
  | null =>
    exact scans_word (by decide +kernel) (by decide +kernel) (by simp) (by simp)
      hrest.not_continuesName
  | boolean b =>
    cases b <;>
      exact scans_word (by decide +kernel) (by decide +kernel) (by simp) (by simp)
        hrest.not_continuesName
  | float x => cases h
  | time t => cases h
  | string s =>
    rw [literalText, String.toList_ofList]
    have hquote : Reading.isQuote (quoteFor s) = true ∧ Text.isWhiteSpace (quoteFor s) = false := by
      rw [quoteFor]
      split <;> decide
    exact scans_string hquote.1 hquote.2 (quoteFor_not_mem h) rest
  | integer n =>
    have htext : (literalText (.integer n)).toList = n.toInt.repr.toList := rfl
    rw [htext, literalTokens, Int.repr_eq_if]
    by_cases hn : n.toInt < 0
    · have hneg := Int64.toInt_neg_of_lt h
      rw [if_pos hn, if_neg (by omega), String.toList_append, Nat.toList_repr, ← hneg]
      exact (scans_minus _).append (scans_integer (by omega) hrest)
    · rw [if_neg hn, if_pos (by omega), Nat.toList_repr]
      exact scans_integer (by omega) hrest

/-! ### Operators and parentheses -/

/-- A sign between blanks. -/
theorem scans_symbol (op : BinaryOp) (rest : List Char) :
    Scans op.symbol.toList [op.token] (' ' :: rest) := by
  have hblank := (ends_blank rest).not_continuesName
  have hend : op.token ≠ .endOfText := by
    rcases op with _ | _ | _ | (_ | _ | _ | _) <;> simp [BinaryOp.token]
  have hfrom : op.token ≠ .word .fromWord := by
    rcases op with _ | _ | _ | (_ | _ | _ | _) <;> simp [BinaryOp.token]
  rcases op with _ | _ | (_ | _ | _ | _ | _ | _) | (_ | _ | _ | _)
  case or | and => exact scans_word (by decide +kernel) (by decide +kernel) hend hfrom hblank
  all_goals exact scans_sign (by decide +kernel) rfl hend hfrom

theorem scans_operatorText (op : UnaryOp) (rest : List Char) :
    Scans (operatorText op).toList [op.token] rest := by
  cases op with
  | negate => exact scans_minus rest
  | not =>
    have hword : Scans "not".toList [.word .notWord] ([' '] ++ rest) :=
      scans_word (by decide +kernel) (by decide +kernel) (by simp) (by simp)
        (ends_blank rest).not_continuesName
    exact hword.append (scans_blank (by decide) rest)

/-- The text of an expression is scanned to its tokens. -/
def ScannedBack (e : Expr) : Prop := ∀ rest, Ends rest → Scans e.toText.toList e.tokens rest

variable {e l r : Expr}

theorem ScannedBack.parenthesized (h : e.ScannedBack) (needed : Bool) (hrest : Ends rest) :
    Scans (parenthesize needed e.toText).toList (parenthesizeTokens needed e.tokens) rest := by
  cases needed with
  | false => exact h rest hrest
  | true =>
    have htext : (parenthesize true e.toText).toList = ['('] ++ (e.toText.toList ++ [')']) := by
      simp [parenthesize, toString]
    rw [htext]
    exact scans_parens (h _ (ends_rightParen rest))

theorem scannedBack_column (a : Attribute) : (Expr.column a).ScannedBack := by
  intro rest hrest
  exact scans_name a.isName_canonicalName hrest.not_continuesName

theorem scannedBack_binary (op : BinaryOp) (hl : l.ScannedBack) (hr : r.ScannedBack) :
    (Expr.binary op l r).ScannedBack := by
  intro rest hrest
  have hright := hr.parenthesized (decide (r.strength ≤ op.strength)) hrest
  have hblank := (scans_blank (c := ' ') (by decide) _).append hright
  have hsymbol := (scans_symbol op _).append hblank
  have hblank' := (scans_blank (c := ' ') (by decide) _).append hsymbol
  have hleft := (hl.parenthesized (decide (l.strength < op.strength)) (ends_blank _)).append hblank'
  have htext : (Expr.binary op l r).toText.toList =
      (parenthesize (decide (l.strength < op.strength)) l.toText).toList ++ ([' '] ++
        (op.symbol.toList ++ ([' '] ++
          (parenthesize (decide (r.strength ≤ op.strength)) r.toText).toList))) := by
    simp [toText, toString]
  rw [htext]
  exact hleft

theorem scannedBack_unary (op : UnaryOp) (h : e.ScannedBack) : (Expr.unary op e).ScannedBack := by
  intro rest hrest
  rw [toText, String.toList_append]
  exact (scans_operatorText op _).append (h.parenthesized _ hrest)

/-! ### Calls -/

theorem scans_argsText {args : List Expr} (h : ∀ a ∈ args, a.ScannedBack) (hrest : Ends rest) :
    Scans (argsText args).toList (argsTokens args) rest := by
  induction args with
  | nil => exact scans_nil rest
  | cons a args ih =>
    obtain ⟨ha, hargs⟩ := List.forall_mem_cons.1 h
    cases args with
    | nil => exact ha rest hrest
    | cons b args =>
      have hcomma : Scans [','] [.comma] ([' '] ++ (argsText (b :: args)).toList ++ rest) :=
        scans_sign (by decide +kernel) rfl (by simp) (by simp)
      have hblank := (scans_blank (c := ' ') (by decide) _).append (ih hargs)
      have hfirst := (ha _ (ends_comma _)).append (hcomma.append hblank)
      have htext : (argsText (a :: b :: args)).toList =
          a.toText.toList ++ ([','] ++ ([' '] ++ (argsText (b :: args)).toList)) := by
        simp [argsText]
      rw [htext]
      exact hfirst

theorem scannedBack_call (f : Function) {args : List Expr} (h : ∀ a ∈ args, a.ScannedBack) :
    (Expr.call f args).ScannedBack := by
  intro rest hrest
  have hparen : Reading.continuesName '(' = false := by decide +kernel
  have hcallee : Scans f.canonicalName.toList [.identifier f.canonicalName]
      (['('] ++ ((argsText args).toList ++ [')']) ++ rest) :=
    scans_name f.isName_canonicalName (by simpa using hparen)
  have htext : (Expr.call f args).toText.toList =
      f.canonicalName.toList ++ (['('] ++ ((argsText args).toList ++ [')'])) := by
    simp [toText, toString]
  rw [htext]
  exact hcallee.append (scans_parens (scans_argsText h (ends_rightParen rest)))

/-- The text of an expression is scanned to its tokens. -/
theorem Printable.scannedBack (h : e.Printable) : e.ScannedBack := by
  induction h with
  | column a => exact scannedBack_column a
  | literal h => exact fun rest hrest => scans_literalText h hrest
  | call f h ih => exact scannedBack_call f ih
  | @binary op l r hl hr hchain ihl ihr => exact scannedBack_binary op ihl ihr
  | not h ih => exact scannedBack_unary .not ih
  | negate h hnumber ih => exact scannedBack_unary .negate ih

end Expr

end FileQuery
