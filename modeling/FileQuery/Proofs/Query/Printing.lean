import FileQuery.Proofs.Catalog.Standard
import FileQuery.Proofs.Query.Grammar

/-!
# The tokens of a written expression

An expression is written with parentheses only where the strengths of the operators ask for them.
The tokens of what is written derive the expression again, and at every level that is no tighter
than its outermost operator: levels are counted by the strength of the operators that stand at them,
so that an operand is in parentheses exactly if it could not be derived otherwise.

This fails for a comparison directly left of another one, since comparisons do not chain, and for
what no token stands for: dates, the least integer, strings with both kinds of quotes, and a minus
sign before a number that is not part of the number.

## Main definitions

* `FileQuery.Expr.tokens`: the tokens of a written expression.
* `FileQuery.Value.Writable`, `FileQuery.Expr.Printable`: what can be read back.
* `FileQuery.Grammar.levelAt`: the level for a strength.

## Main results

* `FileQuery.Expr.Printable.derives`: the tokens of an expression derive it.
-/

namespace FileQuery

open Grammar

/-! ### Tokens -/

/-- The sign of an operator. -/
def BinaryOp.token : BinaryOp → Token
  | .or => .word .orWord
  | .and => .word .andWord
  | .relation op => .relation op
  | .arithmetic .add => .plus
  | .arithmetic .subtract => .minus
  | .arithmetic .multiply => .star
  | .arithmetic .divide => .slash

def UnaryOp.token : UnaryOp → Token
  | .not => .word .notWord
  | .negate => .minus

namespace Expr

/-- The tokens of a literal. A negative number has a sign of its own. -/
def literalTokens : Value → List Token
  | .null => [.null]
  | .boolean b => [.boolean b]
  | .integer n => if n.toInt < 0 then [.minus, .integer (-n)] else [.integer n]
  | .float x => [.float x]
  | .string s => [.string s]
  | .time t => [.string t.display]

/-- Tokens in parentheses where they are needed. -/
def parenthesizeTokens (needed : Bool) (ts : List Token) : List Token :=
  if needed then .leftParen :: ts ++ [.rightParen] else ts

mutual

/-- The tokens of an expression as a query writes it. -/
def tokens : Expr → List Token
  | .column a => [.identifier a.canonicalName]
  | .literal v => literalTokens v
  | .call f args => .identifier f.canonicalName :: .leftParen :: argsTokens args ++ [.rightParen]
  | .binary op l r =>
    parenthesizeTokens (decide (l.strength < op.strength)) l.tokens ++ op.token ::
      parenthesizeTokens (decide (r.strength ≤ op.strength)) r.tokens
  | .unary op e =>
    op.token :: parenthesizeTokens (decide (e.strength < op.strength)) e.tokens

/-- The tokens of arguments with commas between them. -/
def argsTokens : List Expr → List Token
  | [] => []
  | [e] => e.tokens
  | e :: es => e.tokens ++ .comma :: argsTokens es

end

theorem argsTokens_eq (es : List Expr) : argsTokens es = commaSeparated (es.map tokens) := by
  induction es with
  | nil => rfl
  | cons e es ih =>
    cases es with
    | nil => rw [argsTokens, List.map_singleton, commaSeparated_singleton]
    | cons e' es =>
      rw [List.map_cons, commaSeparated_cons _ (by simp), ← ih]
      rfl

end Expr

/-! ### What can be read back -/

/-- Whether a literal is what its text stands for. -/
def Value.Writable : Value → Prop
  | .null => True
  | .boolean _ => True
  | .integer n => -2 ^ 63 < n.toInt
  | .string s => '\x27' ∉ s.toList ∨ '\x22' ∉ s.toList
  | .float _ => False
  | .time _ => False

/-- Whether an expression is what its text stands for: its literals are, no minus sign is before
a number, and no comparison is directly left of another one. -/
inductive Expr.Printable : Expr → Prop
  | column (a : Attribute) : Printable (.column a)
  | literal {v : Value} (h : v.Writable) : Printable (.literal v)
  | call (f : Function) {args : List Expr} (h : ∀ a ∈ args, Printable a) : Printable (.call f args)
  | binary {op : BinaryOp} {l r : Expr} (hl : Printable l) (hr : Printable r)
    (hchain : ∀ o o' l' r', op = .relation o → l ≠ .binary (.relation o') l' r') :
    Printable (.binary op l r)
  | not {e : Expr} (h : Printable e) : Printable (.unary .not e)
  | negate {e : Expr} (h : Printable e) (hnumber : ∀ n, e ≠ .literal (.integer n)) :
    Printable (.unary .negate e)

/-! ### Levels and strengths -/

namespace Grammar

/-- The level of the expressions whose outermost operator is at least as strong. -/
def levelAt : Nat → Level
  | 0 => .chain .disjunction
  | 1 => .chain .disjunction
  | 2 => .chain .conjunction
  | 3 => .negation
  | 4 => .comparison
  | 5 => .chain .sum
  | 6 => .chain .product
  | 7 => .signed
  | _ => .primary

variable {c : Catalog} {ts : List Token} {e : Expr}

theorem derives_levelAt_succ {s : Nat} (h : Derives c (levelAt (s + 1)) ts e) :
    Derives c (levelAt s) ts e := by
  match s with
  | 0 => exact h
  | 1 => exact .operand h
  | 2 => exact .operand h
  | 3 => exact .comparison h
  | 4 => exact .sum h
  | 5 => exact .operand h
  | 6 => exact .operand h
  | 7 => exact .primary h
  | _ + 8 => exact h

/-- What is derived at a level is derived at every looser one. -/
theorem derives_levelAt_mono {s s' : Nat} (h : Derives c (levelAt s') ts e) (hs : s ≤ s') :
    Derives c (levelAt s) ts e := by
  induction hs with
  | refl => exact h
  | step _ ih => exact ih (derives_levelAt_succ h)

theorem derives_parens {s : Nat} (h : Derives c (.chain .disjunction) ts e) :
    Derives c (levelAt s) (.leftParen :: ts ++ [.rightParen]) e := by
  have hprimary : Derives c (levelAt (s + 8)) (.leftParen :: ts ++ [.rightParen]) e := .parens h
  exact derives_levelAt_mono hprimary (Nat.le_add_right s 8)

end Grammar

theorem BinaryOp.strength_range (op : BinaryOp) : 1 ≤ op.strength ∧ op.strength ≤ 6 := by
  rcases op with _ | _ | _ | (_ | _ | _ | _) <;> simp [BinaryOp.strength, Arithmetic.strength]

/-- Only comparisons have the strength of comparisons. -/
theorem BinaryOp.exists_relation_of_strength {op : BinaryOp} (h : op.strength = 4) :
    ∃ o, op = .relation o := by
  rcases op with _ | _ | o | (_ | _ | _ | _)
  case relation => exact ⟨o, rfl⟩
  all_goals exact absurd h (by decide)

theorem UnaryOp.strength_range (op : UnaryOp) :
    1 ≤ op.strength ∧ op.strength ≤ 7 ∧ op.strength ≠ 4 := by
  cases op <;> decide

namespace Expr

theorem strength_pos (e : Expr) : 1 ≤ e.strength := by
  cases e with
  | column => exact Nat.le_of_ble_eq_true rfl
  | literal => exact Nat.le_of_ble_eq_true rfl
  | call => exact Nat.le_of_ble_eq_true rfl
  | binary op => exact op.strength_range.1
  | unary op => exact op.strength_range.1

/-- An expression with the strength of a comparison is one. -/
theorem exists_relation_of_strength {e : Expr} (h : e.strength = 4) :
    ∃ o l r, e = .binary (.relation o) l r := by
  cases e with
  | column => cases h
  | literal => cases h
  | call => cases h
  | binary op l r =>
    obtain ⟨o, rfl⟩ := BinaryOp.exists_relation_of_strength h
    exact ⟨o, l, r, rfl⟩
  | unary op => exact absurd h op.strength_range.2.2

/-! ### Derivations -/

/-- The tokens of an expression derive it at every level that its strength allows. A negative number
is no primary, whence the bound. -/
def DerivedBack (e : Expr) : Prop :=
  ∀ s ≤ e.strength, s ≤ 7 → Derives .standard (levelAt s) e.tokens e

variable {e l r : Expr}

/-- An operand in parentheses where needed is derived at the level of operands. -/
theorem DerivedBack.parenthesized (h : e.DerivedBack) (s : Nat) (hs : s ≤ 7) {needed : Prop}
    [Decidable needed] (hneeded : needed ↔ e.strength < s) :
    Derives .standard (levelAt s) (parenthesizeTokens (decide needed) e.tokens) e := by
  by_cases hlt : e.strength < s
  · rw [decide_eq_true (hneeded.2 hlt), parenthesizeTokens, if_pos rfl]
    exact derives_parens (h 1 e.strength_pos (by decide))
  · rw [decide_eq_false (mt hneeded.1 hlt), parenthesizeTokens, if_neg Bool.false_ne_true]
    exact h s (Nat.le_of_not_lt hlt) hs

theorem derivedBack_of_strength (h : Derives .standard (levelAt e.strength) e.tokens e) :
    e.DerivedBack :=
  fun _ hs _ => derives_levelAt_mono h hs

theorem derivedBack_column (a : Attribute) : (Expr.column a).DerivedBack := by
  obtain ⟨entry, hfind, rfl⟩ := Catalog.findAttribute?_canonicalName a
  exact derivedBack_of_strength (.column hfind)

theorem derivedBack_literal {v : Value} (h : v.Writable) : (Expr.literal v).DerivedBack := by
  have hsigned : Derives .standard (levelAt 7) (literalTokens v) (.literal v) := by
    cases v with
    | null => exact .primary (.literal .null)
    | boolean b => exact .primary (.literal (.boolean b))
    | string s => exact .primary (.literal (.string s))
    | float x => cases h
    | time t => cases h
    | integer n =>
      rw [literalTokens]
      split
      · have hminus := Derives.minus (c := .standard) (.primary (.literal (.integer (-n))))
        rw [ExprParser.negated, Int64.neg_neg] at hminus
        exact hminus
      · exact .primary (.literal (.integer n))
  exact fun s _ hs => derives_levelAt_mono hsigned hs

theorem derivedBack_call (f : Function) {args : List Expr} (h : ∀ a ∈ args, a.DerivedBack) :
    (Expr.call f args).DerivedBack := by
  obtain ⟨entry, hfind, rfl⟩ := Catalog.findFunction?_canonicalName f
  refine derivedBack_of_strength ?_
  have hargs : ∀ a ∈ args.map fun a => (a.tokens, a),
      Derives .standard (.chain .disjunction) a.1 a.2 := by
    intro a ha
    obtain ⟨a, hmem, rfl⟩ := List.mem_map.1 ha
    exact h a hmem 1 a.strength_pos (by decide)
  have hcall := Derives.call hfind _ hargs
  simp only [List.map_map, Function.comp_def, List.map_id'] at hcall
  rw [tokens, argsTokens_eq]
  exact hcall

theorem derivedBack_binary {op : BinaryOp} (hl : l.DerivedBack) (hr : r.DerivedBack)
    (hchain : ∀ o o' l' r', op = .relation o → l ≠ .binary (.relation o') l' r') :
    (Expr.binary op l r).DerivedBack := by
  refine derivedBack_of_strength ?_
  have hrange := op.strength_range
  have hleft := hl.parenthesized op.strength (Nat.le_succ_of_le hrange.2) Iff.rfl
  have hright := hr.parenthesized (op.strength + 1) (Nat.succ_le_succ hrange.2)
    Nat.lt_succ_iff.symm
  match op with
  | .or => exact .chain hleft .or hright
  | .and => exact .chain hleft .and hright
  | .arithmetic .add => exact .chain hleft .add hright
  | .arithmetic .subtract => exact .chain hleft .subtract hright
  | .arithmetic .multiply => exact .chain hleft .multiply hright
  | .arithmetic .divide => exact .chain hleft .divide hright
  | .relation o =>
    -- Both operands of a comparison are sums, so the left one must not be a comparison.
    have hne : l.strength ≠ 4 := by
      intro h
      obtain ⟨o', l', r', hl'⟩ := exists_relation_of_strength h
      exact hchain o o' l' r' rfl hl'
    have hsum : l.strength < 4 ↔ l.strength < 5 := by omega
    exact .relation o (hl.parenthesized 5 (by decide) hsum) hright

theorem derivedBack_not (h : e.DerivedBack) : (Expr.unary .not e).DerivedBack :=
  derivedBack_of_strength (.not (h.parenthesized 3 (by decide) Iff.rfl))

theorem derivedBack_negate (h : e.DerivedBack) (hinteger : ∀ n, e ≠ .literal (.integer n))
    (hfloat : ∀ x, e ≠ .literal (.float x)) : (Expr.unary .negate e).DerivedBack := by
  have hminus := Derives.minus (h.parenthesized 7 (by decide) Iff.rfl)
  rw [ExprParser.negated] at hminus
  · exact derivedBack_of_strength hminus
  · exact hinteger
  · exact hfloat

/-- The tokens of an expression derive it. -/
theorem Printable.derivedBack (h : e.Printable) : e.DerivedBack := by
  induction h with
  | column a => exact derivedBack_column a
  | literal h => exact derivedBack_literal h
  | call f h ih => exact derivedBack_call f ih
  | binary hl hr hchain ihl ihr => exact derivedBack_binary ihl ihr hchain
  | not h ih => exact derivedBack_not ih
  | negate h hnumber ih =>
    refine derivedBack_negate ih hnumber ?_
    rintro x rfl
    cases h with
    | literal h => cases h

theorem Printable.derives (h : e.Printable) :
    Derives .standard (.chain .disjunction) e.tokens e :=
  h.derivedBack 1 e.strength_pos (by decide)

end Expr

end FileQuery
