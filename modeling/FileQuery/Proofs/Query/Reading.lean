import FileQuery.Proofs.Query.Grammar

/-!
# What parsers read

A parser of lexemes reads a value off the front of a list or fails. For each parser of expressions
there is one law that says what it reads in terms of what the parsers below it read; lengths and
errors do not occur in these laws.

## Main definitions

* `FileQuery.Parsed.Reads`: a value is read and some lexemes are left.
* `FileQuery.ExprParser.parseLevel`: the parser of a level of the grammar.

## Main results

* `FileQuery.ExprParser.operator?_eq_some`, `FileQuery.ExprParser.literal?_eq_some`: the tables of
  the parser are those of the grammar.

* `FileQuery.ExprParser.chain_reads` and its siblings: one law for each parser.
-/

namespace FileQuery

namespace Parsed

variable {α β : Type} {m n : Nat}

/-- A value is read and some lexemes are left. -/
def Reads (x : Parsed α n) (a : α) (rest : List Lexeme) : Prop := x.toExcept = (.ok a, rest)

@[simp] theorem reads_done {a b : α} {r r' : List Lexeme} {h : r.length < n} :
    (done a r h).Reads b r' ↔ a = b ∧ r = r' := by
  rw [Reads, toExcept, Prod.mk.injEq, Except.ok.injEq]

@[simp] theorem not_reads_failed {e : ParseError} {a : α} {r r' : List Lexeme} :
    ¬(failed e r : Parsed α n).Reads a r' := by
  rw [Reads, toExcept, Prod.mk.injEq]
  exact fun h => (nomatch h.1)

@[simp] theorem reads_weaken (h : m ≤ n) {x : Parsed α m} {a : α} {r : List Lexeme} :
    (x.weaken h).Reads a r ↔ x.Reads a r := by
  cases x <;> simp [weaken]

@[simp] theorem reads_map {f : α → β} {x : Parsed α n} {b : β} {r : List Lexeme} :
    (x.map f).Reads b r ↔ ∃ a, x.Reads a r ∧ f a = b := by
  cases x with
  | done a us h => simp [map, and_assoc, and_comm (b := us = r), exists_and_left]
  | failed e us => simp [map]

theorem Reads.shorter {x : Parsed α n} {a : α} {r : List Lexeme} (h : x.Reads a r) :
    r.length < n := by
  cases x with
  | done b us hus =>
    obtain ⟨-, rfl⟩ := reads_done.1 h
    exact hus
  | failed e us => exact absurd h not_reads_failed

end Parsed

@[simp] theorem Scope.not_reads_unexpected {α : Type} {n : Nat} {s : Scope} {w : Expected}
    {ts r : List Lexeme} {a : α} : ¬(s.unexpected w ts : Parsed α n).Reads a r :=
  Parsed.not_reads_failed

@[simp] theorem Scope.not_reads_unclosed {α : Type} {n : Nat} {s : Scope} {f : Function}
    {ts r : List Lexeme} {a : α} : ¬(s.unclosed f ts : Parsed α n).Reads a r :=
  Parsed.not_reads_failed

namespace ExprParser

open Grammar (Level operandLevel Operates Denotes)

/-! ### Levels and tables -/

/-- The parser of a level. -/
def parseLevel (s : Scope) : Level → (ts : List Lexeme) → Parsed Expr ts.length
  | .chain k, ts => chain s k ts
  | .negation, ts => negation s ts
  | .comparison, ts => comparison s ts
  | .signed, ts => signed s ts
  | .primary, ts => primary s ts

theorem operand_eq (s : Scope) (k : Chain) (ts : List Lexeme) :
    operand s k ts = parseLevel s (operandLevel k) ts := by
  cases k <;> rw [operand] <;> rfl

theorem operator?_eq_some {k : Chain} {t : Token} {op : BinaryOp} :
    k.operator? t = some op ↔ Operates k t op := by
  constructor
  · intro h
    unfold Chain.operator? at h
    split at h <;> cases h <;> constructor
  · rintro (_ | _) <;> rfl

theorem literal?_eq_some {t : Token} {v : Value} : literal? t = some v ↔ Denotes t v := by
  constructor
  · intro h
    cases t with
    | integer | float | string | boolean | null =>
      cases h
      constructor
    | _ => cases h
  · rintro (_ | _) <;> rfl

variable {s : Scope} {k : Chain} {l : Lexeme} {ts r : List Lexeme} {e left : Expr}

/-! ### Chains -/

theorem chain_reads : (chain s k ts).Reads e r ↔
    ∃ left us, (operand s k ts).Reads left us ∧ (chainRest s k left us).Reads e r := by
  rw [chain]
  cases operand s k ts <;> simp [and_assoc, exists_and_left]

theorem chainRest_nil_reads : (chainRest s k left []).Reads e r ↔ left = e ∧ [] = r := by
  rw [chainRest, Parsed.reads_done]

theorem chainRest_stop_reads (h : k.operator? l.token = none) :
    (chainRest s k left (l :: ts)).Reads e r ↔ left = e ∧ l :: ts = r := by
  rw [chainRest, h, Parsed.reads_done]

theorem chainRest_operator_reads {op : BinaryOp} (h : k.operator? l.token = some op) :
    (chainRest s k left (l :: ts)).Reads e r ↔
      ∃ right us, (operand s k ts).Reads right us ∧
        (chainRest s k (.binary op left right) us).Reads e r := by
  rw [chainRest, h]
  cases operand s k ts <;> simp [and_assoc, exists_and_left]

/-! ### Comparisons and prefix operators -/

theorem negation_not_reads (h : l.token = .word .notWord) :
    (negation s (l :: ts)).Reads e r ↔ ∃ e', (negation s ts).Reads e' r ∧ .unary .not e' = e := by
  rw [negation, if_pos h, Parsed.reads_weaken, Parsed.reads_map]

theorem negation_nil : parseLevel s .negation [] = parseLevel s .comparison [] := by
  rw [parseLevel, negation, parseLevel]

theorem negation_other (h : l.token ≠ .word .notWord) :
    parseLevel s .negation (l :: ts) = parseLevel s .comparison (l :: ts) := by
  rw [parseLevel, negation, if_neg h, parseLevel]

/-- A comparison operator at the front, and the lexemes behind it. -/
def relation? : List Lexeme → Option (Relation × List Lexeme)
  | [] => none
  | l :: ls =>
    match l.token with
    | .relation op => some (op, ls)
    | _ => none

theorem relation?_eq_some {op : Relation} : relation? ts = some (op, r) ↔
    ∃ l, ts = l :: r ∧ l.token = .relation op := by
  constructor
  · intro h
    unfold relation? at h
    split at h
    · cases h
    · next l ls =>
      split at h
      · next op' hop =>
        obtain ⟨rfl, rfl⟩ := Prod.mk.inj (Option.some.inj h)
        exact ⟨l, rfl, hop⟩
      · cases h
  · rintro ⟨l, rfl, hl⟩
    rw [relation?, hl]

theorem comparison_reads : (comparison s ts).Reads e r ↔
    ∃ left us, (chain s .sum ts).Reads left us ∧
      match relation? us with
      | none => left = e ∧ us = r
      | some (op, vs) =>
        ∃ right, (chain s .sum vs).Reads right r ∧ .binary (.relation op) left right = e := by
  rw [comparison]
  cases chain s .sum ts with
  | failed e' us => simp
  | done left us h =>
    simp only [Parsed.reads_done, and_assoc, exists_and_left, exists_eq_left']
    cases us with
    | nil => simp [relation?]
    | cons l vs =>
      obtain ⟨t, text, p⟩ := l
      cases t with
      | relation op =>
        simp only [relation?]
        cases chain s .sum vs with
        | failed e' ws => simp
        | done right ws h' =>
          simp only [Parsed.reads_done]
          constructor
          · rintro ⟨he, hr⟩
            exact ⟨right, ⟨rfl, hr⟩, he⟩
          · rintro ⟨right', ⟨rfl, hr⟩, he⟩
            exact ⟨he, hr⟩
      | _ => simp [relation?]

theorem signed_minus_reads (h : l.token = .minus) :
    (signed s (l :: ts)).Reads e r ↔ ∃ e', (signed s ts).Reads e' r ∧ negated e' = e := by
  rw [signed, if_pos h, Parsed.reads_weaken, Parsed.reads_map]

theorem signed_nil : parseLevel s .signed [] = parseLevel s .primary [] := by
  rw [parseLevel, signed, parseLevel]

theorem signed_other (h : l.token ≠ .minus) :
    parseLevel s .signed (l :: ts) = parseLevel s .primary (l :: ts) := by
  rw [parseLevel, signed, if_neg h, parseLevel]

/-! ### Primaries -/

theorem not_primary_nil_reads : ¬(primary s []).Reads e r := by
  rw [primary]
  exact Scope.not_reads_unexpected

theorem primary_literal_reads {v : Value} (h : literal? l.token = some v) :
    (primary s (l :: ts)).Reads e r ↔ .literal v = e ∧ ts = r := by
  rw [primary, h, Parsed.reads_done]

theorem primary_identifier {name : String} (h : l.token = .identifier name) :
    primary s (l :: ts) = named s name l ts := by
  rw [primary, h]
  rfl

theorem primary_parens_reads (h : l.token = .leftParen) : (primary s (l :: ts)).Reads e r ↔
    ∃ l', (chain s .disjunction ts).Reads e (l' :: r) ∧ l'.token = .rightParen := by
  have hliteral : literal? .leftParen = none := rfl
  rw [primary, h, hliteral]
  cases chain s .disjunction ts with
  | failed e' us => simp
  | done e' us h' =>
    cases us with
    | nil => simp
    | cons l' vs =>
      by_cases hl' : l'.token = .rightParen
      · simp only [hl', if_true, Parsed.reads_done, List.cons.injEq]
        constructor
        · rintro ⟨he, hr⟩
          exact ⟨l', ⟨he, rfl, hr⟩, hl'⟩
        · rintro ⟨l'', ⟨he, -, hr⟩, -⟩
          exact ⟨he, hr⟩
      · simp [hl']

theorem not_primary_reads (hliteral : literal? l.token = none)
    (hname : ∀ name, l.token ≠ .identifier name) (hparen : l.token ≠ .leftParen) :
    ¬(primary s (l :: ts)).Reads e r := by
  rw [primary, hliteral]
  cases hl : l.token with
  | identifier name => exact absurd hl (hname name)
  | leftParen => exact absurd hl hparen
  | _ => exact Scope.not_reads_unexpected

/-! ### Names -/

theorem columnAt_reads {name : String} : (columnAt s name l ts).Reads e r ↔
    ∃ a, s.catalog.findAttribute? name = some a ∧ .column a.subject = e ∧ ts = r := by
  rw [columnAt, column]
  cases s.catalog.findAttribute? name with
  | none => cases s.catalog.findFunction? name <;> simp
  | some a => simp

theorem named_nil {name : String} : named s name l [] = columnAt s name l [] := by
  rw [named]

theorem named_column {name : String} {p : Lexeme} (hp : p.token ≠ .leftParen) :
    named s name l (p :: ts) = columnAt s name l (p :: ts) := by
  rw [named, if_neg hp]

theorem callee_eq_ok {name : String} {p : Position} {f : FunctionEntry} :
    callee s name p = .ok f ↔ s.catalog.findFunction? name = some f ∧
      (s.inPredicate = true → f.inPredicates = true) ∧
      (s.inAggregate = true → f.function.isAggregate = false) := by
  rw [callee]
  cases s.catalog.findFunction? name with
  | none => simp
  | some f' =>
    constructor
    · intro h
      dsimp only at h
      split at h
      · cases h
      · next hpredicate =>
        split at h
        · cases h
        · next haggregate =>
          obtain rfl := Except.ok.inj h
          simp only [Bool.and_eq_true, Bool.not_eq_true', not_and, Bool.not_eq_false] at hpredicate
          refine ⟨rfl, hpredicate, fun hs => ?_⟩
          simpa [hs] using haggregate
    · rintro ⟨hf, hpredicate, haggregate⟩
      obtain rfl := Option.some.inj hf
      dsimp only
      rw [if_neg, if_neg]
      · cases hs : s.inAggregate <;> simp_all
      · cases hs : s.inPredicate <;> simp_all

theorem call_eq_ok {f : FunctionEntry} {args : List Expr} {p : Position} :
    call f args p = .ok e ↔ f.arity.accepts args.length = true ∧ .call f.function args = e := by
  rw [call]
  cases f.arity.accepts args.length <;> simp

theorem named_call_reads {name : String} {p : Lexeme} (hp : p.token = .leftParen) :
    (named s name l (p :: ts)).Reads e r ↔
      ∃ f args, callee s name l.position = .ok f ∧
        (arguments (s.within f.function) f.function ts).Reads args r ∧
        call f args l.position = .ok e := by
  rw [named, if_pos hp]
  cases callee s name l.position with
  | error err => simp
  | ok f =>
    simp only [Except.ok.injEq, exists_and_left, exists_eq_left']
    cases arguments (s.within f.function) f.function ts with
    | failed err us => simp
    | done args us h =>
      simp only [Parsed.reads_done, and_assoc, exists_eq_left']
      cases call f args l.position <;> simp [and_comm]

/-! ### Arguments -/

/-- A star is skipped only between the parentheses of a call of `count`. -/
theorem skipStar_cases (f : Function) (ts : List Lexeme) : skipStar f ts = ts ∨
    f = .aggregate .count ∧ ∃ l p r, ts = l :: p :: r ∧ l.token = .star ∧ p.token = .rightParen ∧
      skipStar f ts = p :: r := by
  match ts with
  | [] => exact Or.inl rfl
  | [l] => exact Or.inl rfl
  | l :: p :: r =>
    rw [skipStar]
    split
    · next h => exact Or.inr ⟨h.1, l, p, r, rfl, h.2.1, h.2.2, rfl⟩
    · exact Or.inl rfl

theorem arguments_nil_reads {f : Function} {args : List Expr} (h : skipStar f ts = l :: r)
    (hl : l.token = .rightParen) {us : List Lexeme} :
    (arguments s f ts).Reads args us ↔ [] = args ∧ r = us := by
  rw [arguments]
  split
  · next h' => rw [h] at h'; cases h'
  · next l' r' h' =>
    obtain ⟨rfl, rfl⟩ := List.cons.inj (h.symm.trans h')
    simp [hl]

theorem arguments_list_reads {f : Function} {args : List Expr} (h : skipStar f ts = l :: r)
    (hl : l.token ≠ .rightParen) {us : List Lexeme} :
    (arguments s f ts).Reads args us ↔ (argumentList s f (l :: r)).Reads args us := by
  rw [arguments]
  split
  · next h' => rw [h] at h'; cases h'
  · next l' r' h' =>
    obtain ⟨rfl, rfl⟩ := List.cons.inj (h.symm.trans h')
    simp [hl]

theorem not_arguments_reads {f : Function} {args : List Expr} (h : skipStar f ts = []) :
    ¬(arguments s f ts).Reads args r := by
  rw [arguments]
  split
  · exact Scope.not_reads_unclosed
  · next h' => rw [h] at h'; cases h'

theorem argumentList_reads {f : Function} {args : List Expr} :
    (argumentList s f ts).Reads args r ↔
      (s.front ts).token.startsExpression = true ∧
      ∃ a l us, (chain s .disjunction ts).Reads a (l :: us) ∧
        ((l.token = .rightParen ∧ [a] = args ∧ us = r) ∨
          (l.token = .comma ∧ ∃ as, (argumentList s f us).Reads as r ∧ a :: as = args)) := by
  rw [argumentList]
  split
  · next hstart =>
    simp only [hstart, true_and]
    cases chain s .disjunction ts with
    | failed err us => simp
    | done a us h =>
      cases us with
      | nil => simp
      | cons l vs =>
        obtain ⟨t, text, p⟩ := l
        simp only [Parsed.reads_done, List.cons.injEq, and_assoc, exists_and_left,
          exists_eq_left']
        cases t <;> simp
  · next hstart => simp [hstart]

end ExprParser

end FileQuery
