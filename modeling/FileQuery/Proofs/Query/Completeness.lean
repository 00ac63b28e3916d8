import FileQuery.Proofs.Query.Legality
import FileQuery.Proofs.Query.Reading

/-!
# Derivable expressions are parsed

A parser of expressions reads on as long as it can, so what is derived must be followed by a lexeme
at which it stops. Tokens have a grade: the rank of the level at which an operator goes on with a
phrase. A phrase followed by a token of a grade above its level is read as a whole.

Chains group to the left while they are read from the left, so for chains the induction over a
derivation shows more: reading a chain is reading on behind what has been derived of it.

## Main definitions

* `FileQuery.ExprParser.levelRank`, `FileQuery.ExprParser.grade`, `FileQuery.ExprParser.Stops`.
* `FileQuery.ExprParser.Complete`: what the induction shows of a derivation.

## Main results

* `FileQuery.ExprParser.reads_of_derives`: derivable and legal expressions are read.
-/

namespace FileQuery

namespace ExprParser

open Grammar

/-- The levels in order, the tightest first. -/
def levelRank : Level → Nat
  | .primary => 0
  | .signed => 1
  | .chain .product => 2
  | .chain .sum => 3
  | .comparison => 4
  | .negation => 5
  | .chain .conjunction => 6
  | .chain .disjunction => 7

/-- The rank of the tightest level at which a phrase may go on with a token. A parenthesis goes on
with a name; most tokens end every phrase. -/
def grade : Token → Nat
  | .leftParen => 0
  | .star => 2
  | .slash => 2
  | .plus => 3
  | .minus => 3
  | .relation _ => 4
  | .word .andWord => 6
  | .word .orWord => 7
  | _ => 8

/-- Whether the parser of a level stops in front of some lexemes. -/
def Stops (level : Level) (r : List Lexeme) : Prop := ∀ l ∈ r.head?, levelRank level < grade l.token

variable {c : Catalog} {s : Scope} {level : Level} {k : Chain} {e : Expr}

theorem stops_cons {l : Lexeme} {r : List Lexeme} :
    Stops level (l :: r) ↔ levelRank level < grade l.token := by
  simp [Stops]

theorem levelRank_operandLevel (k : Chain) :
    levelRank (operandLevel k) < levelRank (.chain k) := by
  cases k <;> decide

theorem Stops.mono {tighter : Level} {r : List Lexeme} (h : Stops level r)
    (hrank : levelRank tighter ≤ levelRank level) : Stops tighter r :=
  fun l hl => Nat.lt_of_le_of_lt hrank (h l hl)

theorem Stops.operand {k : Chain} {r : List Lexeme} (h : Stops (.chain k) r) :
    Stops (operandLevel k) r :=
  h.mono (Nat.le_of_lt (levelRank_operandLevel k))

theorem grade_of_operates {k : Chain} {t : Token} {op : BinaryOp} (h : Operates k t op) :
    grade t = levelRank (.chain k) := by
  cases h <;> rfl

/-- A chain that stops reads nothing more. -/
theorem chainRest_reads_of_stops {r : List Lexeme} (h : Stops (.chain k) r) :
    (chainRest s k e r).Reads e r := by
  match r with
  | [] => exact chainRest_nil_reads.2 ⟨rfl, rfl⟩
  | l :: r =>
    cases hop : k.operator? l.token with
    | none => exact (chainRest_stop_reads hop).2 ⟨rfl, rfl⟩
    | some op =>
      have hgrade := grade_of_operates (operator?_eq_some.1 hop)
      exact absurd (stops_cons.1 h) (by omega)

/-! ### First tokens -/

/-- How a derivation begins: with a token that begins expressions; `not` and the minus sign only
begin those of the wider levels. -/
theorem derives_head {ts : List Token} (h : Derives c level ts e) :
    ∃ t us, ts = t :: us ∧ t.startsExpression = true ∧
      (levelRank level ≤ 4 → t ≠ .word .notWord) ∧ (level = .primary → t ≠ .minus) := by
  induction h with
  | @operand k ts e h ih =>
    obtain ⟨t, us, rfl, hstart, hnot, -⟩ := ih
    have hrank := levelRank_operandLevel k
    exact ⟨t, us, rfl, hstart, fun h => hnot (by omega), fun h => nomatch h⟩
  | chain hl hop hr ihl ihr =>
    obtain ⟨t, us, rfl, hstart, hnot, -⟩ := ihl
    exact ⟨t, _, rfl, hstart, hnot, fun h => nomatch h⟩
  | not h ih => exact ⟨_, _, rfl, rfl, fun h => absurd h (by decide), fun h => nomatch h⟩
  | comparison h ih =>
    obtain ⟨t, us, rfl, hstart, -⟩ := ih
    exact ⟨t, us, rfl, hstart, fun h => absurd h (by decide), fun h => nomatch h⟩
  | sum h ih =>
    obtain ⟨t, us, rfl, hstart, hnot, -⟩ := ih
    exact ⟨t, us, rfl, hstart, fun _ => hnot (by decide), fun h => nomatch h⟩
  | relation op hl hr ihl ihr =>
    obtain ⟨t, us, rfl, hstart, hnot, -⟩ := ihl
    exact ⟨t, _, rfl, hstart, fun _ => hnot (by decide), fun h => nomatch h⟩
  | minus h ih => exact ⟨_, _, rfl, rfl, fun _ h => (nomatch h), fun h => nomatch h⟩
  | primary h ih =>
    obtain ⟨t, us, rfl, hstart, hnot, -⟩ := ih
    exact ⟨t, us, rfl, hstart, fun _ => hnot (by decide), fun h => nomatch h⟩
  | literal h =>
    refine ⟨_, _, rfl, ?_, fun _ => ?_, fun _ => ?_⟩ <;> cases h <;>
      first | rfl | exact fun h => nomatch h
  | column ha => exact ⟨_, _, rfl, rfl, fun _ h => (nomatch h), fun _ h => nomatch h⟩
  | call hf args hargs ih => exact ⟨_, _, rfl, rfl, fun _ h => (nomatch h), fun _ h => nomatch h⟩
  | countStar hf hcount => exact ⟨_, _, rfl, rfl, fun _ h => (nomatch h), fun _ h => nomatch h⟩
  | parens h ih => exact ⟨_, _, rfl, rfl, fun _ h => (nomatch h), fun _ h => nomatch h⟩

/-! ### Reading on -/

/-- What the induction over a derivation shows: the phrase is read if the parser stops behind it; a
chain is read like the rest of the chain behind the phrase. -/
def Complete (s : Scope) (level : Level) (ts : List Token) (e : Expr) : Prop :=
  ∀ us r, us.map Lexeme.token = ts →
    match level with
    | .chain k => Stops (operandLevel k) r → ∀ e' r', (chainRest s k e r).Reads e' r' →
        (parseLevel s (.chain k) (us ++ r)).Reads e' r'
    | level => Stops level r → (parseLevel s level (us ++ r)).Reads e r

theorem Complete.reads {ts : List Token} (h : Complete s level ts e) {us r : List Lexeme}
    (hus : us.map Lexeme.token = ts) (hr : Stops level r) :
    (parseLevel s level (us ++ r)).Reads e r := by
  cases level with
  | chain k => exact h us r hus hr.operand e r (chainRest_reads_of_stops hr)
  | negation => exact h us r hus hr
  | comparison => exact h us r hus hr
  | signed => exact h us r hus hr
  | primary => exact h us r hus hr

/-! ### Chains -/

variable {ts us : List Token} {l r : Expr}

theorem complete_operand (h : Complete s (operandLevel k) ts e) : Complete s (.chain k) ts e := by
  intro us r hus hr e' r' hrest
  refine chain_reads.2 ⟨e, r, ?_, hrest⟩
  rw [operand_eq]
  exact h.reads hus hr

theorem complete_chain {t : Token} {op : BinaryOp} (hl : Complete s (.chain k) ts l)
    (hop : Operates k t op) (hr : Complete s (operandLevel k) us r) :
    Complete s (.chain k) (ts ++ t :: us) (.binary op l r) := by
  intro vs w hvs hw e' r' hrest
  obtain ⟨xs, ys, rfl, hxs, hys⟩ := List.map_eq_append_iff.1 hvs
  obtain ⟨o, zs, rfl, ho, hzs⟩ := List.map_eq_cons_iff.1 hys
  have hstop : Stops (operandLevel k) (o :: zs ++ w) := by
    rw [List.cons_append, stops_cons, ho, grade_of_operates hop]
    exact levelRank_operandLevel k
  rw [List.append_assoc]
  refine hl xs _ hxs hstop e' r' ?_
  refine (chainRest_operator_reads (operator?_eq_some.2 (ho ▸ hop))).2 ⟨r, w, ?_, hrest⟩
  rw [operand_eq]
  exact hr.reads hzs hw

/-! ### Comparisons and prefix operators -/

theorem relation?_of_stops {r : List Lexeme} (h : Stops .comparison r) : relation? r = none := by
  cases hr : relation? r with
  | none => rfl
  | some p =>
    obtain ⟨l, rfl, hl⟩ := relation?_eq_some.1 hr
    have hgrade := stops_cons.1 h
    rw [hl] at hgrade
    exact absurd hgrade (Nat.lt_irrefl 4)

theorem complete_sum (h : Complete s (.chain .sum) ts e) : Complete s .comparison ts e := by
  intro us r hus hr
  refine comparison_reads.2 ⟨e, r, h.reads hus (hr.mono (by decide)), ?_⟩
  rw [relation?_of_stops hr]
  exact ⟨rfl, rfl⟩

theorem complete_relation (op : Relation) (hl : Complete s (.chain .sum) ts l)
    (hr : Complete s (.chain .sum) us r) :
    Complete s .comparison (ts ++ .relation op :: us) (.binary (.relation op) l r) := by
  intro vs w hvs hw
  obtain ⟨xs, ys, rfl, hxs, hys⟩ := List.map_eq_append_iff.1 hvs
  obtain ⟨o, zs, rfl, ho, hzs⟩ := List.map_eq_cons_iff.1 hys
  have hstop : Stops (.chain .sum) (o :: zs ++ w) := by
    rw [List.cons_append, stops_cons, ho]
    exact Nat.lt_succ_self 3
  rw [List.append_assoc]
  refine comparison_reads.2 ⟨l, _, hl.reads hxs hstop, ?_⟩
  rw [List.cons_append, relation?_eq_some.2 ⟨o, rfl, ho⟩]
  exact ⟨r, hr.reads hzs (hw.mono (by decide)), rfl⟩

theorem complete_not (h : Complete s .negation ts e) :
    Complete s .negation (.word .notWord :: ts) (.unary .not e) := by
  intro us r hus hr
  obtain ⟨o, us, rfl, ho, hus⟩ := List.map_eq_cons_iff.1 hus
  exact (negation_not_reads ho).2 ⟨e, h.reads hus hr, rfl⟩

theorem complete_comparison (h : Complete s .comparison ts e)
    (hderives : Derives c .comparison ts e) : Complete s .negation ts e := by
  intro us r hus hr
  obtain ⟨t, vs, rfl, -, hnot, -⟩ := derives_head hderives
  obtain ⟨o, us, rfl, rfl, hvs⟩ := List.map_eq_cons_iff.1 hus
  rw [List.cons_append, negation_other (hnot (by decide)), ← List.cons_append]
  exact h.reads hus (hr.mono (by decide))

theorem complete_minus (h : Complete s .signed ts e) :
    Complete s .signed (.minus :: ts) (negated e) := by
  intro us r hus hr
  obtain ⟨o, us, rfl, ho, hus⟩ := List.map_eq_cons_iff.1 hus
  exact (signed_minus_reads ho).2 ⟨e, h.reads hus hr, rfl⟩

theorem complete_signed (h : Complete s .primary ts e) (hderives : Derives c .primary ts e) :
    Complete s .signed ts e := by
  intro us r hus hr
  obtain ⟨t, vs, rfl, -, -, hminus⟩ := derives_head hderives
  obtain ⟨o, us, rfl, rfl, hvs⟩ := List.map_eq_cons_iff.1 hus
  rw [List.cons_append, signed_other (hminus rfl), ← List.cons_append]
  exact h.reads hus (hr.mono (by decide))

/-! ### Primaries -/

theorem complete_literal {t : Token} {v : Value} (h : Denotes t v) :
    Complete s .primary [t] (.literal v) := by
  intro us r hus hr
  obtain ⟨o, us, rfl, rfl, hnil⟩ := List.map_eq_cons_iff.1 hus
  obtain rfl := List.map_eq_nil_iff.1 hnil
  exact (primary_literal_reads (literal?_eq_some.2 h)).2 ⟨rfl, rfl⟩

theorem complete_column {name : String} {a : AttributeEntry}
    (ha : s.catalog.findAttribute? name = some a) :
    Complete s .primary [.identifier name] (.column a.subject) := by
  intro us r hus hr
  obtain ⟨o, us, rfl, ho, hnil⟩ := List.map_eq_cons_iff.1 hus
  obtain rfl := List.map_eq_nil_iff.1 hnil
  have hcolumn := (columnAt_reads (l := o) (r := r)).2 ⟨a, ha, rfl, rfl⟩
  change (primary s (o :: r)).Reads _ r
  rw [primary_identifier ho]
  match r with
  | [] => rwa [named_nil]
  | p :: r =>
    have hp : p.token ≠ .leftParen := by
      intro hp
      have hgrade := stops_cons.1 hr
      rw [hp] at hgrade
      exact absurd hgrade (Nat.lt_irrefl 0)
    rwa [named_column hp]

theorem complete_parens (h : Complete s (.chain .disjunction) ts e) :
    Complete s .primary (.leftParen :: ts ++ [.rightParen]) e := by
  intro us r hus hr
  obtain ⟨o, us, rfl, ho, hus⟩ := List.map_eq_cons_iff.1 hus
  obtain ⟨us, ps, rfl, hts, hps⟩ := List.map_eq_append_iff.1 hus
  obtain ⟨p, ps, rfl, hp, hnil⟩ := List.map_eq_cons_iff.1 hps
  obtain rfl := List.map_eq_nil_iff.1 hnil
  have hstop : Stops (.chain .disjunction) (p :: r) := by
    rw [stops_cons, hp]
    decide
  have hsplit : o :: (us ++ [p]) ++ r = o :: (us ++ p :: r) := by simp
  rw [hsplit]
  exact (primary_parens_reads ho).2 ⟨p, h.reads hts hstop, hp⟩

/-- Arguments between commas are read one after the other. -/
theorem argumentList_reads_of_complete {f : Function} {args : List (List Token × Expr)}
    (hne : args ≠ []) (hargs : ∀ a ∈ args, Complete s (.chain .disjunction) a.1 a.2 ∧
      Derives c (.chain .disjunction) a.1 a.2) {us r : List Lexeme}
    (hus : us.map Lexeme.token = commaSeparated (args.map Prod.fst) ++ [.rightParen]) :
    (argumentList s f (us ++ r)).Reads (args.map Prod.snd) r := by
  induction args generalizing us with
  | nil => exact absurd rfl hne
  | cons a args ih =>
    obtain ⟨⟨hcomplete, hderives⟩, hargs⟩ := List.forall_mem_cons.1 hargs
    obtain ⟨t, vs, ha, hstart, -⟩ := derives_head hderives
    have hfront {xs ys : List Lexeme} (hxs : xs.map Lexeme.token = a.1) :
        (s.front (xs ++ ys)).token.startsExpression = true := by
      obtain ⟨o, xs, rfl, rfl, -⟩ := List.map_eq_cons_iff.1 (hxs.trans ha)
      exact hstart
    by_cases hnil : args = []
    · subst hnil
      rw [List.map_singleton, commaSeparated_singleton] at hus
      obtain ⟨us, ps, rfl, hfirst, hps⟩ := List.map_eq_append_iff.1 hus
      obtain ⟨p, ps, rfl, hp, hpnil⟩ := List.map_eq_cons_iff.1 hps
      obtain rfl := List.map_eq_nil_iff.1 hpnil
      have hstop : Stops (.chain .disjunction) (p :: r) := by
        rw [stops_cons, hp]
        decide
      rw [List.append_assoc]
      exact argumentList_reads.2 ⟨hfront hfirst, a.2, p, r, hcomplete.reads hfirst hstop,
        Or.inl ⟨hp, rfl, rfl⟩⟩
    · rw [List.map_cons, commaSeparated_cons _ (by simpa using hnil), List.append_assoc] at hus
      obtain ⟨us, ps, rfl, hfirst, hps⟩ := List.map_eq_append_iff.1 hus
      obtain ⟨p, ps, rfl, hp, hps⟩ := List.map_eq_cons_iff.1 hps
      have hstop : Stops (.chain .disjunction) (p :: ps ++ r) := by
        rw [List.cons_append, stops_cons, hp]
        decide
      rw [List.append_assoc]
      exact argumentList_reads.2 ⟨hfront hfirst, a.2, p, ps ++ r, hcomplete.reads hfirst hstop,
        Or.inr ⟨hp, _, ih hnil hargs hps, rfl⟩⟩

theorem skipStar_of_ne_star {f : Function} {l : Lexeme} {r : List Lexeme} (hl : l.token ≠ .star) :
    skipStar f (l :: r) = l :: r := by
  rcases skipStar_cases f (l :: r) with h | ⟨-, l', p, r', hlr, hstar, -⟩
  · exact h
  · obtain ⟨rfl, -⟩ := List.cons.inj hlr
    exact absurd hstar hl

theorem arguments_reads_of_complete {f : Function} {args : List (List Token × Expr)}
    (hargs : ∀ a ∈ args, Complete s (.chain .disjunction) a.1 a.2 ∧
      Derives c (.chain .disjunction) a.1 a.2) {us r : List Lexeme}
    (hus : us.map Lexeme.token = commaSeparated (args.map Prod.fst) ++ [.rightParen]) :
    (arguments s f (us ++ r)).Reads (args.map Prod.snd) r := by
  by_cases hnil : args = []
  · subst hnil
    obtain ⟨p, us, rfl, hp, hpnil⟩ := List.map_eq_cons_iff.1 hus
    obtain rfl := List.map_eq_nil_iff.1 hpnil
    have hstar : p.token ≠ .star := by
      rw [hp]
      decide
    exact (arguments_nil_reads (skipStar_of_ne_star hstar) hp).2 ⟨rfl, rfl⟩
  · have hlist := argumentList_reads_of_complete (f := f) (r := r) hnil hargs hus
    -- the first token of the list begins an expression: neither a star nor a parenthesis is ahead
    have hfront := (argumentList_reads.1 hlist).1
    match us with
    | [] => simp at hus
    | l :: us =>
      have hl : l.token.startsExpression = true := hfront
      have hstar : l.token ≠ .star := by
        intro h
        rw [h] at hl
        cases hl
      have hparen : l.token ≠ .rightParen := by
        intro h
        rw [h] at hl
        cases hl
      exact (arguments_list_reads (skipStar_of_ne_star hstar) hparen).2 hlist

theorem complete_call {name : String} {f : FunctionEntry}
    (hf : s.catalog.findFunction? name = some f) {args : List (List Token × Expr)}
    (hadmits : s.Admits (.call f.function (args.map Prod.snd)))
    (hargs : ∀ a ∈ args, Complete (s.within f.function) (.chain .disjunction) a.1 a.2 ∧
      Derives c (.chain .disjunction) a.1 a.2) :
    Complete s .primary
      (.identifier name :: .leftParen :: commaSeparated (args.map Prod.fst) ++ [.rightParen])
      (.call f.function (args.map Prod.snd)) := by
  intro us r hus hr
  obtain ⟨o, us, rfl, ho, hus⟩ := List.map_eq_cons_iff.1 hus
  obtain ⟨p, us, rfl, hp, hus⟩ := List.map_eq_cons_iff.1 hus
  obtain ⟨haccepts, hpredicate, haggregate, -⟩ :=
    (Scope.admits_call (Catalog.mem_of_findFunction? hf)).1 hadmits
  change (primary s (o :: p :: (us ++ r))).Reads _ r
  rw [primary_identifier ho]
  exact (named_call_reads hp).2 ⟨f, _, callee_eq_ok.2 ⟨hf, hpredicate, haggregate⟩,
    arguments_reads_of_complete hargs hus, call_eq_ok.2 ⟨haccepts, rfl⟩⟩

theorem complete_countStar {name : String} {f : FunctionEntry}
    (hf : s.catalog.findFunction? name = some f) (hcount : f.function = .aggregate .count)
    (hadmits : s.Admits (.call f.function [])) :
    Complete s .primary [.identifier name, .leftParen, .star, .rightParen]
      (.call f.function []) := by
  intro us r hus hr
  obtain ⟨o, us, rfl, ho, hus⟩ := List.map_eq_cons_iff.1 hus
  obtain ⟨p, us, rfl, hp, hus⟩ := List.map_eq_cons_iff.1 hus
  obtain ⟨l, us, rfl, hl, hus⟩ := List.map_eq_cons_iff.1 hus
  obtain ⟨q, us, rfl, hq, hnil⟩ := List.map_eq_cons_iff.1 hus
  obtain rfl := List.map_eq_nil_iff.1 hnil
  obtain ⟨haccepts, hpredicate, haggregate, -⟩ :=
    (Scope.admits_call (Catalog.mem_of_findFunction? hf)).1 hadmits
  have hskip : skipStar f.function (l :: q :: r) = q :: r := by
    rw [skipStar, if_pos ⟨hcount, hl, hq⟩]
  change (primary s (o :: p :: l :: q :: r)).Reads _ r
  rw [primary_identifier ho]
  exact (named_call_reads hp).2 ⟨f, [], callee_eq_ok.2 ⟨hf, hpredicate, haggregate⟩,
    (arguments_nil_reads hskip hq).2 ⟨rfl, rfl⟩, call_eq_ok.2 ⟨haccepts, rfl⟩⟩

/-! ### All derivations -/

theorem complete (h : Derives c level ts e) (hs : s.catalog = c) (hadmits : s.Admits e) :
    Complete s level ts e := by
  induction h generalizing s with
  | operand h ih => exact complete_operand (ih hs hadmits)
  | chain hl hop hr ihl ihr =>
    obtain ⟨hal, har⟩ := Scope.admits_binary.1 hadmits
    exact complete_chain (ihl hs hal) hop (ihr hs har)
  | not h ih => exact complete_not (ih hs (Scope.admits_unary.1 hadmits))
  | comparison h ih => exact complete_comparison (ih hs hadmits) h
  | sum h ih => exact complete_sum (ih hs hadmits)
  | relation op hl hr ihl ihr =>
    obtain ⟨hal, har⟩ := Scope.admits_binary.1 hadmits
    exact complete_relation op (ihl hs hal) (ihr hs har)
  | minus h ih => exact complete_minus (ih hs (Scope.admits_negated.1 hadmits))
  | primary h ih => exact complete_signed (ih hs hadmits) h
  | literal h => exact complete_literal h
  | column ha => exact complete_column (hs ▸ ha)
  | @call name f hf args hargs ih =>
    subst hs
    have hinner := ((Scope.admits_call (Catalog.mem_of_findFunction? hf)).1 hadmits).2.2.2
    exact complete_call hf hadmits fun a ha =>
      ⟨ih a ha rfl (hinner a.2 (List.mem_map_of_mem ha)), hargs a ha⟩
  | countStar hf hcount => exact complete_countStar (hs ▸ hf) hcount hadmits
  | parens h ih => exact complete_parens (ih hs hadmits)

/-- A phrase that is derivable and legal is read if the parser stops behind it. -/
theorem reads_of_derives {us r : List Lexeme}
    (h : Derives s.catalog level (us.map Lexeme.token) e) (hadmits : s.Admits e)
    (hr : Stops level r) : (parseLevel s level (us ++ r)).Reads e r :=
  (complete h rfl hadmits).reads rfl hr

end ExprParser

end FileQuery
