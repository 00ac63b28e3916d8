import FileQuery.Proofs.Query.Legality
import FileQuery.Proofs.Query.Reading

/-!
# Parsed expressions are derivable

Whatever a parser of expressions reads, the lexemes that it takes off the front are derivable at its
level, and the expression is legal at its place. Each level is sound for lists up to some length if
the level below it is; primaries are if all expressions are for shorter lists. The lengths carry the
induction.

## Main definitions

* `FileQuery.ExprParser.Sound`: what a level reads is derivable and legal.

## Main results

* `FileQuery.ExprParser.sound`: every level is sound for all lists.
-/

namespace FileQuery

namespace ExprParser

open Grammar

/-- What the parser of a level reads off a list of at most `n` lexemes is derivable there and
legal. -/
def Sound (n : Nat) (s : Scope) (level : Level) : Prop :=
  ∀ ts e r, ts.length ≤ n → (parseLevel s level ts).Reads e r →
    ∃ us, ts = us ++ r ∧ Derives s.catalog level (us.map Lexeme.token) e ∧ s.Admits e

variable {n : Nat} {s : Scope}

theorem Sound.mono {m : Nat} {level : Level} (h : Sound n s level) (hmn : m ≤ n) :
    Sound m s level :=
  fun ts e r hts => h ts e r (Nat.le_trans hts hmn)

/-- A level that reads what a tighter one reads. -/
theorem Sound.lift {level tighter : Level} (h : Sound n s tighter)
    (hderives : ∀ ts e, Derives s.catalog tighter ts e → Derives s.catalog level ts e)
    {ts r : List Lexeme} {e : Expr} (hts : ts.length ≤ n)
    (hreads : (parseLevel s tighter ts).Reads e r) :
    ∃ us, ts = us ++ r ∧ Derives s.catalog level (us.map Lexeme.token) e ∧ s.Admits e := by
  obtain ⟨us, hus, hd, hadmits⟩ := h ts e r hts hreads
  exact ⟨us, hus, hderives _ _ hd, hadmits⟩

/-! ### Chains -/

/-- The rest of a chain extends what is derived of it so far. -/
theorem derives_of_chainRest {k : Chain} (h : Sound n s (operandLevel k)) {left e : Expr}
    {ts r : List Lexeme} (hts : ts.length ≤ n) (hreads : (chainRest s k left ts).Reads e r)
    {ps : List Token} (hleft : Derives s.catalog (.chain k) ps left) (hadmits : s.Admits left) :
    ∃ us, ts = us ++ r ∧ Derives s.catalog (.chain k) (ps ++ us.map Lexeme.token) e ∧
      s.Admits e := by
  induction n generalizing left ts ps with
  | zero =>
    obtain rfl := List.length_eq_zero_iff.1 (Nat.le_zero.1 hts)
    obtain ⟨rfl, rfl⟩ := chainRest_nil_reads.1 hreads
    exact ⟨[], rfl, by rwa [List.map_nil, List.append_nil], hadmits⟩
  | succ n ih =>
    match ts with
    | [] =>
      obtain ⟨rfl, rfl⟩ := chainRest_nil_reads.1 hreads
      exact ⟨[], rfl, by rwa [List.map_nil, List.append_nil], hadmits⟩
    | l :: ts =>
      rw [List.length_cons] at hts
      cases hop : k.operator? l.token with
      | none =>
        obtain ⟨rfl, rfl⟩ := (chainRest_stop_reads hop).1 hreads
        exact ⟨[], rfl, by rwa [List.map_nil, List.append_nil], hadmits⟩
      | some op =>
        obtain ⟨right, vs, hright, hrest⟩ := (chainRest_operator_reads hop).1 hreads
        rw [operand_eq] at hright
        have hshorter := hright.shorter
        obtain ⟨us, rfl, hus, hadmits'⟩ := h ts right vs (by omega) hright
        obtain ⟨ws, rfl, hws, hadmits⟩ := ih (h.mono (Nat.le_succ n)) (by omega) hrest
          (.chain hleft (operator?_eq_some.1 hop) hus)
          (Scope.admits_binary.2 ⟨hadmits, hadmits'⟩)
        refine ⟨l :: us ++ ws, by simp, ?_, hadmits⟩
        simpa using hws

theorem sound_chain {k : Chain} (h : Sound n s (operandLevel k)) : Sound n s (.chain k) := by
  intro ts e r hts hreads
  obtain ⟨left, vs, hleft, hrest⟩ := chain_reads.1 hreads
  rw [operand_eq] at hleft
  have hshorter := hleft.shorter
  obtain ⟨us, rfl, hus, hadmits⟩ := h ts left vs hts hleft
  obtain ⟨ws, rfl, hws, hadmits⟩ := derives_of_chainRest h (by omega) hrest (.operand hus) hadmits
  refine ⟨us ++ ws, (List.append_assoc _ _ _).symm, ?_, hadmits⟩
  rw [List.map_append]
  exact hws

/-! ### Comparisons and prefix operators -/

theorem sound_comparison (h : Sound n s (.chain .sum)) : Sound n s .comparison := by
  intro ts e r hts hreads
  obtain ⟨left, vs, hleft, hrest⟩ := comparison_reads.1 hreads
  have hshorter := hleft.shorter
  obtain ⟨us, rfl, hus, hadmits⟩ := h ts left vs hts hleft
  cases hrelation : relation? vs with
  | none =>
    rw [hrelation] at hrest
    obtain ⟨rfl, rfl⟩ := hrest
    exact ⟨us, rfl, .sum hus, hadmits⟩
  | some p =>
    obtain ⟨op, ws⟩ := p
    rw [hrelation] at hrest
    obtain ⟨right, hright, rfl⟩ := hrest
    obtain ⟨l, rfl, hl⟩ := relation?_eq_some.1 hrelation
    rw [List.length_cons] at hshorter
    obtain ⟨xs, rfl, hxs, hadmits'⟩ := h ws right r (by omega) hright
    refine ⟨us ++ l :: xs, by simp, ?_, Scope.admits_binary.2 ⟨hadmits, hadmits'⟩⟩
    rw [List.map_append, List.map_cons, hl]
    exact .relation op hus hxs

theorem sound_negation (h : Sound n s .comparison) : Sound n s .negation := by
  intro ts
  induction ts with
  | nil =>
    intro e r hts hreads
    exact h.lift (fun _ _ => .comparison) hts (negation_nil ▸ hreads)
  | cons l ts ih =>
    intro e r hts hreads
    by_cases hl : l.token = .word .notWord
    · obtain ⟨e', he', rfl⟩ := (negation_not_reads hl).1 hreads
      obtain ⟨us, rfl, hus, hadmits⟩ := ih e' r (Nat.le_of_succ_le hts) he'
      refine ⟨l :: us, rfl, ?_, Scope.admits_unary.2 hadmits⟩
      rw [List.map_cons, hl]
      exact .not hus
    · exact h.lift (fun _ _ => .comparison) hts (negation_other hl ▸ hreads)

theorem sound_signed (h : Sound n s .primary) : Sound n s .signed := by
  intro ts
  induction ts with
  | nil =>
    intro e r hts hreads
    exact h.lift (fun _ _ => .primary) hts (signed_nil ▸ hreads)
  | cons l ts ih =>
    intro e r hts hreads
    by_cases hl : l.token = .minus
    · obtain ⟨e', he', rfl⟩ := (signed_minus_reads hl).1 hreads
      obtain ⟨us, rfl, hus, hadmits⟩ := ih e' r (Nat.le_of_succ_le hts) he'
      refine ⟨l :: us, rfl, ?_, Scope.admits_negated.2 hadmits⟩
      rw [List.map_cons, hl]
      exact .minus hus
    · exact h.lift (fun _ _ => .primary) hts (signed_other hl ▸ hreads)

/-! ### Primaries -/

theorem derives_of_argumentList (h : Sound n s (.chain .disjunction)) {f : Function}
    {ts r : List Lexeme} {args : List Expr} (hts : ts.length ≤ n)
    (hreads : (argumentList s f ts).Reads args r) :
    ∃ (parts : List (List Token × Expr)) (us : List Lexeme), parts ≠ [] ∧ ts = us ++ r ∧
      us.map Lexeme.token = commaSeparated (parts.map Prod.fst) ++ [.rightParen] ∧
      parts.map Prod.snd = args ∧
      ∀ p ∈ parts, Derives s.catalog (.chain .disjunction) p.1 p.2 ∧ s.Admits p.2 := by
  induction n generalizing ts args with
  | zero =>
    obtain rfl := List.length_eq_zero_iff.1 (Nat.le_zero.1 hts)
    obtain ⟨-, a, l, us, ha, -⟩ := argumentList_reads.1 hreads
    exact absurd ha.shorter (Nat.not_lt_zero _)
  | succ n ih =>
    obtain ⟨-, a, l, vs, ha, hrest⟩ := argumentList_reads.1 hreads
    have hshorter := ha.shorter
    rw [List.length_cons] at hshorter
    obtain ⟨us, rfl, hus, hadmits⟩ := h ts a (l :: vs) hts ha
    rcases hrest with ⟨hl, rfl, rfl⟩ | ⟨hl, as, has, rfl⟩
    · refine ⟨[(us.map Lexeme.token, a)], us ++ [l], by simp, by simp, ?_, rfl, ?_⟩
      · rw [List.map_append, List.map_singleton, List.map_singleton, commaSeparated_singleton, hl]
      · exact List.forall_mem_singleton.2 ⟨hus, hadmits⟩
    · obtain ⟨parts, ws, hparts, rfl, hws, rfl, hderives⟩ := ih (h.mono (Nat.le_succ n))
        (by omega) has
      refine ⟨(us.map Lexeme.token, a) :: parts, us ++ l :: ws, by simp, by simp, ?_, rfl, ?_⟩
      · rw [List.map_append, List.map_cons, List.map_cons, hws,
          commaSeparated_cons _ (by simpa using hparts), hl]
        simp
      · exact List.forall_mem_cons.2 ⟨⟨hus, hadmits⟩, hderives⟩

theorem derives_of_arguments (h : Sound n s (.chain .disjunction)) {f : Function}
    {ts r : List Lexeme} {args : List Expr} (hts : ts.length ≤ n)
    (hreads : (arguments s f ts).Reads args r) :
    (∃ (parts : List (List Token × Expr)) (us : List Lexeme), ts = us ++ r ∧
      us.map Lexeme.token = commaSeparated (parts.map Prod.fst) ++ [.rightParen] ∧
      parts.map Prod.snd = args ∧
      ∀ p ∈ parts, Derives s.catalog (.chain .disjunction) p.1 p.2 ∧ s.Admits p.2) ∨
    f = .aggregate .count ∧ args = [] ∧
      ∃ us, ts = us ++ r ∧ us.map Lexeme.token = [.star, .rightParen] := by
  rcases skipStar_cases f ts with hskip | ⟨hf, l, p, vs, rfl, hl, hp, hskip⟩
  · left
    match ts with
    | [] => exact absurd hreads (not_arguments_reads hskip)
    | l :: ts =>
      by_cases hl : l.token = .rightParen
      · obtain ⟨rfl, rfl⟩ := (arguments_nil_reads hskip hl).1 hreads
        exact ⟨[], [l], rfl, by rw [List.map_singleton, hl]; rfl, rfl, fun _ h => nomatch h⟩
      · obtain ⟨parts, us, -, hus⟩ := derives_of_argumentList h hts
          ((arguments_list_reads hskip hl).1 hreads)
        exact ⟨parts, us, hus⟩
  · right
    obtain ⟨rfl, rfl⟩ := (arguments_nil_reads hskip hp).1 hreads
    exact ⟨hf, rfl, [l, p], rfl, by rw [List.map_cons, List.map_singleton, hl, hp]⟩

/-- A name with what follows it is a call or a column. -/
theorem sound_named (h : ∀ f, Sound n (s.within f) (.chain .disjunction)) {name : String}
    {l : Lexeme} (hl : l.token = .identifier name) {ts r : List Lexeme} {e : Expr}
    (hts : ts.length ≤ n + 1) (hreads : (named s name l ts).Reads e r) :
    ∃ us, l :: ts = us ++ r ∧ Derives s.catalog .primary (us.map Lexeme.token) e ∧
      s.Admits e := by
  have hcolumn (hreads : (columnAt s name l ts).Reads e r) :
      ∃ us, l :: ts = us ++ r ∧ Derives s.catalog .primary (us.map Lexeme.token) e ∧
        s.Admits e := by
    obtain ⟨a, ha, rfl, rfl⟩ := columnAt_reads.1 hreads
    refine ⟨[l], rfl, ?_, Scope.admits_column _⟩
    rw [List.map_singleton, hl]
    exact .column ha
  match ts with
  | [] => exact hcolumn (named_nil ▸ hreads)
  | p :: ts =>
    by_cases hp : p.token = .leftParen
    · obtain ⟨f, args, hcallee, hargs, hcall⟩ := (named_call_reads hp).1 hreads
      obtain ⟨hfind, hpredicate, haggregate⟩ := callee_eq_ok.1 hcallee
      obtain ⟨haccepts, rfl⟩ := call_eq_ok.1 hcall
      have hmem := Catalog.mem_of_findFunction? hfind
      rcases derives_of_arguments (h f.function) (Nat.le_of_succ_le_succ hts) hargs with
        ⟨parts, us, rfl, hus, rfl, hparts⟩ | ⟨hcount, rfl, us, rfl, hus⟩
      · refine ⟨l :: p :: us, rfl, ?_, (Scope.admits_call hmem).2
          ⟨haccepts, hpredicate, haggregate, ?_⟩⟩
        · rw [List.map_cons, List.map_cons, hl, hp, hus]
          exact .call hfind parts fun p hp => (hparts p hp).1
        · intro a ha
          obtain ⟨p, hp, rfl⟩ := List.mem_map.1 ha
          exact (hparts p hp).2
      · refine ⟨l :: p :: us, rfl, ?_, (Scope.admits_call hmem).2
          ⟨haccepts, hpredicate, haggregate, fun _ h => nomatch h⟩⟩
        rw [List.map_cons, List.map_cons, hl, hp, hus]
        exact .countStar hfind hcount
    · exact hcolumn (named_column hp ▸ hreads)

theorem sound_primary (h : ∀ s, Sound n s (.chain .disjunction)) :
    Sound (n + 1) s .primary := by
  intro ts e r hts hreads
  match ts with
  | [] => exact absurd hreads not_primary_nil_reads
  | l :: ts =>
    have hts := Nat.le_of_succ_le_succ hts
    cases hliteral : literal? l.token with
    | some v =>
      obtain ⟨rfl, rfl⟩ := (primary_literal_reads hliteral).1 hreads
      refine ⟨[l], rfl, ?_, Scope.admits_literal v⟩
      exact .literal (literal?_eq_some.1 hliteral)
    | none =>
      by_cases hparen : l.token = .leftParen
      · obtain ⟨p, hinner, hp⟩ := (primary_parens_reads hparen).1 hreads
        obtain ⟨us, rfl, hus, hadmits⟩ := h s ts e (p :: r) hts hinner
        refine ⟨l :: us ++ [p], by simp, ?_, hadmits⟩
        rw [List.map_append, List.map_cons, List.map_singleton, hparen, hp]
        exact .parens hus
      · by_cases hname : ∃ name, l.token = .identifier name
        · obtain ⟨name, hname⟩ := hname
          refine sound_named (fun f => h (s.within f)) hname (Nat.le_succ_of_le hts) ?_
          rw [← primary_identifier hname]
          exact hreads
        · exact absurd hreads
            (not_primary_reads hliteral (fun name hl => hname ⟨name, hl⟩) hparen)

/-! ### All levels -/

/-- Every level is sound if primaries are. -/
theorem sound_of_primary (h : Sound n s .primary) (level : Level) : Sound n s level := by
  have hsum : Sound n s (.chain .sum) := sound_chain (sound_chain (sound_signed h))
  have hnegation : Sound n s .negation := sound_negation (sound_comparison hsum)
  match level with
  | .chain .disjunction => exact sound_chain (sound_chain hnegation)
  | .chain .conjunction => exact sound_chain hnegation
  | .chain .sum => exact hsum
  | .chain .product => exact sound_chain (sound_signed h)
  | .negation => exact hnegation
  | .comparison => exact sound_comparison hsum
  | .signed => exact sound_signed h
  | .primary => exact h

theorem sound (n : Nat) (s : Scope) (level : Level) : Sound n s level := by
  induction n generalizing s level with
  | zero =>
    refine sound_of_primary (fun ts e r hts hreads => ?_) level
    obtain rfl := List.length_eq_zero_iff.1 (Nat.le_zero.1 hts)
    exact absurd hreads not_primary_nil_reads
  | succ n ih => exact sound_of_primary (sound_primary fun s => ih s _) level

end ExprParser

end FileQuery
