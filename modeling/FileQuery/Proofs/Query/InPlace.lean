import FileQuery.Proofs.Query.Alike
import FileQuery.Proofs.Query.Chaining
import FileQuery.Proofs.Query.Restoring

/-!
# Reading in place

A cursor reads what the parser of lists reads. As long as the last lexeme is an end, which lies
ahead of the index or under it, there is a lexeme to read at every step, and an index that moves on
is the same as a list that gets shorter. What is taken and replaced by an end lies behind the index,
where nothing is read any more. Depths that are entered are left, so that none is left that was not
entered. The numbers of a text have no sign, so that no literal is the least integer and every
literal can be negated. Fuel is enough in proportion to the lexemes ahead: sixteen levels are
entered at most before one is read.

## Main definitions

* `FileQuery.Cursor.Stands`: a cursor in front of a list of lexemes.
* `FileQuery.Cursor.Reaches`, `FileQuery.Cursor.Mirrors`: steps that do not break off, and where
  they lead.

## Main results

* `FileQuery.Cursor.Mirrors.bind`, `FileQuery.Cursor.Reaches.within`: mirroring is kept by sequences
  and around arguments.
* `FileQuery.Cursor.mirrors_chain`: expressions are read alike.
-/

namespace FileQuery

namespace Parsed

variable {α β : Type} {m n : Nat}

@[simp] theorem toExcept_weaken (h : m ≤ n) (x : Parsed α m) :
    (x.weaken h).toExcept = x.toExcept := by
  cases x <;> rfl

end Parsed

namespace Cursor

open Step
open ExprParser (Chain literal? call)

variable {α β : Type}

/-! ### Where a cursor stands -/

/-- A cursor in front of a list of lexemes and the end behind them, at a place of a certain scope
and depth, in so many lexemes altogether. -/
structure Stands (s : Scope) (depth size : Nat) (ts : List Lexeme) (c : Cursor) : Prop where
  catalog : c.catalog = s.catalog
  inPredicate : c.inPredicate = s.inPredicate
  aggregateDepth : c.aggregateDepth = depth
  inAggregate : s.inAggregate = decide (0 < depth)
  ahead : c.lexemes.drop c.index = ts ++ [.endAt s.stop]
  length : c.lexemes.length = size
  lexical : ∀ l ∈ ts, l.token.Lexical

variable {s : Scope} {depth size : Nat} {ts us vs : List Lexeme} {c : Cursor}

namespace Stands

theorem length_eq (h : Stands s depth size ts c) : c.index + ts.length + 1 = size := by
  have hlength := congrArg List.length h.ahead
  rw [List.length_drop, List.length_append, List.length_singleton, h.length] at hlength
  omega

theorem getElem?_eq (h : Stands s depth size ts c) (i : Nat) :
    c.lexemes[c.index + i]? = (ts ++ [.endAt s.stop])[i]? := by
  rw [← List.getElem?_drop, h.ahead]

theorem last_eq (h : Stands s depth size ts c) :
    c.lexemes.getLast? = some (.endAt s.stop) := by
  have hne : c.lexemes.drop c.index ≠ [] := by
    rw [h.ahead]
    exact List.append_ne_nil_of_right_ne_nil _ (List.cons_ne_nil _ _)
  rw [← List.take_append_drop c.index c.lexemes, List.getLast?_append_of_ne_nil _ hne, h.ahead,
    List.getLast?_concat]

theorem next (h : Stands s depth size ts c) : Stands s depth size ts.tail c.next := by
  have hlength := h.length_eq
  rw [Cursor.next]
  cases ts with
  | nil =>
    rw [if_neg (by rw [h.length]; simp only [List.length_nil] at hlength; omega)]
    exact h
  | cons l ts =>
    rw [if_pos (by rw [h.length]; simp only [List.length_cons] at hlength; omega)]
    refine { h with ahead := ?_, lexical := (List.forall_mem_cons.1 h.lexical).2 }
    rw [← List.tail_drop, h.ahead]
    rfl

/-- An end in the place of the lexeme that is taken. -/
theorem take (h : Stands s depth size ts c) : Stands s depth size ts.tail
    (Cursor.next { c with lexemes := c.lexemes.set c.index (.endAt (s.front ts).position) }) := by
  have hahead : (c.lexemes.set c.index (.endAt (s.front ts).position)).drop c.index =
      .endAt (s.front ts).position :: (ts ++ [Lexeme.endAt s.stop]).tail := by
    rw [List.drop_set, if_neg (Nat.lt_irrefl _), Nat.sub_self, h.ahead]
    cases ts <;> rfl
  cases ts with
  | nil => exact next { h with ahead := hahead, length := List.length_set.trans h.length }
  | cons l ts =>
    have hset : Stands s depth size (.endAt l.position :: ts)
        { c with lexemes := c.lexemes.set c.index (.endAt l.position) } :=
      { h with
        ahead := hahead
        length := List.length_set.trans h.length
        lexical := List.forall_mem_cons.2 ⟨trivial, (List.forall_mem_cons.1 h.lexical).2⟩ }
    exact hset.next

end Stands

/-! ### Where steps lead -/

/-- From in front of a list a step does not break off. It leads to an outcome and in front of
another list, with the flags as they were. -/
def Reaches (s : Scope) (depth size : Nat) (ts : List Lexeme) (m : Step α)
    (r : Except ParseError α) (us : List Lexeme) : Prop :=
  ∀ c, Stands s depth size ts c → ∃ c', m.run c = .ok (r, c') ∧ Stands s depth size us c'

/-- A step leads where a parser of lists does. -/
abbrev Mirrors (s : Scope) (depth size : Nat) (ts : List Lexeme) (m : Step α) {n : Nat}
    (x : Parsed α n) : Prop :=
  Reaches s depth size ts m x.toExcept.1 x.toExcept.2

variable {m : Step α} {f : α → Step β} {a : α} {r : Except ParseError β} {e : ParseError} {n : Nat}

theorem Reaches.bind (h : Reaches s depth size ts m (.ok a) us)
    (hf : Reaches s depth size us (f a) r vs) : Reaches s depth size ts (m >>= f) r vs := by
  intro c hc
  obtain ⟨c₁, hrun, hc₁⟩ := h c hc
  obtain ⟨c₂, hrun', hc₂⟩ := hf c₁ hc₁
  exact ⟨c₂, (run_bind_of_ok hrun).trans hrun', hc₂⟩

theorem Reaches.bind_error (h : Reaches s depth size ts m (.error e) us) :
    Reaches s depth size ts (m >>= f) (.error e) us := by
  intro c hc
  obtain ⟨c₁, hrun, hc₁⟩ := h c hc
  exact ⟨c₁, run_bind_of_error hrun, hc₁⟩

/-- The lexemes ahead are those of a text. -/
theorem reaches_of_lexical {r : Except ParseError α}
    (h : (∀ l ∈ ts, l.token.Lexical) → Reaches s depth size ts m r us) :
    Reaches s depth size ts m r us :=
  fun c hc => h hc.lexical c hc

/-- A step that stays where it is. -/
theorem reaches_of_run {r : Except ParseError α}
    (h : ∀ c, Stands s depth size ts c → m.run c = .ok (r, c)) :
    Reaches s depth size ts m r ts :=
  fun c hc => ⟨c, h c hc, hc⟩

theorem reaches_pure (a : α) : Reaches s depth size ts (pure a : Step α) (.ok a) ts :=
  reaches_of_run fun _ _ => rfl

theorem reaches_throw (e : ParseError) : Reaches s depth size ts (throw e : Step α) (.error e) ts :=
  reaches_of_run fun _ _ => rfl

theorem reaches_ofOutcome (x : Except ParseError α) :
    Reaches s depth size ts (ofOutcome x) x ts :=
  reaches_of_run fun _ _ => rfl

theorem Mirrors.map {x : Parsed α n} (h : Mirrors s depth size ts m x) (g : α → β) :
    Mirrors s depth size ts (m >>= fun a => pure (g a)) (x.map g) := by
  cases x with
  | done a us hus => exact h.bind (reaches_pure _)
  | failed e us => exact h.bind_error

theorem Mirrors.weaken {x : Parsed α n} (h : Mirrors s depth size ts m x) {n' : Nat}
    (hn : n ≤ n') : Mirrors s depth size ts m (x.weaken hn) := by
  rw [Mirrors, Parsed.toExcept_weaken]
  exact h

/-! ### Single steps -/

theorem reaches_lexemeAt {i : Nat} {l : Lexeme} (h : (ts ++ [.endAt s.stop])[i]? = some l) :
    Reaches s depth size ts (lexemeAt i) (.ok l) ts := by
  refine reaches_of_run fun c hc => ?_
  rw [lexemeAt, run_bind_of_ok (run_get c), hc.getElem?_eq, h]
  rfl

theorem reaches_current : Reaches s depth size ts current (.ok (s.front ts)) ts :=
  reaches_lexemeAt (by cases ts <;> rfl)

theorem reaches_current_nil :
    Reaches s depth size [] current (.ok (.endAt s.stop)) [] := reaches_current

theorem reaches_current_cons (l : Lexeme) :
    Reaches s depth size (l :: ts) current (.ok l) (l :: ts) := reaches_current

theorem reaches_peek : Reaches s depth size ts peek (.ok (s.front ts.tail).token) ts := by
  refine reaches_of_run fun c hc => ?_
  rw [peek, run_bind_of_ok (run_get c), hc.getElem?_eq]
  cases ts with
  | nil => rfl
  | cons l ts => cases ts <;> rfl

theorem reaches_advance : Reaches s depth size ts advance (.ok ()) ts.tail :=
  fun c hc => ⟨c.next, run_advance c, hc.next⟩

theorem reaches_take : Reaches s depth size ts take (.ok (s.front ts)) ts.tail := by
  intro c hc
  obtain ⟨c₁, hcurrent, -⟩ := reaches_current c hc
  obtain ⟨rfl, -⟩ := of_run_current hcurrent
  refine ⟨_, ?_, hc.take⟩
  rw [Step.take, run_bind_of_ok hcurrent, run_bind_of_ok (run_modify _ _),
    run_bind_of_ok (run_advance _)]
  rfl

theorem reaches_failAt (e : String → Position → ParseError) :
    Reaches s depth size ts (failAt e : Step α)
      (.error (e (s.front ts).toText (s.front ts).position)) ts :=
  reaches_current.bind (reaches_throw _)

theorem reaches_expect {t : Token} (h : (s.front ts).token = t) {wanted : Expected} :
    Reaches s depth size ts (expect t wanted) (.ok ()) ts.tail := by
  refine reaches_current.bind ?_
  rw [if_pos h]
  exact reaches_advance

theorem reaches_expect_ne {t : Token} (h : (s.front ts).token ≠ t) {wanted : Expected} :
    Reaches s depth size ts (expect t wanted)
      (.error (.unexpectedToken wanted (s.front ts).toText (s.front ts).position)) ts := by
  refine reaches_current.bind ?_
  rw [if_neg h]
  exact reaches_failAt _

/-- A depth that is entered is left, whatever comes of the arguments. -/
theorem Reaches.within {g : Function} {r : Except ParseError α}
    (h : ∀ depth, Reaches (s.within g) depth size ts m r us) :
    Reaches s depth size ts (within g m) r us := by
  intro c hc
  rw [Step.within]
  cases hg : g.isAggregate with
  | false =>
    have hscope : s.within g = s := by
      rw [Scope.within, hg, Bool.or_false]
    have henter : (enter g).run c = .ok (.ok (), c) := by
      rw [enter, hg]
      rfl
    obtain ⟨c₁, hrun, hc₁⟩ := h depth c (hscope.symm ▸ hc)
    have hleave : (leave g).run c₁ = .ok (.ok (), c₁) := by
      rw [leave, hg]
      rfl
    refine ⟨c₁, ?_, hscope ▸ hc₁⟩
    rw [run_bind_of_ok henter, run_bind_of_ok (run_attempt_of_ok hrun), run_bind_of_ok hleave]
    rfl
  | true =>
    have henter : (enter g).run c =
        .ok (.ok (), { c with aggregateDepth := c.aggregateDepth + 1 }) := by
      rw [enter, hg]
      rfl
    have hinside : Stands (s.within g) (depth + 1) size ts
        { c with aggregateDepth := c.aggregateDepth + 1 } := by
      refine { hc with aggregateDepth := congrArg (· + 1) hc.aggregateDepth, inAggregate := ?_ }
      rw [Scope.within, hg, Bool.or_true]
      exact (decide_eq_true (Nat.succ_pos _)).symm
    obtain ⟨c₁, hrun, hc₁⟩ := h (depth + 1) _ hinside
    have hleave : (leave g).run c₁ = .ok (.ok (), { c₁ with aggregateDepth := depth }) := by
      rw [leave, hg, if_pos rfl, run_bind_of_ok (run_get c₁), hc₁.aggregateDepth]
      rfl
    refine ⟨{ c₁ with aggregateDepth := depth }, ?_,
      { hc₁ with aggregateDepth := rfl, inAggregate := hc.inAggregate }⟩
    rw [run_bind_of_ok henter, run_bind_of_ok (run_attempt_of_ok hrun), run_bind_of_ok hleave]
    rfl

/-! ### Names and numbers -/

theorem reaches_callee (name : String) (p : Position) :
    Reaches s depth size ts (callee name p) (ExprParser.callee s name p) ts := by
  refine reaches_of_run fun c hc => ?_
  rw [callee, run_bind_of_ok (run_get c), ExprParser.callee, hc.catalog, hc.inPredicate,
    hc.aggregateDepth, hc.inAggregate]
  cases s.catalog.findFunction? name with
  | none => rfl
  | some f =>
    dsimp only
    split
    · rfl
    · split <;> rfl

/-- The lexeme behind a name exists, since an end is there at least. -/
theorem mirrors_column (name : String) (l : Lexeme) :
    Mirrors s depth size (l :: ts) (column name l.position)
      (ExprParser.columnAt s name l ts) := by
  have hcolumn (a : Attribute) : Reaches s depth size (l :: ts)
      (advance >>= fun _ => pure (Expr.column a)) (.ok (.column a)) ts :=
    reaches_advance.bind (reaches_pure _)
  have hnext : Reaches s depth size (l :: ts) (lexemeAt 1) (.ok (s.front ts)) (l :: ts) :=
    reaches_lexemeAt (by cases ts <;> rfl)
  have hfunction (f : Function) : Reaches s depth size (l :: ts)
      (lexemeAt 1 >>= fun next => (throw (.missingOpeningParen f next.position) : Step Expr))
      (.error (.missingOpeningParen f (s.front ts).position)) (l :: ts) :=
    hnext.bind (reaches_throw _)
  intro c hc
  rw [column, run_bind_of_ok (run_get c), ExprParser.columnAt, ExprParser.column, hc.catalog]
  cases s.catalog.findAttribute? name with
  | some a => exact hcolumn _ c hc
  | none =>
    cases s.catalog.findFunction? name with
    | none => exact reaches_throw _ c hc
    | some f => exact hfunction _ c hc

theorem reaches_skipStar (f : Function) :
    Reaches s depth size ts (skipStar f) (.ok ()) (ExprParser.skipStar f ts) := by
  refine reaches_current.bind (reaches_peek.bind ?_)
  match ts with
  | [] | [_] =>
    rw [if_neg fun h => by cases h.2.2]
    exact reaches_pure ()
  | l :: p :: ts =>
    by_cases h : f = .aggregate .count ∧ l.token = .star ∧ p.token = .rightParen
    · rw [ExprParser.skipStar, if_pos h]
      exact (if_pos h).symm ▸ reaches_advance
    · rw [ExprParser.skipStar, if_neg h]
      exact (if_neg h).symm ▸ reaches_pure ()

theorem reaches_negated {e : Expr} (h : ∀ n, e = .literal (.integer n) → n ≠ Int64.minValue) :
    Reaches s depth size ts (negated e) (.ok (ExprParser.negated e)) ts := by
  unfold negated
  split
  · next n =>
    rw [if_neg (h n rfl)]
    exact reaches_pure _
  · exact reaches_pure _

/-- What is read off the lexemes of a text holds the least integer nowhere. -/
theorem lt_toInt_of_reads (level : Grammar.Level) {e : Expr} {n : Int64}
    (hts : ∀ l ∈ ts, l.token.Lexical) (h : (ExprParser.parseLevel s level ts).Reads e us)
    (hn : .literal (.integer n) ∈ e.nodes) : -2 ^ 63 < n.toInt := by
  obtain ⟨vs, rfl, hderives, -⟩ := ExprParser.sound _ s level ts e us (Nat.le_refl _) h
  have hlexical : ∀ t ∈ vs.map Lexeme.token, t.Lexical :=
    List.forall_mem_map.2 fun l hl => hts l (List.mem_append_left _ hl)
  exact Expr.writable_of_derives hderives hlexical hn fun x hx => by cases hx

/-! ### Expressions -/

/-- With some fuel all parsers of expressions mirror those of lists wherever the fuel is enough: in
front of lists that are short enough for it and for the levels that are entered before a lexeme is
read. -/
structure AllMirror (fuel : Nat) : Prop where
  chain : ∀ {s depth size ts} (k : Chain), 16 * ts.length + (k.rank + 1) < fuel →
    Mirrors s depth size ts (chain fuel k) (ExprParser.chain s k ts)
  operand : ∀ {s depth size ts} (k : Chain), 16 * ts.length + k.rank < fuel →
    Mirrors s depth size ts (operand fuel k) (ExprParser.operand s k ts)
  chainRest : ∀ {s depth size ts} (k : Chain) (left : Expr), 16 * ts.length < fuel →
    Mirrors s depth size ts (chainRest fuel k left) (ExprParser.chainRest s k left ts)
  negation : ∀ {s depth size ts}, 16 * ts.length + 7 < fuel →
    Mirrors s depth size ts (negation fuel) (ExprParser.negation s ts)
  comparison : ∀ {s depth size ts}, 16 * ts.length + 6 < fuel →
    Mirrors s depth size ts (comparison fuel) (ExprParser.comparison s ts)
  signed : ∀ {s depth size ts}, 16 * ts.length + 1 < fuel →
    Mirrors s depth size ts (signed fuel) (ExprParser.signed s ts)
  primary : ∀ {s depth size ts}, 16 * ts.length < fuel →
    Mirrors s depth size ts (primary fuel) (ExprParser.primary s ts)
  named : ∀ {s depth size ts} (name : String) (l : Lexeme), 16 * ts.length + 15 < fuel →
    Mirrors s depth size (l :: ts) (named fuel name l.position) (ExprParser.named s name l ts)
  arguments : ∀ {s depth size ts} (f : Function), 16 * ts.length + 14 < fuel →
    Mirrors s depth size ts (arguments fuel f) (ExprParser.arguments s f ts)
  argumentList : ∀ {s depth size ts} (f : Function), 16 * ts.length + 13 < fuel →
    Mirrors s depth size ts (argumentList fuel f) (ExprParser.argumentList s f ts)

namespace AllMirror

variable {fuel : Nat} (h : AllMirror fuel)

include h

theorem chain_succ (k : Chain) (hfuel : 16 * ts.length + (k.rank + 1) < fuel + 1) :
    Mirrors s depth size ts (Cursor.chain (fuel + 1) k) (ExprParser.chain s k ts) := by
  have hoperand : Mirrors s depth size ts (Cursor.operand fuel k) (ExprParser.operand s k ts) :=
    h.operand k (by omega)
  rw [ExprParser.chain]
  generalize ExprParser.operand s k ts = x at hoperand ⊢
  cases x with
  | failed e us => exact hoperand.bind_error
  | done left us hus =>
    have hrest : Mirrors s depth size us (Cursor.chainRest fuel k left)
        (ExprParser.chainRest s k left us) :=
      h.chainRest k left (by omega)
    exact hoperand.bind (hrest.weaken _)

theorem operand_succ (k : Chain) (hfuel : 16 * ts.length + k.rank < fuel + 1) :
    Mirrors s depth size ts (Cursor.operand (fuel + 1) k) (ExprParser.operand s k ts) := by
  cases k <;> rw [ExprParser.operand]
  case disjunction => exact h.chain _ (by simp only [Chain.rank] at hfuel ⊢; omega)
  case conjunction => exact h.negation (by simp only [Chain.rank] at hfuel; omega)
  case sum => exact h.chain _ (by simp only [Chain.rank] at hfuel ⊢; omega)
  case product => exact h.signed (by simp only [Chain.rank] at hfuel; omega)

theorem chainRest_succ (k : Chain) (left : Expr) (hfuel : 16 * ts.length < fuel + 1) :
    Mirrors s depth size ts (Cursor.chainRest (fuel + 1) k left)
      (ExprParser.chainRest s k left ts) := by
  cases ts with
  | nil =>
    have hend : k.operator? (Lexeme.endAt s.stop).token = none := by cases k <;> rfl
    refine reaches_current_nil.bind ?_
    rw [ExprParser.chainRest, hend]
    exact reaches_pure left
  | cons l ts =>
    refine (reaches_current_cons l).bind ?_
    rw [ExprParser.chainRest]
    cases k.operator? l.token with
    | none => exact reaches_pure left
    | some op =>
      have hrank : k.rank ≤ 10 := by cases k <;> decide
      rw [List.length_cons] at hfuel
      have hoperand : Mirrors s depth size ts (Cursor.operand fuel k)
          (ExprParser.operand s k ts) :=
        h.operand k (by omega)
      dsimp only
      generalize ExprParser.operand s k ts = x at hoperand ⊢
      cases x with
      | failed e us => exact reaches_advance.bind hoperand.bind_error
      | done right us hus =>
        have hrest : Mirrors s depth size us (Cursor.chainRest fuel k (.binary op left right))
            (ExprParser.chainRest s k (.binary op left right) us) :=
          h.chainRest k _ (by omega)
        exact reaches_advance.bind (hoperand.bind (hrest.weaken _))

theorem negation_succ (hfuel : 16 * ts.length + 7 < fuel + 1) :
    Mirrors s depth size ts (Cursor.negation (fuel + 1)) (ExprParser.negation s ts) := by
  cases ts with
  | nil =>
    refine reaches_current_nil.bind ?_
    rw [ExprParser.negation]
    exact h.comparison (by omega)
  | cons l ts =>
    refine (reaches_current_cons l).bind ?_
    rw [ExprParser.negation]
    by_cases hl : l.token = .word .notWord
    · rw [if_pos hl, if_pos hl]
      rw [List.length_cons] at hfuel
      have hnegation : Mirrors s depth size ts (Cursor.negation fuel) (ExprParser.negation s ts) :=
        h.negation (by omega)
      exact reaches_advance.bind ((hnegation.map _).weaken _)
    · rw [if_neg hl, if_neg hl]
      exact h.comparison (by omega)

theorem comparison_succ (hfuel : 16 * ts.length + 6 < fuel + 1) :
    Mirrors s depth size ts (Cursor.comparison (fuel + 1)) (ExprParser.comparison s ts) := by
  have hleft : Mirrors s depth size ts (Cursor.chain fuel .sum) (ExprParser.chain s .sum ts) :=
    h.chain .sum (by simp only [Chain.rank]; omega)
  rw [ExprParser.comparison]
  generalize ExprParser.chain s .sum ts = x at hleft ⊢
  cases x with
  | failed e us => exact hleft.bind_error
  | done left us hus =>
    refine hleft.bind ?_
    cases us with
    | nil => exact reaches_current_nil.bind (reaches_pure left)
    | cons l vs =>
      refine (reaches_current_cons l).bind ?_
      rw [List.length_cons] at hus
      have hright : Mirrors s depth size vs (Cursor.chain fuel .sum) (ExprParser.chain s .sum vs) :=
        h.chain .sum (by simp only [Chain.rank]; omega)
      dsimp only
      cases l.token with
      | relation op =>
        dsimp only
        generalize ExprParser.chain s .sum vs = y at hright ⊢
        cases y with
        | failed e ws => exact reaches_advance.bind hright.bind_error
        | done right ws hws => exact reaches_advance.bind (hright.bind (reaches_pure _))
      | _ => exact reaches_pure left

theorem signed_succ (hfuel : 16 * ts.length + 1 < fuel + 1) :
    Mirrors s depth size ts (Cursor.signed (fuel + 1)) (ExprParser.signed s ts) := by
  cases ts with
  | nil =>
    refine reaches_current_nil.bind ?_
    rw [ExprParser.signed]
    exact h.primary (by omega)
  | cons l ts =>
    refine (reaches_current_cons l).bind ?_
    rw [ExprParser.signed]
    by_cases hl : l.token = .minus
    · rw [if_pos hl, if_pos hl]
      rw [List.length_cons] at hfuel
      have hsigned : Mirrors s depth size ts (Cursor.signed fuel) (ExprParser.signed s ts) :=
        h.signed (by omega)
      refine reaches_advance.bind (reaches_of_lexical fun hts => ?_)
      -- what stands behind the sign can be negated
      have hne (e : Expr) (us : List Lexeme) (he : (ExprParser.signed s ts).Reads e us) (n : Int64)
          (hn : e = .literal (.integer n)) : n ≠ Int64.minValue := by
        have hlt : -2 ^ 63 < n.toInt :=
          lt_toInt_of_reads .signed hts he (hn ▸ Expr.self_mem_nodes e)
        rintro rfl
        exact absurd hlt (by decide)
      refine Mirrors.weaken (x := (ExprParser.signed s ts).map ExprParser.negated) ?_ _
      generalize ExprParser.signed s ts = x at hsigned hne ⊢
      cases x with
      | failed e us => exact hsigned.bind_error
      | done e us hus => exact hsigned.bind (reaches_negated (hne e us rfl))
    · rw [if_neg hl, if_neg hl]
      exact h.primary (by omega)

theorem primary_succ (hfuel : 16 * ts.length < fuel + 1) :
    Mirrors s depth size ts (Cursor.primary (fuel + 1)) (ExprParser.primary s ts) := by
  cases ts with
  | nil =>
    refine reaches_current_nil.bind ?_
    rw [ExprParser.primary]
    exact reaches_failAt _
  | cons l ts =>
    refine (reaches_current_cons l).bind ?_
    rw [List.length_cons] at hfuel
    have hinner : Mirrors s depth size ts (Cursor.chain fuel .disjunction)
        (ExprParser.chain s .disjunction ts) :=
      h.chain .disjunction (by simp only [Chain.rank]; omega)
    have hnamed (name : String) : Mirrors s depth size (l :: ts)
        (Cursor.named fuel name l.position) (ExprParser.named s name l ts) :=
      h.named name l (by omega)
    rw [ExprParser.primary]
    cases hliteral : literal? l.token with
    | some v =>
      have htake : Reaches s depth size (l :: ts) take (.ok l) ts := reaches_take
      refine htake.bind ?_
      rw [hliteral]
      exact reaches_pure _
    | none =>
      dsimp only
      cases l.token with
      | identifier name => exact hnamed name
      | leftParen =>
        refine reaches_advance.bind ?_
        dsimp only
        generalize ExprParser.chain s .disjunction ts = x at hinner ⊢
        cases x with
        | failed e us => exact hinner.bind_error
        | done e us hus =>
          refine hinner.bind ?_
          cases us with
          | nil =>
            have hend : (s.front []).token ≠ .rightParen := fun hp => by cases hp
            exact (reaches_expect_ne hend).bind_error
          | cons p vs =>
            dsimp only
            have hfront : (s.front (p :: vs)).token = p.token := rfl
            by_cases hp : p.token = .rightParen
            · rw [if_pos hp]
              exact (reaches_expect (hfront.trans hp)).bind (reaches_pure e)
            · rw [if_neg hp]
              exact (reaches_expect_ne fun h => hp (hfront.symm.trans h)).bind_error
      | _ => exact reaches_failAt _

theorem named_succ (name : String) (l : Lexeme) (hfuel : 16 * ts.length + 15 < fuel + 1) :
    Mirrors s depth size (l :: ts) (Cursor.named (fuel + 1) name l.position)
      (ExprParser.named s name l ts) := by
  refine reaches_peek.bind ?_
  cases ts with
  | nil =>
    rw [if_neg (fun hp => by cases hp), ExprParser.named]
    exact mirrors_column name l
  | cons p ts =>
    rw [ExprParser.named]
    have hfront : (s.front (l :: p :: ts).tail).token = p.token := rfl
    by_cases hp : p.token = .leftParen
    · rw [hfront, if_pos hp, if_pos hp]
      have hcallee : Reaches s depth size (l :: p :: ts) (Cursor.callee name l.position)
          (ExprParser.callee s name l.position) (l :: p :: ts) :=
        reaches_callee name l.position
      cases hf : ExprParser.callee s name l.position with
      | error e =>
        rw [hf] at hcallee
        exact hcallee.bind_error
      | ok f =>
        rw [hf] at hcallee
        refine hcallee.bind (reaches_advance.bind (reaches_advance.bind ?_))
        rw [List.length_cons] at hfuel
        have hargs (depth : Nat) : Mirrors (s.within f.function) depth size ts
            (Cursor.arguments fuel f.function)
            (ExprParser.arguments (s.within f.function) f.function ts) :=
          h.arguments _ (by omega)
        dsimp only
        generalize ExprParser.arguments (s.within f.function) f.function ts = x at hargs ⊢
        cases x with
        | failed e us => exact (Reaches.within hargs).bind_error
        | done args us hus =>
          refine (Reaches.within hargs).bind ?_
          dsimp only
          cases call f args l.position with
          | error e => exact reaches_ofOutcome _
          | ok e => exact reaches_ofOutcome _
    · rw [hfront, if_neg hp, if_neg hp]
      exact mirrors_column name l

theorem arguments_succ (f : Function) (hfuel : 16 * ts.length + 14 < fuel + 1) :
    Mirrors s depth size ts (Cursor.arguments (fuel + 1) f) (ExprParser.arguments s f ts) := by
  refine (reaches_skipStar f).bind ?_
  have hle := ExprParser.skipStar_length_le f ts
  cases hskip : ExprParser.skipStar f ts with
  | nil =>
    have hlist : Mirrors s depth size [] (Cursor.argumentList fuel f)
        (ExprParser.argumentList s f []) :=
      h.argumentList f (by rw [List.length_nil]; omega)
    have hstart : ¬(s.front []).token.startsExpression = true := fun hend => by cases hend
    rw [ExprParser.argumentList, if_neg hstart] at hlist
    rw [ExprParser.arguments_of_nil hskip]
    refine reaches_current_nil.bind ?_
    rw [if_neg fun hend => by cases hend]
    exact hlist
  | cons l us =>
    rw [hskip] at hle
    rw [ExprParser.arguments_of_cons hskip hle]
    refine (reaches_current_cons l).bind ?_
    by_cases hl : l.token = .rightParen
    · rw [if_pos hl, if_pos hl]
      exact reaches_advance.bind (reaches_pure _)
    · rw [if_neg hl, if_neg hl]
      exact (h.argumentList f (by omega)).weaken _

theorem argumentList_succ (f : Function) (hfuel : 16 * ts.length + 13 < fuel + 1) :
    Mirrors s depth size ts (Cursor.argumentList (fuel + 1) f)
      (ExprParser.argumentList s f ts) := by
  have hfirst : Mirrors s depth size ts (Cursor.chain fuel .disjunction)
      (ExprParser.chain s .disjunction ts) :=
    h.chain .disjunction (by simp only [Chain.rank]; omega)
  refine reaches_current.bind ?_
  rw [ExprParser.argumentList]
  by_cases hstart : (s.front ts).token.startsExpression = true
  · rw [if_pos hstart, if_pos hstart]
    generalize ExprParser.chain s .disjunction ts = x at hfirst ⊢
    cases x with
    | failed e us => exact hfirst.bind_error
    | done a us hus =>
      refine hfirst.bind ?_
      cases us with
      | nil => exact reaches_current_nil.bind (reaches_failAt _)
      | cons l vs =>
        refine (reaches_current_cons l).bind ?_
        rw [List.length_cons] at hus
        have hrest : Mirrors s depth size vs (Cursor.argumentList fuel f)
            (ExprParser.argumentList s f vs) :=
          h.argumentList f (by omega)
        dsimp only
        cases l.token with
        | comma => exact reaches_advance.bind ((hrest.map _).weaken _)
        | rightParen => exact reaches_advance.bind (reaches_pure _)
        | _ => exact reaches_failAt _
  · rw [if_neg hstart, if_neg hstart]
    exact reaches_failAt _

end AllMirror

theorem allMirror (fuel : Nat) : AllMirror fuel := by
  induction fuel with
  | zero => constructor <;> intros <;> omega
  | succ fuel ih => exact
    { chain := ih.chain_succ
      operand := ih.operand_succ
      chainRest := ih.chainRest_succ
      negation := ih.negation_succ
      comparison := ih.comparison_succ
      signed := ih.signed_succ
      primary := ih.primary_succ
      named := ih.named_succ
      arguments := ih.arguments_succ
      argumentList := ih.argumentList_succ }

/-- With fuel in proportion to all lexemes an expression is read alike wherever it begins. -/
theorem mirrors_chain {fuel : Nat} (hfuel : 16 * size ≤ fuel) (k : Chain) :
    Mirrors s depth size ts (chain fuel k) (ExprParser.chain s k ts) := by
  intro c hc
  have hlength := hc.length_eq
  have hrank : k.rank ≤ 10 := by cases k <;> decide
  exact (allMirror fuel).chain k (by omega) c hc

end Cursor

end FileQuery
