import FileQuery.Proofs.Query.InPlace
import FileQuery.Proofs.Query.Lockstep
import FileQuery.Proofs.Query.Resolution

/-!
# Every call is answered

Calls on a cursor over the lexemes of a text, one after the other and on after errors: each of them
returns, and what it returns is what the parser of lists gives. In between the cursor stands in
front of the lexemes that this parser has ahead. So its index lies in the list, whose last lexeme is
an end for ever, and no argument of an aggregate is left open.

## Main definitions

* `FileQuery.Cursor.Matches`: a step that does what a step of a parser does.
* `FileQuery.Parser.answers`: calls on a parser one after the other.

## Main results

* `FileQuery.Cursor.matches_query`: queries are read alike.
* `FileQuery.Cursor.answers_of_tokenize`: calls on the lexemes of a text are answered.
-/

namespace FileQuery

namespace Parser

variable {α β : Type} {p q : Parser} {x : Step α} {f : α → Step β} {a : α} {e : ParseError}

theorem run_bind_of_ok (h : x p = .ok a q) : p.run (x >>= f) = q.run (f a) := by
  have hbind : (x >>= f) p = f a q := by
    change EStateM.bind x f p = _
    rw [EStateM.bind, h]
  rw [run, EStateM.run, hbind]
  rfl

theorem run_bind_of_error (h : x p = .error e q) : p.run (x >>= f) = (.error e, q) := by
  have hbind : (x >>= f) p = .error e q := by
    change EStateM.bind x f p = _
    rw [EStateM.bind, h]
  rw [run, EStateM.run, hbind]

/-! ### Calls on a parser -/

/-- What a parser does for a call on a cursor. -/
def answer : Cursor.Call → Step (Query ⊕ Expr)
  | .query => Sum.inl <$> query
  | .expression => Sum.inr <$> expression
  | .sum => Sum.inr <$> sum

/-- The outcomes of calls one after the other, each from where the last one has stopped. -/
def answers : List Cursor.Call → Parser → List (Except ParseError (Query ⊕ Expr)) × Parser
  | [], p => ([], p)
  | k :: ks, p =>
    let (outcome, p) := p.run (answer k)
    let (outcomes, p) := answers ks p
    (outcome :: outcomes, p)

theorem length_answers (ks : List Cursor.Call) (p : Parser) :
    (answers ks p).1.length = ks.length := by
  induction ks generalizing p with
  | nil => rfl
  | cons k ks ih => exact congrArg (· + 1) (ih _)

/-! ### Numbers in what is read -/

/-- The expressions of a query, or the one expression. -/
def expressionsOf : Query ⊕ Expr → List Expr
  | .inl q => q.expressions
  | .inr e => [e]

variable {n : Int64} {ts r : List Lexeme} {s : Scope}

theorem lt_toInt_of_projections {ps : List Projection} (hts : ∀ l ∈ ts, l.token.Lexical)
    (h : (projections s ts).Reads ps r) {i : Projection} (hi : i ∈ ps)
    (hn : .literal (.integer n) ∈ i.expr.nodes) : -2 ^ 63 < n.toInt := by
  obtain ⟨items, us, -, -, -, rfl, hus, rfl, hitems, -, -, -⟩ := derives_of_projections h
  have hlexical : ∀ t ∈ Grammar.commaSeparated (items.map Prod.fst), t.Lexical := by
    rw [← hus]
    exact List.forall_mem_map.2 fun l hl => hts l (List.mem_append_left _ hl)
  rcases Grammar.exists_derives_of_items hitems hi with ⟨d, -, ha⟩ | ⟨vs, hvs, hderives⟩
  · rw [ha, Expr.nodes, List.mem_singleton] at hn
    cases hn
  · exact Expr.writable_of_derives hderives (fun t ht => hlexical t (hvs.subset ht)) hn
      fun x hx => by cases hx

/-- No query that is read from a text holds the least integer. -/
theorem lt_toInt_of_query {query' : Query} (hp : ∀ l ∈ p.ahead, l.token.Lexical)
    (h : query p = .ok query' q) :
    ∀ e ∈ query'.expressions, .literal (.integer n) ∈ e.nodes → -2 ^ 63 < n.toInt := by
  obtain ⟨-, ps, r, source, p₂, predicate, p₃, keys, p₄, limit, p₅, hprojections, hsource,
    hpredicate, -, -, -, rfl, -⟩ := query_eq_ok.1 h
  have htail : ∀ l ∈ p.ahead.tail, l.token.Lexical := fun l hl => hp l (List.mem_of_mem_tail hl)
  refine Query.forall_mem_expressions.2
    ⟨fun i hi => lt_toInt_of_projections htail hprojections hi, fun e he hn => ?_⟩
  obtain ⟨t, r₂, hr, -, -, rfl⟩ := source_eq_ok.1 hsource
  rcases predicate_eq_ok.1 hpredicate with ⟨-, rfl, -⟩ | ⟨-, e', r₃, hreads, rfl, -⟩
  · cases he
  · obtain rfl := Option.some.inj he
    obtain ⟨items, us, l, r', -, hsplit, -, -, -, -, rfl, -⟩ := derives_of_projections hprojections
    obtain rfl : r' = t :: r₂ := hr
    refine Cursor.lt_toInt_of_reads (.chain .disjunction) (fun o ho => htail o ?_) hreads hn
    rw [hsplit]
    exact List.mem_append_right _ (List.mem_cons_of_mem _ (List.mem_cons_of_mem _
      (List.mem_of_mem_tail ho)))

/-- Neither does any expression. -/
theorem lt_toInt_of_answer {k : Cursor.Call} {x : Query ⊕ Expr}
    (hp : ∀ l ∈ p.ahead, l.token.Lexical) (h : answer k p = .ok x q) :
    ∀ e ∈ expressionsOf x, .literal (.integer n) ∈ e.nodes → -2 ^ 63 < n.toInt := by
  have hexpr {chain : ExprParser.Chain} {e : Expr}
      (h : Step.ofParsed (fun s ts => ExprParser.chain s chain ts) p = .ok e q)
      (hn : .literal (.integer n) ∈ e.nodes) : -2 ^ 63 < n.toInt := by
    obtain ⟨r, hreads, -⟩ := ofParsed_eq_ok.1 h
    exact Cursor.lt_toInt_of_reads (.chain chain) hp hreads hn
  cases k with
  | query =>
    rw [answer, map_eq_pure_bind] at h
    obtain ⟨query', p₁, hquery, hx⟩ := step_bind_eq_ok.1 h
    obtain ⟨rfl, rfl⟩ := pure_eq_ok.1 hx
    exact lt_toInt_of_query hp hquery
  | expression =>
    rw [answer, map_eq_pure_bind] at h
    obtain ⟨e, p₁, he, hx⟩ := step_bind_eq_ok.1 h
    obtain ⟨rfl, rfl⟩ := pure_eq_ok.1 hx
    exact List.forall_mem_singleton.2 (hexpr he)
  | sum =>
    rw [answer, map_eq_pure_bind] at h
    obtain ⟨e, p₁, he, hx⟩ := step_bind_eq_ok.1 h
    obtain ⟨rfl, rfl⟩ := pure_eq_ok.1 hx
    exact List.forall_mem_singleton.2 (hexpr he)

end Parser

namespace Cursor

open Step

variable {α β γ : Type} {s : Scope} {depth size fuel : Nat} {ts us : List Lexeme}

/-! ### Projections and order keys -/

theorem mirrors_label : Mirrors s depth size ts label (Parser.label s ts) := by
  cases ts with
  | nil =>
    refine reaches_current_nil.bind ?_
    exact reaches_pure none
  | cons l ts =>
    refine (reaches_current_cons l).bind ?_
    rw [Parser.label]
    by_cases hl : l.token = .word .asWord
    · rw [if_pos hl, if_pos hl]
      refine reaches_advance.bind (reaches_take.bind ?_)
      dsimp only [List.tail_cons]
      cases (s.front ts).token with
      | identifier name => exact reaches_pure _
      | string name => exact reaches_pure _
      | _ => exact reaches_throw _
    · rw [if_neg hl, if_neg hl]
      exact reaches_pure none

theorem reaches_defaults : Reaches s depth size ts
    (get >>= fun c : Cursor => (pure (c.catalog.defaultColumns.map fun e =>
      ⟨.column e.subject, none⟩) : Step (List Projection)))
    (.ok (s.catalog.defaultColumns.map fun e => ⟨.column e.subject, none⟩)) ts := by
  refine reaches_of_run fun c hc => ?_
  rw [run_bind_of_ok (run_get c), hc.catalog]
  rfl

theorem mirrors_projection (hfuel : 16 * ts.length + 11 < fuel) :
    Mirrors s depth size ts (projection fuel) (Parser.projection s ts) := by
  cases ts with
  | nil => exact reaches_current_nil.bind (reaches_failAt _)
  | cons l ts =>
    refine (reaches_current_cons l).bind ?_
    rw [Parser.projection]
    by_cases hstar : l.token = .star
    · rw [if_pos hstar, if_pos hstar]
      exact reaches_advance.bind reaches_defaults
    · rw [if_neg hstar, if_neg hstar]
      by_cases hstart : l.token.startsExpression = true
      · rw [if_pos hstart, if_pos hstart]
        have he : Mirrors s depth size (l :: ts) (chain fuel .disjunction)
            (ExprParser.chain s .disjunction (l :: ts)) :=
          (allMirror fuel).chain .disjunction hfuel
        generalize ExprParser.chain s .disjunction (l :: ts) = x at he ⊢
        cases x with
        | failed e us => exact he.bind_error
        | done e us hus => exact he.bind ((mirrors_label.map _).weaken _)
      · rw [if_neg hstart, if_neg hstart]
        exact reaches_failAt _

theorem mirrors_projections (hfuel : 16 * ts.length + 12 < fuel) :
    Mirrors s depth size ts (projections fuel) (Parser.projections s ts) := by
  induction fuel generalizing ts with
  | zero => omega
  | succ fuel ih =>
    have hfirst : Mirrors s depth size ts (projection fuel) (Parser.projection s ts) :=
      mirrors_projection (by omega)
    rw [Parser.projections]
    generalize Parser.projection s ts = x at hfirst ⊢
    cases x with
    | failed e us => exact hfirst.bind_error
    | done ps us hus =>
      refine hfirst.bind ?_
      cases us with
      | nil => exact reaches_current_nil.bind (reaches_throw _)
      | cons l vs =>
        refine (reaches_current_cons l).bind ?_
        rw [List.length_cons] at hus
        have hrest : Mirrors s depth size vs (projections fuel) (Parser.projections s vs) :=
          ih (by omega)
        dsimp only
        cases l.token with
        | comma => exact reaches_advance.bind ((hrest.map _).weaken _)
        | word k =>
          cases k with
          | fromWord => exact reaches_pure ps
          | _ => exact reaches_failAt _
        | endOfText => exact reaches_throw _
        | _ => exact reaches_failAt _

theorem reaches_direction : Reaches s depth size ts direction (.ok (Parser.direction ts).1)
    (Parser.direction ts).2 := by
  cases ts with
  | nil => exact reaches_current_nil.bind (reaches_pure _)
  | cons l ts =>
    refine (reaches_current_cons l).bind ?_
    rw [Parser.direction]
    cases l.token with
    | word k =>
      cases k with
      | ascWord => exact reaches_advance.bind (reaches_pure _)
      | descWord => exact reaches_advance.bind (reaches_pure _)
      | _ => exact reaches_pure _
    | _ => exact reaches_pure _

theorem mirrors_orderKeys (columns : Nat) (hfuel : ts.length < fuel) :
    Mirrors s depth size ts (orderKeys columns fuel) (Parser.orderKeys columns s ts) := by
  induction fuel generalizing ts with
  | zero => omega
  | succ fuel ih =>
    cases ts with
    | nil =>
      rw [Parser.orderKeys]
      exact reaches_current_nil.bind (reaches_failAt _)
    | cons l ts =>
      refine (reaches_current_cons l).bind ?_
      rw [List.length_cons] at hfuel
      obtain ⟨t, text, p⟩ := l
      cases t with
      | integer n =>
        dsimp only
        by_cases hn : n.toInt < 1 ∨ columns < n.toInt
        · rw [Parser.orderKeys, if_pos hn]
          dsimp only
          rw [if_pos hn]
          exact reaches_throw _
        · have hlt := Nat.lt_succ_of_le (Parser.direction_length_le ts)
          have hdirection : Reaches s depth size ts direction (.ok (Parser.direction ts).1)
            (Parser.direction ts).2 := reaches_direction
          rw [if_neg hn, Parser.orderKeys_integer rfl hn rfl hlt]
          refine reaches_advance.bind (hdirection.bind ?_)
          generalize (Parser.direction ts).2 = us at hlt ⊢
          cases us with
          | nil => exact reaches_current_nil.bind (reaches_pure _)
          | cons l us =>
            refine (reaches_current_cons l).bind ?_
            rw [List.length_cons] at hlt
            have hrest : Mirrors s depth size us (orderKeys columns fuel)
                (Parser.orderKeys columns s us) :=
              ih (by omega)
            rw [Parser.afterKey]
            cases l.token with
            | comma => exact reaches_advance.bind ((hrest.map _).weaken _)
            | integer m => exact reaches_failAt _
            | _ => exact reaches_pure _
      | _ =>
        rw [Parser.orderKeys]
        exact reaches_failAt _

/-! ### Steps of parsers -/

/-- Where a parser stands, a step does not break off and does what a step of the parser does: it has
its outcome and leads to where it leads. -/
def Matches (size : Nat) (p : Parser) (m : Step α) (m' : Parser.Step α) : Prop :=
  ∀ c, Stands p.scope 0 size p.ahead c → ∃ c', m.run c = .ok ((p.run m').1, c') ∧
    Stands (p.run m').2.scope 0 size (p.run m').2.ahead c'

variable {p : Parser} {m : Step α} {m' : Parser.Step α} {f : α → Step β} {f' : α → Parser.Step β}

theorem Matches.bind (h : Matches size p m m')
    (hf : ∀ a q, m' p = .ok a q → Matches size q (f a) (f' a)) :
    Matches size p (m >>= f) (m' >>= f') := by
  intro c hc
  obtain ⟨c₁, hrun, hc₁⟩ := h c hc
  cases hm : m' p with
  | ok a q =>
    have hp : p.run m' = (.ok a, q) := by rw [Parser.run, EStateM.run, hm]
    rw [hp] at hrun hc₁
    rw [run_bind_of_ok hrun, Parser.run_bind_of_ok hm]
    exact hf a q hm c₁ hc₁
  | error e q =>
    have hp : p.run m' = (.error e, q) := by rw [Parser.run, EStateM.run, hm]
    rw [hp] at hrun hc₁
    rw [run_bind_of_error hrun, Parser.run_bind_of_error hm]
    exact ⟨c₁, rfl, hc₁⟩

theorem matches_pure (a : α) : Matches size p (pure a : Step α) (pure a) :=
  fun c hc => ⟨c, rfl, hc⟩

theorem matches_throw (e : ParseError) : Matches size p (throw e : Step α) (throw e) :=
  fun c hc => ⟨c, rfl, hc⟩

/-- Looking ahead gives the front of the parser. -/
theorem matches_current {g : Lexeme → Step α} (h : Matches size p (g p.front) m') :
    Matches size p (current >>= g) m' := by
  intro c hc
  obtain ⟨c₁, hrun, hc₁⟩ := reaches_current c hc
  obtain ⟨rfl, -⟩ := of_run_current hrun
  rw [run_bind_of_ok hrun]
  exact h c₁ hc

theorem matches_failAt (e : String → Position → ParseError) :
    Matches size p (failAt e : Step α) (Parser.Step.failAt e) :=
  matches_current (matches_throw _)

/-- Nothing follows a failure. -/
theorem matches_failAt_bind (e : String → Position → ParseError) (f : β → Step α)
    (g : γ → Parser.Step α) : Matches size p (failAt e >>= f) (Parser.Step.failAt e >>= g) := by
  intro c hc
  obtain ⟨c₁, hrun, hc₁⟩ := reaches_failAt e c hc
  exact ⟨c₁, run_bind_of_error hrun, hc₁⟩

theorem matches_advance : Matches size p advance Parser.Step.skip :=
  fun c hc => ⟨c.next, run_advance c, hc.next⟩

theorem matches_setPredicate (b : Bool) : Matches size p (setPredicate b)
    (modify fun p : Parser => { p with inPredicate := b } : Parser.Step PUnit) :=
  fun c hc => ⟨_, run_setPredicate b c, { hc with inPredicate := rfl }⟩

theorem matches_ofParsed {g : (s : Scope) → (ts : List Lexeme) → Parsed α ts.length}
    (h : Mirrors p.scope 0 size p.ahead m (g p.scope p.ahead)) :
    Matches size p m (Parser.Step.ofParsed g) := by
  intro c hc
  obtain ⟨c₁, hrun, hc₁⟩ := h c hc
  rw [Parser.run, EStateM.run, Parser.Step.ofParsed]
  cases hg : g p.scope p.ahead with
  | done a r hr =>
    rw [hg] at hrun hc₁
    exact ⟨c₁, hrun, hc₁⟩
  | failed e r =>
    rw [hg] at hrun hc₁
    exact ⟨c₁, hrun, hc₁⟩

/-- What mirrors a parser of lists where fuel is in proportion to all lexemes matches it. -/
theorem matches_of_length {g : (s : Scope) → (ts : List Lexeme) → Parsed α ts.length}
    (h : p.ahead.length < size → Mirrors p.scope 0 size p.ahead m (g p.scope p.ahead)) :
    Matches size p m (Parser.Step.ofParsed g) := by
  intro c hc
  have hlength := hc.length_eq
  exact matches_ofParsed (h (by omega)) c hc

theorem matches_peek {g : Lexeme → Parser.Step α} (h : Matches size p m (g p.front)) :
    Matches size p m (Parser.Step.peek >>= g) := h

theorem matches_sees {k : Keyword} {g : Bool → Parser.Step α}
    (h : Matches size p m (g (decide (p.front.token = .word k)))) :
    Matches size p m (Parser.Step.sees k >>= g) := h

/-! ### Clauses -/

theorem matches_source : Matches size p source Parser.source := by
  refine matches_advance.bind fun _ q _ => matches_current (matches_peek ?_)
  have hmissing : Matches size q (throw (.missingSource q.front.position) : Step String)
      (throw (.missingSource q.front.position)) :=
    matches_throw _
  have hgiven (text : String) : Matches size q
      (if Text.isBlank text then throw (.missingSource q.front.position) else do
        advance
        return text : Step String)
      (if Text.isBlank text then throw (.missingSource q.front.position) else do
        Parser.Step.skip
        return text) := by
    by_cases hblank : Text.isBlank text = true
    · rw [if_pos hblank, if_pos hblank]
      exact hmissing
    · rw [if_neg hblank, if_neg hblank]
      exact matches_advance.bind fun _ _ _ => matches_pure text
  cases q.front.token with
  | path text => exact hgiven text
  | string text => exact hgiven text
  | _ => exact hmissing

/-- A clause behind a keyword that may be absent. -/
theorem matches_clause {k : Keyword} {absent : α} (h : Matches size p m m') :
    Matches size p (current >>= fun l => if l.token = .word k then m else pure absent)
      (do if ← Parser.Step.sees k then m' else return absent) := by
  refine matches_current (matches_sees ?_)
  by_cases hk : p.front.token = .word k
  · rw [if_pos hk, decide_eq_true hk, if_pos rfl]
    exact h
  · rw [if_neg hk, decide_eq_false hk, if_neg Bool.false_ne_true]
    exact matches_pure absent

section Fuel

variable (hfuel : 16 * size ≤ fuel)

include hfuel

theorem matches_chain (k : ExprParser.Chain) : Matches size p (chain fuel k)
    (Parser.Step.ofParsed fun s ts => ExprParser.chain s k ts) :=
  matches_ofParsed (mirrors_chain hfuel k)

theorem matches_predicate : Matches size p (predicate fuel) Parser.predicate := by
  refine matches_clause (matches_advance.bind fun _ _ _ => ?_)
  refine (matches_setPredicate true).bind fun _ _ _ => ?_
  refine (matches_chain hfuel .disjunction).bind fun e _ _ => ?_
  exact (matches_setPredicate false).bind fun _ _ _ => matches_pure (some e)

theorem matches_orderBy (columns : Nat) :
    Matches size p (orderBy fuel columns) (Parser.orderBy columns) := by
  refine matches_clause (matches_advance.bind fun _ q _ => matches_current (matches_sees ?_))
  by_cases hby : q.front.token = .word .byWord
  · rw [if_pos hby, decide_eq_true hby]
    refine matches_advance.bind fun _ _ _ => ?_
    exact matches_of_length fun hlt => mirrors_orderKeys columns (by omega)
  · rw [if_neg hby, decide_eq_false hby, ← bind_pure (failAt _)]
    exact matches_failAt_bind _ _ _

omit hfuel in
theorem matches_limit : Matches size p limit Parser.limit := by
  refine matches_clause (matches_advance.bind fun _ q _ => matches_current (matches_peek ?_))
  cases q.front.token with
  | endOfText => exact matches_throw _
  | integer n =>
    by_cases hn : 0 ≤ n.toInt
    · dsimp only
      rw [if_pos hn, if_pos hn]
      exact matches_advance.bind fun _ _ _ => matches_pure _
    · dsimp only
      rw [if_neg hn, if_neg hn]
      exact matches_failAt _
  | _ => exact matches_failAt _

/-! ### Queries -/

theorem matches_query : Matches size p (query fuel) Parser.query := by
  have hselect : Matches size p (do
      advance
      let projections ← projections fuel
      let source ← source
      let predicate ← predicate fuel
      let orderBy ← orderBy fuel projections.length
      let limit ← limit
      expect .endOfText .endOfQuery
      return ⟨projections, source, predicate, orderBy, limit⟩ : Step Query) (do
      Parser.Step.skip
      let projections ← Parser.Step.ofParsed Parser.projections
      let source ← Parser.source
      let predicate ← Parser.predicate
      let orderBy ← Parser.orderBy projections.length
      let limit ← Parser.limit
      unless (← Parser.Step.peek).token = .endOfText do
        Parser.Step.failAt (.unexpectedToken .endOfQuery)
      Parser.Step.skip
      return ⟨projections, source, predicate, orderBy, limit⟩) := by
    refine matches_advance.bind fun _ _ _ => ?_
    refine (matches_of_length fun hlt => mirrors_projections (by omega)).bind fun ps _ _ => ?_
    refine matches_source.bind fun source _ _ => ?_
    refine (matches_predicate hfuel).bind fun predicate _ _ => ?_
    refine (matches_orderBy hfuel ps.length).bind fun orderBy _ _ => ?_
    refine matches_limit.bind fun limit q _ => ?_
    rw [expect, bind_assoc]
    refine matches_current (matches_peek ?_)
    by_cases hend : q.front.token = .endOfText
    · rw [if_pos hend, if_pos hend]
      exact matches_advance.bind fun _ _ _ => matches_pure _
    · rw [if_neg hend, if_neg hend]
      exact matches_failAt_bind _ _ _
  rw [query, head]
  simp only [tail, bind_assoc, pure_bind]
  refine matches_current (matches_peek ?_)
  by_cases hend : p.front.token = .endOfText
  · rw [if_pos hend, if_pos hend]
    exact fun c hc => ⟨c, rfl, hc⟩
  · rw [if_neg hend, if_neg hend]
    refine matches_sees ?_
    by_cases hword : p.front.token = .word .selectWord
    · simp only [hword, if_true, bind_assoc, pure_bind, decide_true]
      exact hselect
    · rw [if_neg hword, decide_eq_false hword]
      exact matches_failAt_bind _ _ _

/-! ### Calls -/

theorem matches_answer (k : Call) : Matches size p (k.step fuel) (Parser.answer k) := by
  cases k with
  | query =>
    rw [Call.step, Parser.answer, map_eq_pure_bind, map_eq_pure_bind]
    exact (matches_query hfuel).bind fun q _ _ => matches_pure _
  | expression =>
    rw [Call.step, Parser.answer, map_eq_pure_bind, map_eq_pure_bind]
    exact (matches_chain hfuel .disjunction).bind fun e _ _ => matches_pure _
  | sum =>
    rw [Call.step, Parser.answer, map_eq_pure_bind, map_eq_pure_bind]
    exact (matches_chain hfuel .sum).bind fun e _ _ => matches_pure _

/-- Calls one after the other lead where they lead a parser, and no answer holds the least
integer. -/
theorem matches_answers (ks : List Call) {c : Cursor} (hc : Stands p.scope 0 size p.ahead c) :
    ∃ c', answers fuel ks c = .ok ((Parser.answers ks p).1, c') ∧
      Stands (Parser.answers ks p).2.scope 0 size (Parser.answers ks p).2.ahead c' ∧
      ∀ x, .ok x ∈ (Parser.answers ks p).1 → ∀ e ∈ Parser.expressionsOf x, ∀ n,
        .literal (.integer n) ∈ e.nodes → -2 ^ 63 < n.toInt := by
  induction ks generalizing p c with
  | nil => exact ⟨c, rfl, hc, fun _ h => by cases h⟩
  | cons k ks ih =>
    obtain ⟨c₁, hrun, hc₁⟩ := matches_answer hfuel k c hc
    obtain ⟨c₂, hruns, hc₂, hlater⟩ := ih hc₁
    refine ⟨c₂, answers_cons.2 ⟨_, c₁, _, hrun, hruns, rfl⟩, hc₂, fun x hx => ?_⟩
    rcases List.mem_cons.1 hx with hx | hx
    · cases hk : Parser.answer k p with
      | ok y q =>
        have hanswer : (p.run (Parser.answer k)).1 = .ok y := by rw [Parser.run, EStateM.run, hk]
        obtain rfl := Except.ok.inj (hx.trans hanswer)
        exact fun e he n => Parser.lt_toInt_of_answer hc.lexical hk e he
      | error e q =>
        have hanswer : (p.run (Parser.answer k)).1 = .error e := by
          rw [Parser.run, EStateM.run, hk]
        cases hx.trans hanswer
    · exact hlater x hx

end Fuel

theorem stands_ofLexemes (catalog : Catalog) (h : ∀ l ∈ ts, l.token.Lexical)
    (hend : ∀ l ∈ ts, l.token ≠ .endOfText) :
    Stands (Parser.ofLexemes catalog ts).scope 0 (ts.length + 1)
      (Parser.ofLexemes catalog ts).ahead (ofLexemes catalog ts) := by
  rw [Parser.ofLexemes, ofLexemes]
  cases hlast : ts.getLast? with
  | none =>
    obtain rfl := List.getLast?_eq_none_iff.1 hlast
    exact ⟨rfl, rfl, rfl, rfl, rfl, rfl, h⟩
  | some l =>
    dsimp only
    rw [if_neg (hend l (List.mem_of_getLast? hlast)), if_neg (hend l (List.mem_of_getLast? hlast))]
    exact ⟨rfl, rfl, rfl, rfl, rfl, List.length_append, h⟩

/-- Calls on a cursor over the lexemes of a text are all answered, with fuel in proportion to the
lexemes: no step reads behind the lexemes, leaves an argument that was not entered, or negates the
least integer. The answers are those of the parser of lists. Afterwards the index lies in the list,
which is as long as before and has an end last, and no argument is left open. No number in an answer
is the least integer. -/
theorem answers_of_tokenize (catalog : Catalog) {text : String} {ls : List Lexeme}
    (h : tokenize text = .ok ls) (ks : List Call) (hfuel : 16 * (ls.length + 1) ≤ fuel) :
    ∃ rs c, answers fuel ks (ofLexemes catalog ls) = .ok (rs, c) ∧
      rs = (Parser.answers ks (Parser.ofLexemes catalog ls)).1 ∧ rs.length = ks.length ∧
      c.lexemes.length = ls.length + 1 ∧ c.index < c.lexemes.length ∧
      (∃ p, c.lexemes.getLast? = some (.endAt p)) ∧ c.aggregateDepth = 0 ∧
      ∀ x, .ok x ∈ rs → ∀ e ∈ Parser.expressionsOf x, ∀ n, .literal (.integer n) ∈ e.nodes →
        -(2 ^ 63 - 1) ≤ n.toInt ∧ n.toInt ≤ 2 ^ 63 - 1 := by
  obtain ⟨c, hrun, hc, hinteger⟩ := matches_answers hfuel ks
    (stands_ofLexemes catalog (lexical_of_tokenize h) (Scanner.token_ne_endOfText _ h))
  have hlength := hc.length_eq
  refine ⟨_, c, hrun, rfl, Parser.length_answers _ _, hc.length, ?_, ⟨_, hc.last_eq⟩,
    hc.aggregateDepth, fun x hx e he n hn => ?_⟩
  · rw [hc.length]
    omega
  · have hlt := hinteger x hx e he n hn
    have hle := n.toInt_lt
    omega

/-- The name of a function with nothing behind it, which is read three times. -/
theorem answers_of_tokenize_sum :
    tokenize "sum" = .ok [⟨.identifier "sum", "sum", ⟨0, 1, 1⟩⟩] ∧ ∃ rs c,
      answers 32 [.sum, .query, .expression]
        (ofLexemes .standard [⟨.identifier "sum", "sum", ⟨0, 1, 1⟩⟩]) = .ok (rs, c) ∧
      rs.length = 3 ∧ c.lexemes.length = 2 ∧ c.index < 2 ∧ c.aggregateDepth = 0 := by
  have hname : Scanner.next (.ofText "sum") =
      (.ok ⟨.identifier "sum", "sum", ⟨0, 1, 1⟩⟩, ⟨[], ⟨3, 1, 4⟩, false⟩) := rfl
  have htext : tokenize "sum" = .ok _ :=
    Scanner.lexemes_cons hname (by simp) (Scanner.lexemes_nil _ _)
  have hfuel : 16 * (1 + 1) ≤ 32 := Nat.le_refl _
  obtain ⟨rs, c, hrun, -, hlength, hsize, hindex, -, hdepth, -⟩ :=
    answers_of_tokenize .standard htext [.sum, .query, .expression] hfuel
  have hsize : c.lexemes.length = 2 := hsize
  exact ⟨htext, rs, c, hrun, hlength, hsize, hsize ▸ hindex, hdepth⟩

end Cursor

end FileQuery
