import FileQuery.Proofs.Query.Clauses
import FileQuery.Proofs.Query.Scanning

/-!
# The parser recognizes the grammar

A list of lexemes is parsed to a query exactly if its tokens are derivable to that query by the
grammar and the query is legal. So a legal query is never rejected or read as another one, and an
illegal one never accepted.

## Main definitions

* `FileQuery.Parser.Follows`: what may come behind a clause.

## Main results

* `FileQuery.Parser.query_eq_ok`: the steps of the parser of queries.
* `FileQuery.Query.parses_iff_derives`: the parser and the grammar.
* `FileQuery.Query.eq_of_derives`: the grammar is unambiguous on legal queries.
-/

namespace FileQuery

namespace Parser

open Grammar ExprParser

/-! ### Steps -/

variable {α β : Type} {p p' : Parser}

theorem step_bind_eq_ok {x : Step α} {f : α → Step β} {b : β} :
    (x >>= f) p = .ok b p' ↔ ∃ a q, x p = .ok a q ∧ f a q = .ok b p' := by
  change EStateM.bind x f p = _ ↔ _
  rw [EStateM.bind]
  cases x p <;> simp

theorem pure_eq_ok {a b : α} : (pure a : Step α) p = .ok b p' ↔ a = b ∧ p = p' := by
  change EStateM.Result.ok a p = .ok b p' ↔ _
  rw [EStateM.Result.ok.injEq]

theorem not_throw_eq_ok {e : ParseError} {a : α} : (throw e : Step α) p ≠ .ok a p' :=
  fun h => nomatch h

theorem not_failAt_eq_ok {e : String → Position → ParseError} {a : α} :
    (Step.failAt e : Step α) p ≠ .ok a p' :=
  fun h => nomatch h

theorem ofParsed_eq_ok {f : (s : Scope) → (ts : List Lexeme) → Parsed α ts.length} {a : α} :
    Step.ofParsed f p = .ok a p' ↔
      ∃ r, (f p.scope p.ahead).Reads a r ∧ p' = p.moveTo r := by
  rw [Step.ofParsed]
  cases f p.scope p.ahead with
  | done b r h => simp [and_assoc, eq_comm (a := p')]
  | failed e r => simp

theorem skip_bind {f : Unit → Step β} : (Step.skip >>= f) p = f () (p.moveTo p.ahead.tail) := rfl

theorem peek_bind {f : Lexeme → Step β} : (Step.peek >>= f) p = f p.front p := rfl

theorem sees_bind {k : Keyword} {f : Bool → Step β} :
    (Step.sees k >>= f) p = f (decide (p.front.token = .word k)) p := rfl

/-- A token other than the end is that of a lexeme. -/
theorem front_token_eq {t : Token} (ht : t ≠ .endOfText) :
    p.front.token = t ↔ ∃ l r, p.ahead = l :: r ∧ l.token = t := by
  obtain ⟨c, ahead, stop, inPredicate⟩ := p
  cases ahead with
  | nil => exact iff_of_false (Ne.symm ht) (fun ⟨_, _, h, _⟩ => nomatch h)
  | cons l r => simp [front, Scope.front]

/-! ### Clauses as steps -/

/-- A clause behind a keyword that may be absent. -/
theorem clause_eq_ok {k : Keyword} {x : Step α} {a absent : α} :
    (do if ← Step.sees k then x else return absent : Step α) p = .ok a p' ↔
      (p.front.token ≠ .word k ∧ a = absent ∧ p' = p) ∨
        (p.front.token = .word k ∧ x p = .ok a p') := by
  rw [sees_bind]
  by_cases h : p.front.token = .word k
  · simp only [h, decide_true, if_true, ne_eq, not_true_eq_false, false_and, false_or, true_and]
  · simp only [h, decide_false, Bool.false_eq_true, if_false, ne_eq, not_false_eq_true, true_and,
      false_and, or_false, pure_eq_ok]
    exact and_congr eq_comm eq_comm

/-- A given source is taken unless it is blank. -/
theorem given_eq_ok {given text : String} {e : ParseError} :
    (if Text.isBlank given then throw e else do Step.skip; return given : Step String) p =
      .ok text p' ↔
    given = text ∧ Text.isBlank text = false ∧ p' = p.moveTo p.ahead.tail := by
  cases hblank : Text.isBlank given with
  | true =>
    refine iff_of_false not_throw_eq_ok ?_
    rintro ⟨rfl, h, -⟩
    rw [hblank] at h
    cases h
  | false =>
    rw [if_neg Bool.false_ne_true, skip_bind, pure_eq_ok]
    constructor
    · rintro ⟨rfl, rfl⟩
      exact ⟨rfl, hblank, rfl⟩
    · rintro ⟨rfl, -, rfl⟩
      exact ⟨rfl, rfl⟩

/-- What is asked of the parts of a list that is not empty is asked of the parts it has. -/
theorem exists_cons_iff {l : Lexeme} {r : List Lexeme} {P : Lexeme → List Lexeme → Prop} :
    (∃ l' r', l :: r = l' :: r' ∧ P l' r') ↔ P l r := by
  constructor
  · rintro ⟨l', r', h, hp⟩
    obtain ⟨rfl, rfl⟩ := List.cons.inj h
    exact hp
  · exact fun h => ⟨l, r, rfl, h⟩

theorem not_exists_cons {P : Lexeme → List Lexeme → Prop} :
    ¬∃ l' r', [] = l' :: r' ∧ P l' r' :=
  fun ⟨_, _, h, _⟩ => nomatch h

theorem source_eq_ok {text : String} : source p = .ok text p' ↔
    ∃ t r, p.ahead.tail = t :: r ∧ (t.token = .path text ∨ t.token = .string text) ∧
      Text.isBlank text = false ∧ p' = p.moveTo r := by
  rw [source, skip_bind, peek_bind]
  cases hahead : p.ahead.tail with
  | nil => exact iff_of_false not_throw_eq_ok not_exists_cons
  | cons t r =>
    have hfront : (p.moveTo (t :: r)).front = t := rfl
    rw [hfront, exists_cons_iff]
    obtain ⟨token, spelled, place⟩ := t
    cases token with
    | path given =>
      refine given_eq_ok.trans (and_congr_left fun _ => ?_)
      rw [Token.path.injEq, or_iff_left Token.noConfusion]
    | string given =>
      refine given_eq_ok.trans (and_congr_left fun _ => ?_)
      rw [Token.string.injEq, or_iff_right Token.noConfusion]
    | _ => exact iff_of_false not_throw_eq_ok fun h => h.1.elim Token.noConfusion Token.noConfusion

theorem predicate_eq_ok {e? : Option Expr} : predicate p = .ok e? p' ↔
    (p.front.token ≠ .word .whereWord ∧ e? = none ∧ p' = p) ∨
    (p.front.token = .word .whereWord ∧ ∃ e r,
      (chain { p.scope with inPredicate := true } .disjunction p.ahead.tail).Reads e r ∧
        e? = some e ∧ p' = { p.moveTo r with inPredicate := false }) := by
  refine clause_eq_ok.trans (or_congr_right (and_congr_right fun _ => ?_))
  rw [skip_bind]
  change (expression >>= fun e => (modify fun p : Parser => { p with inPredicate := false }) >>=
    fun _ => pure (some e)) { p.moveTo p.ahead.tail with inPredicate := true } = _ ↔ _
  rw [step_bind_eq_ok]
  constructor
  · rintro ⟨e, q, he, hq⟩
    obtain ⟨r, hreads, rfl⟩ := ofParsed_eq_ok.1 he
    obtain ⟨rfl, rfl⟩ := pure_eq_ok.1 hq
    exact ⟨e, r, hreads, rfl, rfl⟩
  · rintro ⟨e, r, hreads, rfl, rfl⟩
    exact ⟨e, _, ofParsed_eq_ok.2 ⟨r, hreads, rfl⟩, rfl⟩

theorem orderBy_eq_ok {columns : Nat} {keys : List OrderKey} :
    orderBy columns p = .ok keys p' ↔
    (p.front.token ≠ .word .orderWord ∧ keys = [] ∧ p' = p) ∨
    (p.front.token = .word .orderWord ∧ ∃ l us, p.ahead.tail = l :: us ∧
      l.token = .word .byWord ∧
        ∃ r, (orderKeys columns p.scope us).Reads keys r ∧ p' = p.moveTo r) := by
  refine clause_eq_ok.trans (or_congr_right (and_congr_right fun _ => ?_))
  rw [skip_bind, sees_bind]
  cases htail : p.ahead.tail with
  | nil => exact iff_of_false not_failAt_eq_ok not_exists_cons
  | cons l us =>
    have hfront : (p.moveTo (l :: us)).front = l := rfl
    rw [hfront, exists_cons_iff]
    by_cases hl : l.token = .word .byWord
    · rw [decide_eq_true hl, if_pos rfl, and_iff_right hl]
      exact ofParsed_eq_ok
    · rw [decide_eq_false hl, if_neg Bool.false_ne_true]
      exact iff_of_false not_failAt_eq_ok fun h => hl h.1

theorem limit_eq_ok {n? : Option Nat} : limit p = .ok n? p' ↔
    (p.front.token ≠ .word .limitWord ∧ n? = none ∧ p' = p) ∨
    (p.front.token = .word .limitWord ∧ ∃ l r, p.ahead.tail = l :: r ∧ ∃ n, l.token = .integer n ∧
      0 ≤ n.toInt ∧ n? = some n.toInt.toNat ∧ p' = p.moveTo r) := by
  refine clause_eq_ok.trans (or_congr_right (and_congr_right fun _ => ?_))
  rw [skip_bind, peek_bind]
  cases htail : p.ahead.tail with
  | nil => exact iff_of_false not_throw_eq_ok not_exists_cons
  | cons l r =>
    have hfront : (p.moveTo (l :: r)).front = l := rfl
    rw [hfront, exists_cons_iff]
    obtain ⟨token, spelled, place⟩ := l
    cases token with
    | integer n =>
      have hinteger : (∃ m, Token.integer n = .integer m ∧ 0 ≤ m.toInt ∧
          n? = some m.toInt.toNat ∧ p' = p.moveTo r) ↔
          0 ≤ n.toInt ∧ n? = some n.toInt.toNat ∧ p' = p.moveTo r := by
        simp
      rw [hinteger]
      by_cases hn : 0 ≤ n.toInt
      · simp only [hn, if_true, true_and]
        rw [skip_bind, pure_eq_ok]
        exact and_congr eq_comm eq_comm
      · simp only [hn, if_false, false_and]
        exact iff_of_false not_failAt_eq_ok id
    | endOfText => exact iff_of_false not_throw_eq_ok fun ⟨_, h, _⟩ => nomatch h
    | _ => exact iff_of_false not_failAt_eq_ok fun ⟨_, h, _⟩ => nomatch h

/-- Nothing may stand behind a query. -/
theorem end_eq_ok {a b : α} {e : String → Position → ParseError} :
    (do unless (← Step.peek).token = .endOfText do Step.failAt e
        Step.skip
        return a : Step α) p = .ok b p' ↔
      p.front.token = .endOfText ∧ b = a ∧ p' = p.moveTo p.ahead.tail := by
  rw [peek_bind]
  by_cases h : p.front.token = .endOfText
  · simp only [h, if_true, true_and]
    rw [skip_bind, pure_eq_ok]
    exact and_congr eq_comm eq_comm
  · simp only [h, if_false, false_and]
    refine iff_of_false (fun hfail => ?_) id
    obtain ⟨u, r, hu, -⟩ := step_bind_eq_ok.1 hfail
    exact not_failAt_eq_ok hu

/-- The steps of the parser of queries. -/
theorem query_eq_ok {q : Query} : query p = .ok q p' ↔
    p.front.token = .word .selectWord ∧ ∃ ps r src p₂ pred p₃ keys p₄ lim p₅,
      (projections p.scope p.ahead.tail).Reads ps r ∧ source (p.moveTo r) = .ok src p₂ ∧
      predicate p₂ = .ok pred p₃ ∧ orderBy ps.length p₃ = .ok keys p₄ ∧ limit p₄ = .ok lim p₅ ∧
      p₅.front.token = .endOfText ∧ q = ⟨ps, src, pred, keys, lim⟩ ∧
      p' = p₅.moveTo p₅.ahead.tail := by
  rw [query, peek_bind]
  by_cases hselect : p.front.token = .word .selectWord
  · have hend : p.front.token ≠ .endOfText := by
      rw [hselect]
      decide
    rw [if_neg hend]
    change (Step.sees .selectWord >>= _) p = _ ↔ _
    rw [sees_bind, decide_eq_true hselect, if_pos rfl]
    change (Step.skip >>= _) p = _ ↔ _
    rw [skip_bind, and_iff_right hselect]
    constructor
    · intro h
      obtain ⟨ps, _, hps, h⟩ := step_bind_eq_ok.1 h
      obtain ⟨r, hreads, rfl⟩ := ofParsed_eq_ok.1 hps
      obtain ⟨src, p₂, hsource, h⟩ := step_bind_eq_ok.1 h
      obtain ⟨pred, p₃, hpredicate, h⟩ := step_bind_eq_ok.1 h
      obtain ⟨keys, p₄, horder, h⟩ := step_bind_eq_ok.1 h
      obtain ⟨lim, p₅, hlimit, h⟩ := step_bind_eq_ok.1 h
      exact ⟨ps, r, src, p₂, pred, p₃, keys, p₄, lim, p₅, hreads, hsource, hpredicate, horder,
        hlimit, end_eq_ok.1 h⟩
    · rintro ⟨ps, r, src, p₂, pred, p₃, keys, p₄, lim, p₅, hreads, hsource, hpredicate, horder,
        hlimit, h⟩
      refine step_bind_eq_ok.2 ⟨ps, _, ofParsed_eq_ok.2 ⟨r, hreads, rfl⟩, ?_⟩
      refine step_bind_eq_ok.2 ⟨src, p₂, hsource, step_bind_eq_ok.2 ⟨pred, p₃, hpredicate, ?_⟩⟩
      refine step_bind_eq_ok.2 ⟨keys, p₄, horder, step_bind_eq_ok.2 ⟨lim, p₅, hlimit, ?_⟩⟩
      exact end_eq_ok.2 h
  · refine iff_of_false (fun h => ?_) fun h => hselect h.1
    by_cases hend : p.front.token = .endOfText
    · rw [if_pos hend] at h
      obtain ⟨u, r, hu, -⟩ := step_bind_eq_ok.1 h
      exact not_throw_eq_ok hu
    · rw [if_neg hend] at h
      change (Step.sees .selectWord >>= _) p = _ at h
      rw [sees_bind, decide_eq_false hselect, if_neg Bool.false_ne_true] at h
      obtain ⟨u, r, hu, -⟩ := step_bind_eq_ok.1 h
      exact not_failAt_eq_ok hu

/-! ### What clauses read is derivable -/

theorem admits_iff_legal {s : Scope} (hp : s.inPredicate = false) (ha : s.inAggregate = false)
    {e : Expr} : s.Admits e ↔ e.Legal s.catalog := by
  simp [Scope.Admits, hp, ha]

theorem admits_iff_permitted {s : Scope} (hp : s.inPredicate = true) (ha : s.inAggregate = false)
    {e : Expr} : s.Admits e ↔ e.Legal s.catalog ∧ e.Permitted s.catalog := by
  simp [Scope.Admits, hp, ha]

variable {r : List Lexeme}

theorem derives_of_predicate (hp : p.inPredicate = false) {e? : Option Expr}
    (h : predicate p = .ok e? p') :
    ∃ us r, p.ahead = us ++ r ∧ WhereClause p.catalog (us.map Lexeme.token) e? ∧
      (∀ e ∈ e?, e.Legal p.catalog ∧ e.Permitted p.catalog) ∧ p' = p.moveTo r := by
  rcases predicate_eq_ok.1 h with ⟨-, rfl, rfl⟩ | ⟨hwhere, e, r, hreads, rfl, rfl⟩
  · exact ⟨[], _, rfl, .absent, fun _ h => (nomatch h), rfl⟩
  · obtain ⟨l, ts, hahead, hl⟩ := (front_token_eq (by decide)).1 hwhere
    rw [hahead, List.tail_cons] at hreads
    obtain ⟨us, rfl, hderives, hadmits⟩ := sound _ _ (.chain .disjunction) _ _ _
      (Nat.le_refl _) hreads
    refine ⟨l :: us, r, hahead, ?_, ?_, ?_⟩
    · rw [List.map_cons, hl]
      exact .present hderives
    · intro e' he'
      obtain rfl := Option.some.inj he'
      exact (admits_iff_permitted rfl rfl).1 hadmits
    · rw [← hp]
      rfl

theorem derives_of_orderBy {columns : Nat} {keys : List OrderKey}
    (h : orderBy columns p = .ok keys p') :
    ∃ us r, p.ahead = us ++ r ∧ OrderClause (us.map Lexeme.token) keys ∧
      (∀ k ∈ keys, 1 ≤ k.column ∧ k.column ≤ columns) ∧ p' = p.moveTo r := by
  rcases orderBy_eq_ok.1 h with ⟨-, rfl, rfl⟩ | ⟨horder, l, ts, htail, hl, r, hreads, rfl⟩
  · exact ⟨[], _, rfl, .absent, fun _ h => (nomatch h), rfl⟩
  · obtain ⟨o, ts', hahead, ho⟩ := (front_token_eq (by decide)).1 horder
    rw [hahead, List.tail_cons] at htail
    obtain ⟨ks, us, hne, rfl, hus, rfl, hkeys, hcolumns⟩ := derives_of_orderKeys hreads
    refine ⟨o :: l :: us, r, ?_, ?_, hcolumns, rfl⟩
    · rw [hahead, htail]
      rfl
    · rw [List.map_cons, List.map_cons, ho, hl, hus]
      exact .present ks hne hkeys

theorem derives_of_limit {n? : Option Nat} (h : limit p = .ok n? p') :
    ∃ us r, p.ahead = us ++ r ∧ LimitClause (us.map Lexeme.token) n? ∧ p' = p.moveTo r := by
  rcases limit_eq_ok.1 h with ⟨-, rfl, rfl⟩ | ⟨hlimit, l, r, htail, n, hl, hn, rfl, rfl⟩
  · exact ⟨[], _, rfl, .absent, rfl⟩
  · obtain ⟨o, ts, hahead, ho⟩ := (front_token_eq (by decide)).1 hlimit
    rw [hahead, List.tail_cons] at htail
    refine ⟨[o, l], r, ?_, ?_, rfl⟩
    · rw [hahead, htail]
      rfl
    · rw [List.map_cons, List.map_singleton, ho, hl]
      exact .present n hn

/-- A query that is read is derivable from the lexemes up to the end, and legal. -/
theorem derives_of_query (hp : p.inPredicate = false) {q : Query} (h : query p = .ok q p') :
    ∃ us r, p.ahead = us ++ r ∧ (∀ l ∈ r.head?, l.token = .endOfText) ∧
      DerivesQuery p.catalog (us.map Lexeme.token) q ∧ q.Legal p.catalog := by
  obtain ⟨hselect, ps, r, src, p₂, pred, p₃, keys, p₄, lim, p₅, hprojections, hsource, hpredicate,
    horder, hlimit, hfront, rfl, -⟩ := query_eq_ok.1 h
  obtain ⟨o, ts, hahead, ho⟩ := (front_token_eq (by decide)).1 hselect
  rw [hahead, List.tail_cons] at hprojections
  obtain ⟨items, us, f, r', hne, rfl, hus, rfl, hitems, hlegal, rfl, hf⟩ :=
    derives_of_projections hprojections
  obtain ⟨t, r₂, hr', ht, hblank, rfl⟩ := source_eq_ok.1 hsource
  have hr' : r' = t :: r₂ := hr'
  obtain ⟨vs, r₃, hr₂, hwhere, hpermitted, rfl⟩ :=
    derives_of_predicate (by exact hp) hpredicate
  have hr₂ : r₂ = vs ++ r₃ := hr₂
  obtain ⟨ws, r₄, hr₃, hkeys, hcolumns, rfl⟩ := derives_of_orderBy horder
  have hr₃ : r₃ = ws ++ r₄ := hr₃
  obtain ⟨xs, r₅, hr₄, hcount, rfl⟩ := derives_of_limit hlimit
  have hr₄ : r₄ = xs ++ r₅ := hr₄
  subst hr' hr₂ hr₃ hr₄
  refine ⟨o :: (us ++ f :: t :: (vs ++ ws ++ xs)), r₅, ?_, ?_, ?_, ?_⟩
  · rw [hahead]
    simp
  · intro l hl
    obtain ⟨r₆, rfl⟩ := List.head?_eq_some_iff.1 hl
    exact hfront
  · have htokens : (o :: (us ++ f :: t :: (vs ++ ws ++ xs))).map Lexeme.token =
        .word .selectWord :: commaSeparated (items.map Prod.fst) ++ .word .fromWord :: t.token ::
          vs.map Lexeme.token ++ ws.map Lexeme.token ++ xs.map Lexeme.token := by
      rw [← hus, ← ho, ← hf]
      simp
    rw [htokens]
    exact .query items hne hitems ht hwhere hkeys hcount
  · exact ⟨fun q hq => (admits_iff_legal (by exact hp) rfl).1 (hlegal q hq), hblank, hpermitted,
      hcolumns⟩

/-! ### Derivable clauses are read -/

/-- Whether one of some keywords comes next, or the end. -/
def Follows (ks : List Keyword) (r : List Lexeme) : Prop :=
  ∀ l ∈ r.head?, ∃ k ∈ ks, l.token = .word k

theorem Follows.front_ne {ks : List Keyword} (h : Follows ks r) {k : Keyword} (hk : k ∉ ks) :
    (p.moveTo r).front.token ≠ .word k := by
  match r with
  | [] => exact fun h => nomatch h
  | l :: r =>
    obtain ⟨k', hk', hl⟩ := h l rfl
    have hfront : (p.moveTo (l :: r)).front = l := rfl
    rw [hfront, hl]
    rintro ⟨⟩
    exact hk hk'

theorem Follows.stops (h : Follows [.orderWord, .limitWord] r) : Stops (.chain .disjunction) r := by
  intro l hl
  obtain ⟨k, hk, hlk⟩ := h l hl
  rw [hlk]
  rcases List.mem_pair.1 hk with rfl | rfl <;> decide

theorem follows_of_limitClause {us : List Lexeme} {n? : Option Nat}
    (h : LimitClause (us.map Lexeme.token) n?) : Follows [.limitWord] us := by
  generalize hts : us.map Lexeme.token = ts at h
  cases h with
  | absent =>
    obtain rfl := List.map_eq_nil_iff.1 hts
    exact fun _ h => nomatch h
  | present n hn =>
    obtain ⟨o, us, rfl, ho, -⟩ := List.map_eq_cons_iff.1 hts
    intro l hl
    obtain rfl := Option.some.inj hl
    exact ⟨_, List.mem_singleton.2 rfl, ho⟩

theorem follows_of_orderClause {us : List Lexeme} {keys : List OrderKey}
    (h : OrderClause (us.map Lexeme.token) keys) (hr : Follows [.limitWord] r) :
    Follows [.orderWord, .limitWord] (us ++ r) := by
  generalize hts : us.map Lexeme.token = ts at h
  cases h with
  | absent =>
    obtain rfl := List.map_eq_nil_iff.1 hts
    intro l hl
    obtain ⟨k, hk, hlk⟩ := hr l hl
    exact ⟨k, List.mem_cons_of_mem _ hk, hlk⟩
  | present ks hne hkeys =>
    obtain ⟨o, us, rfl, ho, -⟩ := List.map_eq_cons_iff.1 hts
    intro l hl
    obtain rfl := Option.some.inj hl
    exact ⟨_, List.mem_cons_self, ho⟩

theorem predicate_reads (hp : p.inPredicate = false) {us : List Lexeme} {e? : Option Expr}
    (h : WhereClause p.catalog (us.map Lexeme.token) e?)
    (hpermitted : ∀ e ∈ e?, e.Legal p.catalog ∧ e.Permitted p.catalog)
    (hr : Follows [.orderWord, .limitWord] r) :
    predicate (p.moveTo (us ++ r)) = .ok e? (p.moveTo r) := by
  generalize hts : us.map Lexeme.token = ts at h
  cases h with
  | absent =>
    obtain rfl := List.map_eq_nil_iff.1 hts
    exact predicate_eq_ok.2 (Or.inl ⟨hr.front_ne (by decide), rfl, rfl⟩)
  | @present ts e h =>
    obtain ⟨o, us, rfl, ho, rfl⟩ := List.map_eq_cons_iff.1 hts
    have hadmits := (admits_iff_permitted (s := { p.scope with inPredicate := true }) rfl rfl).2
      (hpermitted e rfl)
    refine predicate_eq_ok.2 (Or.inr ⟨ho, e, r, reads_of_derives h hadmits hr.stops, rfl, ?_⟩)
    rw [← hp]
    rfl

theorem orderBy_reads {columns : Nat} {us : List Lexeme} {keys : List OrderKey}
    (h : OrderClause (us.map Lexeme.token) keys)
    (hcolumns : ∀ k ∈ keys, 1 ≤ k.column ∧ k.column ≤ columns) (hr : Follows [.limitWord] r) :
    orderBy columns (p.moveTo (us ++ r)) = .ok keys (p.moveTo r) := by
  generalize hts : us.map Lexeme.token = ts at h
  cases h with
  | absent =>
    obtain rfl := List.map_eq_nil_iff.1 hts
    exact orderBy_eq_ok.2 (Or.inl ⟨hr.front_ne (by decide), rfl, rfl⟩)
  | present ks hne hkeys =>
    obtain ⟨o, us, rfl, ho, hus⟩ := List.map_eq_cons_iff.1 hts
    obtain ⟨l, us, rfl, hl, hus⟩ := List.map_eq_cons_iff.1 hus
    have hdirection : NoDirection r := by
      intro t ht
      obtain ⟨k, hk, htk⟩ := hr t ht
      rw [htk, List.mem_singleton.1 hk]
      decide
    have hstop : ∀ t ∈ r.head?, t.token ≠ .comma ∧ ∀ m, t.token ≠ .integer m := by
      intro t ht
      obtain ⟨k, hk, htk⟩ := hr t ht
      rw [htk]
      exact ⟨fun h => (nomatch h), fun _ h => (nomatch h)⟩
    exact orderBy_eq_ok.2 (Or.inr ⟨ho, l, us ++ r, rfl, hl, r,
      orderKeys_reads hne hkeys hcolumns hus hdirection hstop, rfl⟩)

theorem limit_reads {us : List Lexeme} {n? : Option Nat}
    (h : LimitClause (us.map Lexeme.token) n?) :
    limit (p.moveTo us) = .ok n? (p.moveTo []) := by
  generalize hts : us.map Lexeme.token = ts at h
  cases h with
  | absent =>
    obtain rfl := List.map_eq_nil_iff.1 hts
    exact limit_eq_ok.2 (Or.inl ⟨fun h => (nomatch h), rfl, rfl⟩)
  | present n hn =>
    obtain ⟨o, us, rfl, ho, hus⟩ := List.map_eq_cons_iff.1 hts
    obtain ⟨l, us, rfl, hl, hnil⟩ := List.map_eq_cons_iff.1 hus
    obtain rfl := List.map_eq_nil_iff.1 hnil
    exact limit_eq_ok.2 (Or.inr ⟨ho, l, [], rfl, n, hl, hn, rfl, rfl⟩)

/-- A derivable and legal query is read. -/
theorem query_reads (hp : p.inPredicate = false) {q : Query}
    (h : DerivesQuery p.catalog (p.ahead.map Lexeme.token) q) (hlegal : q.Legal p.catalog) :
    query p = .ok q (p.moveTo []) := by
  generalize hts : p.ahead.map Lexeme.token = ts at h
  cases h with
  | @query items hne hitems t source ht ts us vs pred hwhere keys horder lim hlimit =>
    have hts : p.ahead.map Lexeme.token = .word .selectWord ::
        (commaSeparated (items.map Prod.fst) ++ (.word .fromWord :: (t :: (ts ++ (us ++ vs))))) := by
      rw [hts]
      simp
    obtain ⟨o, as, hahead, ho, has⟩ := List.map_eq_cons_iff.1 hts
    obtain ⟨ps, bs, rfl, hps, hbs⟩ := List.map_eq_append_iff.1 has
    obtain ⟨f, cs, rfl, hf, hcs⟩ := List.map_eq_cons_iff.1 hbs
    obtain ⟨l, ds, rfl, rfl, hds⟩ := List.map_eq_cons_iff.1 hcs
    obtain ⟨ws, es, rfl, rfl, hes⟩ := List.map_eq_append_iff.1 hds
    obtain ⟨os, ls, rfl, rfl, rfl⟩ := List.map_eq_append_iff.1 hes
    have hlast := follows_of_limitClause hlimit
    have hlegal' : ∀ i ∈ items.flatMap Prod.snd, p.scope.Admits i.expr :=
      fun i hi => (admits_iff_legal (by exact hp) rfl).2 (hlegal.projections i hi)
    refine query_eq_ok.2 ⟨?_, items.flatMap Prod.snd, f :: l :: (ws ++ (os ++ ls)), source,
      p.moveTo (ws ++ (os ++ ls)), pred, p.moveTo (os ++ ls), keys, p.moveTo ls, lim, p.moveTo [],
      ?_, source_eq_ok.2 ⟨l, _, rfl, ht, hlegal.source, rfl⟩,
      predicate_reads hp hwhere hlegal.predicate (follows_of_orderClause horder hlast),
      orderBy_reads horder hlegal.orderBy hlast, limit_reads hlimit, rfl, rfl, rfl⟩
    · rw [front_token_eq (by decide)]
      exact ⟨o, _, hahead, ho⟩
    · rw [hahead, List.tail_cons]
      exact projections_reads hne hitems hlegal' hps hf

end Parser

/-! ### Lists of lexemes and texts -/

namespace Query

variable {c : Catalog}

theorem exists_ofLexemes (c : Catalog) (ts : List Lexeme) :
    ∃ us stop, Parser.ofLexemes c ts = ⟨c, us, stop, false⟩ ∧ us <+: ts ∧
      ((∀ l ∈ ts, l.token ≠ .endOfText) → us = ts) := by
  rw [Parser.ofLexemes]
  split
  · next hlast =>
    rw [List.getLast?_eq_none_iff.1 hlast]
    exact ⟨[], _, rfl, List.prefix_rfl, fun _ => rfl⟩
  · next l hlast =>
    split
    · next hl =>
      exact ⟨_, _, rfl, List.dropLast_prefix ts,
        fun hend => absurd hl (hend l (List.mem_of_getLast? hlast))⟩
    · exact ⟨ts, _, rfl, List.prefix_rfl, fun _ => rfl⟩

theorem ofLexemes_eq_ok_iff {ts us : List Lexeme} {stop : Position}
    (h : Parser.ofLexemes c ts = ⟨c, us, stop, false⟩) {q : Query} :
    Query.ofLexemes c ts = .ok q ↔ ∃ p', Parser.query ⟨c, us, stop, false⟩ = .ok q p' := by
  rw [Query.ofLexemes, h, Parser.run, EStateM.run]
  cases Parser.query ⟨c, us, stop, false⟩ <;> simp

/-- The query of a list of lexemes is derivable from the tokens in front of an end, and legal. -/
theorem derives_of_ofLexemes {ts : List Lexeme} {q : Query} (h : Query.ofLexemes c ts = .ok q) :
    ∃ us, us <+: ts ∧ Grammar.DerivesQuery c (us.map Lexeme.token) q ∧ q.Legal c := by
  obtain ⟨us, stop, hparser, hbegin, -⟩ := exists_ofLexemes c ts
  obtain ⟨p', hquery⟩ := (ofLexemes_eq_ok_iff hparser).1 h
  obtain ⟨vs, r, hus, -, hderives, hlegal⟩ := Parser.derives_of_query rfl hquery
  have hvs : vs <+: us := ⟨r, hus.symm⟩
  exact ⟨vs, hvs.trans hbegin, hderives, hlegal⟩

theorem ofLexemes_eq_ok {ts : List Lexeme} (hend : ∀ l ∈ ts, l.token ≠ .endOfText) {q : Query} :
    Query.ofLexemes c ts = .ok q ↔
      Grammar.DerivesQuery c (ts.map Lexeme.token) q ∧ q.Legal c := by
  obtain ⟨us, stop, hparser, -, hall⟩ := exists_ofLexemes c ts
  obtain rfl := hall hend
  rw [ofLexemes_eq_ok_iff hparser]
  constructor
  · rintro ⟨p', h⟩
    obtain ⟨vs, r, hvs, hr, hderives⟩ := Parser.derives_of_query rfl h
    have hnil : r = [] := by
      cases r with
      | nil => rfl
      | cons l r =>
        have hl : l ∈ us := by
          rw [show us = vs ++ l :: r from hvs]
          exact List.mem_append_right _ List.mem_cons_self
        exact absurd (hr l rfl) (hend l hl)
    have hvs : us = vs := by rw [show us = vs ++ r from hvs, hnil, List.append_nil]
    exact hvs ▸ hderives
  · rintro ⟨hderives, hlegal⟩
    exact ⟨_, Parser.query_reads rfl hderives hlegal⟩

/-- Tokens derive at most one legal query. -/
theorem eq_of_derives {ts : List Token} (hend : ∀ t ∈ ts, t ≠ .endOfText) {q q' : Query}
    (h : Grammar.DerivesQuery c ts q) (hq : q.Legal c) (h' : Grammar.DerivesQuery c ts q')
    (hq' : q'.Legal c) : q = q' := by
  let ls : List Lexeme := ts.map fun t => ⟨t, "", .start⟩
  have hls : ls.map Lexeme.token = ts := by simp [ls, Function.comp_def]
  have hend' : ∀ l ∈ ls, l.token ≠ .endOfText := by simpa [ls] using hend
  have hparse := (ofLexemes_eq_ok hend').2 ⟨hls.symm ▸ h, hq⟩
  have hparse' := (ofLexemes_eq_ok hend').2 ⟨hls.symm ▸ h', hq'⟩
  exact Except.ok.inj (hparse.symm.trans hparse')

theorem parse_eq_ok {text : String} {q : Query} : Query.parse c text = .ok q ↔
    ∃ ts, tokenize text = .ok ts ∧ Query.ofLexemes c ts = .ok q := by
  rw [Query.parse]
  cases tokenize text with
  | error e => simp
  | ok ts => cases hq : Query.ofLexemes c ts <;> simp [Except.mapError, hq]

/-- A list of lexemes is parsed exactly to the legal query that its tokens derive, if there is one,
and a text is parsed as its lexemes are. -/
theorem parses_iff_derives (c : Catalog) :
    (∀ ts : List Lexeme, (∀ l ∈ ts, l.token ≠ .endOfText) → ∀ q, Query.ofLexemes c ts = .ok q ↔
      Grammar.DerivesQuery c (ts.map Lexeme.token) q ∧ q.Legal c) ∧
    ∀ text q, Query.parse c text = .ok q ↔ ∃ ts, tokenize text = .ok ts ∧
      Grammar.DerivesQuery c (ts.map Lexeme.token) q ∧ q.Legal c := by
  refine ⟨fun ts hend q => ofLexemes_eq_ok hend, fun text q => ?_⟩
  rw [parse_eq_ok]
  refine exists_congr fun ts => and_congr_right fun hts => ?_
  exact ofLexemes_eq_ok (Scanner.token_ne_endOfText _ hts)

/-- The lexemes of `select 1 - 2 - 3 from . limit 0`, places and texts apart. -/
def differenceLexemes : List Lexeme :=
  ([.word .selectWord, .integer 1, .minus, .integer 2, .minus, .integer 3, .word .fromWord,
    .path ".", .word .limitWord, .integer 0] : List Token).map fun t => ⟨t, "", .start⟩

/-- Differences group to the left. -/
def differences : Query :=
  ⟨[⟨.binary (.arithmetic .subtract) (.binary (.arithmetic .subtract) (.literal (.integer 1))
    (.literal (.integer 2))) (.literal (.integer 3)), none⟩], ".", none, [], some 0⟩

open Grammar in
/-- The grammar derives the query from its tokens, so the parser reads it. -/
theorem parses_differences :
    (∀ l ∈ differenceLexemes, l.token ≠ .endOfText) ∧
      Query.ofLexemes .empty differenceLexemes = .ok differences := by
  have hend : ∀ l ∈ differenceLexemes, l.token ≠ .endOfText := by decide
  have hliteral (n : Int64) :
      Derives .empty (.chain .product) [.integer n] (.literal (.integer n)) :=
    .operand (.primary (.literal (.integer n)))
  have hsum := Derives.chain (.chain (.operand (hliteral 1)) .subtract (hliteral 2)) .subtract
    (hliteral 3)
  have hitem := Item.plain (Derives.operand (.operand (.comparison (.sum hsum))))
  have hderives : DerivesQuery .empty (differenceLexemes.map Lexeme.token) differences :=
    .query [(_, _)] (by simp) (List.forall_mem_singleton.2 hitem) (Or.inl rfl) .absent .absent
      (.present 0 (by decide))
  have hlegal : differences.Legal .empty := by
    refine ⟨List.forall_mem_singleton.2 ⟨?_, ?_⟩, by decide, fun _ h => (nomatch h),
      fun _ h => (nomatch h)⟩ <;> exact fun _ h => nomatch h
  exact ⟨hend, ((parses_iff_derives .empty).1 _ hend _).2 ⟨hderives, hlegal⟩⟩

end Query

end FileQuery
