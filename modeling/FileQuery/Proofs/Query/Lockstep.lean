import FileQuery.Proofs.Query.Alike

/-!
# Parsing in lockstep

Two parsers in front of lists that look alike go on in lockstep: a step of the one and the same step
of the other give the same value and leave both in front of lists that look alike, or both fail with
errors that look alike. Sequences of steps inherit that from the steps they are made of, so lists of
lexemes that look alike are the same query, or none for the same reason.

## Main definitions

* `FileQuery.Parser.Alike`: parsers in front of lists that look alike.
* `FileQuery.Parser.Lockstep`, `FileQuery.Parser.Steady`: steps that do alike.
* `FileQuery.SyntaxError.blur`: what is kept of the reason why a text is no query.

## Main results

* `FileQuery.Parser.Lockstep.bind`, `FileQuery.Parser.Steady.bind`: steps in sequence.
* `FileQuery.Parser.steady_query`: the parser of queries.
* `FileQuery.Query.ofLexemes_alike`, `FileQuery.Query.parse_alike`: lists that look alike are the
  same query.
-/

namespace FileQuery

namespace Parser

open ExprParser

variable {b : Blur} {s s' : Scope} {ts us : List Lexeme}

/-! ### Projections -/

/-- A name after `as` is the same on both sides. -/
theorem alike_label (hs : s.Alike b s') (hts : AllAlike b ts us) :
    (label s ts).Alike b (label s' us) := by
  cases hts with
  | nil => exact .done .nil
  | @cons l l' ts us hl hname hts =>
    refine .ite (hl.token.eq_iff (by simp)) (fun has => ?_) fun _ => .done (.cons hl hname hts)
    have hfront := hs.front hts
    have htoken : (s.front ts).token = (s'.front us).token := by
      have hhead := hname has
      cases hts with
      | nil => rfl
      | cons _ _ _ => exact Option.some.inj hhead
    have hfail : (Parsed.failed (.unexpectedToken .alias (s.front ts).toText (s.front ts).position)
        ts.tail : Parsed (Option String) (ts.length + 2)).Alike b
        (.failed (.unexpectedToken .alias (s'.front us).toText (s'.front us).position) us.tail :
          Parsed (Option String) (us.length + 2)) :=
      .failed (hfront.blur_eq (e := .unexpectedToken .alias) fun _ _ => rfl)
    dsimp only
    rw [← htoken]
    cases (s.front ts).token with
    | identifier name => exact .done hts.tail
    | string name => exact .done hts.tail
    | _ => exact hfail

theorem alike_projection (hs : s.Alike b s') (hts : AllAlike b ts us) :
    (projection s ts).Alike b (projection s' us) := by
  cases hts with
  | nil => exact .failed ((hs.front .nil).blur_eq (e := .noProjection) fun _ _ => rfl)
  | @cons l l' ts us hl hname hts =>
    have hall : AllAlike b (l :: ts) (l' :: us) := .cons hl hname hts
    have hstarts := hl.token.startsExpression_eq
    have hexpr := alike_chain hs hall .disjunction
    rw [projection, projection]
    refine .ite (hl.token.eq_iff (by simp)) (fun _ => ?_) fun _ =>
      .ite (by rw [hstarts]) (fun _ => ?_) fun _ => .failed (hl.blur_eq fun _ _ => rfl)
    · rw [hs.catalog]
      exact .done hts
    · generalize chain s .disjunction (l :: ts) = x at hexpr ⊢
      generalize chain s' .disjunction (l' :: us) = y at hexpr ⊢
      cases hexpr with
      | failed he => exact .failed he
      | done hr => exact ((alike_label hs hr).map _).weaken _ _

theorem alike_projections (hs : s.Alike b s') (hts : AllAlike b ts us) :
    (projections s ts).Alike b (projections s' us) := by
  -- What is left behind a projection is no tail of `ts`, so the induction is on the length.
  obtain ⟨n, hn⟩ : ∃ n, n = ts.length := ⟨_, rfl⟩
  induction n using Nat.strongRecOn generalizing ts us with
  | ind n ih =>
    subst hn
    have hfirst := alike_projection hs hts
    rw [projections, projections]
    generalize projection s ts = x at hfirst ⊢
    generalize projection s' us = y at hfirst ⊢
    cases hfirst with
    | failed he => exact .failed he
    | @done ps r r' hr' hr'' hr =>
      cases hr with
      | nil =>
        refine .failed ?_
        rw [ParseError.blur, ParseError.blur, hs.stop]
      | @cons l l' vs ws hl hname hvs =>
        have hstop : AllAlike b (l :: vs) (l' :: ws) := .cons hl hname hvs
        have hrest := ih vs.length (Nat.lt_of_succ_lt hr') hvs rfl
        have hmissing := hl.blur_eq (e := .missingComma) fun _ _ => rfl
        have hposition := hl.position
        obtain ⟨t, text, p⟩ := l
        obtain ⟨t', text', p'⟩ := l'
        cases hl.token with
        | identifier _ => exact .failed hmissing
        | refl =>
          cases t with
          | comma => exact (hrest.map _).weaken _ _
          | endOfText =>
            refine .failed ?_
            rw [ParseError.blur, ParseError.blur, hposition]
          | word k =>
            cases k with
            | fromWord => exact .done hstop
            | _ => exact .failed hmissing
          | _ => exact .failed hmissing

/-! ### Columns to order by -/

theorem alike_direction (hts : AllAlike b ts us) :
    (direction ts).1 = (direction us).1 ∧ AllAlike b (direction ts).2 (direction us).2 := by
  cases hts with
  | nil => exact ⟨rfl, .nil⟩
  | @cons l l' ts us hl hname hts =>
    have hall : AllAlike b (l :: ts) (l' :: us) := .cons hl hname hts
    obtain ⟨t, text, p⟩ := l
    obtain ⟨t', text', p'⟩ := l'
    cases hl.token with
    | identifier _ => exact ⟨rfl, hall⟩
    | refl =>
      cases t with
      | word k =>
        cases k with
        | ascWord => exact ⟨rfl, hts⟩
        | descWord => exact ⟨rfl, hts⟩
        | _ => exact ⟨rfl, hall⟩
      | _ => exact ⟨rfl, hall⟩

/-- What is read behind a column with its direction, in front of fewer than `n` lexemes. -/
def afterKey (columns : Nat) (s : Scope) (key : OrderKey) {n : Nat} :
    (ts : List Lexeme) → ts.length < n → Parsed (List OrderKey) n
  | l :: r, h =>
    match l.token with
    | .integer _ => .failed (.missingOrderComma l.toText l.position) (l :: r)
    | .comma => ((orderKeys columns s r).map (key :: ·)).weaken (Nat.le_of_lt (Nat.lt_of_succ_lt h))
    | _ => .done [key] (l :: r) h
  | [], h => .done [key] [] h

theorem orderKeys_integer {columns : Nat} {l : Lexeme} {n : Int64} (hl : l.token = .integer n)
    (hn : ¬(n.toInt < 1 ∨ columns < n.toInt)) {r : List Lexeme} (hr : (direction ts).2 = r)
    (hlt : r.length < (l :: ts).length) : orderKeys columns s (l :: ts) =
      afterKey columns s ⟨n.toInt.toNat, (direction ts).1⟩ r hlt := by
  rw [orderKeys]
  split
  · next m hm =>
    obtain rfl : m = n := Token.integer.inj (hm.symm.trans hl)
    rw [if_neg hn]
    dsimp only
    split
    · next hnil =>
      obtain rfl := hnil.symm.trans hr
      rfl
    · next l' r' hcons =>
      obtain rfl := hcons.symm.trans hr
      obtain ⟨t, text, p⟩ := l'
      cases t <;> rfl
  · next hne => exact absurd hl (hne n)

theorem alike_afterKey (columns : Nat) (key : OrderKey) (hts : AllAlike b ts us) {m n : Nat}
    (hm : ts.length < m) (hn : us.length < n)
    (h : ∀ vs ws, AllAlike b vs ws → vs.length < ts.length →
      (orderKeys columns s vs).Alike b (orderKeys columns s' ws)) :
    (afterKey columns s key ts hm).Alike b (afterKey columns s' key us hn) := by
  cases hts with
  | nil => exact .done .nil
  | @cons l l' vs ws hl hname hvs =>
    have hstop : AllAlike b (l :: vs) (l' :: ws) := .cons hl hname hvs
    have hmissing := hl.blur_eq (e := .missingOrderComma) fun _ _ => rfl
    obtain ⟨t, text, p⟩ := l
    obtain ⟨t', text', p'⟩ := l'
    cases hl.token with
    | identifier _ => exact .done hstop
    | refl =>
      cases t with
      | comma =>
        have hrest := (h vs ws hvs (Nat.lt_succ_self _)).map (key :: ·)
        exact hrest.weaken (Nat.le_of_lt (Nat.lt_of_succ_lt hm))
          (Nat.le_of_lt (Nat.lt_of_succ_lt hn))
      | integer _ => exact .failed hmissing
      | _ => exact .done hstop

theorem alike_orderKeys (hs : s.Alike b s') (columns : Nat) (hts : AllAlike b ts us) :
    (orderKeys columns s ts).Alike b (orderKeys columns s' us) := by
  obtain ⟨n, hn⟩ : ∃ n, n = ts.length := ⟨_, rfl⟩
  induction n using Nat.strongRecOn generalizing ts us with
  | ind n ih =>
    subst hn
    cases hts with
    | nil =>
      rw [orderKeys, orderKeys]
      exact .failed ((hs.front .nil).blur_eq (e := .missingOrderColumn) fun _ _ => rfl)
    | @cons l l' vs ws hl hname hvs =>
      have hmissing := hl.blur_eq (e := .missingOrderColumn) fun _ _ => rfl
      have hposition := hl.position
      obtain ⟨t, text, p⟩ := l
      obtain ⟨t', text', p'⟩ := l'
      cases hl.token with
      | identifier _ =>
        rw [orderKeys, orderKeys]
        exact .failed hmissing
      | refl =>
        cases t with
        | integer n =>
          by_cases hn : n.toInt < 1 ∨ columns < n.toInt
          · rw [orderKeys, orderKeys]
            dsimp only
            rw [if_pos hn, if_pos hn]
            refine .failed ?_
            rw [ParseError.blur, ParseError.blur, hposition]
          · obtain ⟨hdirection, hrest⟩ := alike_direction hvs
            have hle := direction_length_le vs
            have hafter : ∀ ts us, AllAlike b ts us → ts.length < vs.length →
                (orderKeys columns s ts).Alike b (orderKeys columns s' us) :=
              fun ts us hts hlt => ih ts.length (Nat.lt_succ_of_lt hlt) hts rfl
            rw [orderKeys_integer rfl hn rfl (Nat.lt_succ_of_le hle),
              orderKeys_integer rfl hn rfl (Nat.lt_succ_of_le (direction_length_le ws)),
              ← hdirection]
            refine alike_afterKey columns _ hrest _ _ fun ts us hts hlt => ?_
            exact hafter ts us hts (Nat.lt_of_lt_of_le hlt hle)
        | _ =>
          rw [orderKeys, orderKeys]
          exact .failed hmissing

/-! ### Steps -/

/-- Parsers in front of lists that look alike. -/
structure Alike (b : Blur) (p p' : Parser) : Prop where
  scope : p.scope.Alike b p'.scope
  ahead : AllAlike b p.ahead p'.ahead

namespace Alike

variable {p p' : Parser}

theorem moveTo (h : p.Alike b p') (hts : AllAlike b ts us) : (p.moveTo ts).Alike b (p'.moveTo us) :=
  ⟨h.scope, hts⟩

theorem front (h : p.Alike b p') : p.front.Alike b p'.front := h.scope.front h.ahead

theorem setPredicate (h : p.Alike b p') (inPredicate : Bool) :
    Parser.Alike b { p with inPredicate := inPredicate } { p' with inPredicate := inPredicate } :=
  ⟨⟨h.scope.catalog, h.scope.fits, h.scope.stop, rfl, rfl⟩, h.ahead⟩

end Alike

/-- Results of steps: related values with parsers that look alike, or errors that do. -/
inductive AlikeResult (b : Blur) {α β : Type} (R : α → β → Prop) :
    EStateM.Result ParseError Parser α → EStateM.Result ParseError Parser β → Prop
  | ok {a : α} {a' : β} {p p' : Parser} (ha : R a a') (hp : p.Alike b p') :
      AlikeResult b R (.ok a p) (.ok a' p')
  | error {e e' : ParseError} {p p' : Parser} (he : e.blur b = e'.blur b) :
      AlikeResult b R (.error e p) (.error e' p')

/-- Steps that do alike in front of lists that look alike. -/
def Lockstep (b : Blur) {α β : Type} (R : α → β → Prop) (x : Step α) (y : Step β) : Prop :=
  ∀ p p', p.Alike b p' → AlikeResult b R (x p) (y p')

/-- Steps that do alike as they are. -/
abbrev Steady (b : Blur) {α : Type} (x : Step α) : Prop := Lockstep b Eq x x

section Steps

variable {α β γ δ : Type} {R : α → β → Prop} {Q : γ → δ → Prop}

theorem Lockstep.bind {x : Step α} {y : Step β} {f : α → Step γ} {g : β → Step δ}
    (h : Lockstep b R x y) (hf : ∀ a a', R a a' → Lockstep b Q (f a) (g a')) :
    Lockstep b Q (x >>= f) (y >>= g) := by
  intro p p' hp
  have hxy := h p p' hp
  change AlikeResult b Q (EStateM.bind x f p) (EStateM.bind y g p')
  rw [EStateM.bind, EStateM.bind]
  generalize x p = u at hxy ⊢
  generalize y p' = v at hxy ⊢
  cases hxy with
  | ok ha hp => exact hf _ _ ha _ _ hp
  | error he => exact .error he

theorem Lockstep.throw {e e' : ParseError} (h : e.blur b = e'.blur b) :
    Lockstep b R (MonadExcept.throw e) (MonadExcept.throw e') :=
  fun _ _ _ => .error h

/-- A test whose outcome is the same on both sides. -/
theorem Lockstep.ite {c c' : Prop} [Decidable c] [Decidable c'] {x x' : Step α} {y y' : Step β}
    (hc : c ↔ c') (h : Lockstep b R x y) (h' : Lockstep b R x' y') :
    Lockstep b R (if c then x else x') (if c' then y else y') := by
  by_cases hcase : c
  · rw [if_pos hcase, if_pos (hc.1 hcase)]
    exact h
  · rw [if_neg hcase, if_neg fun hcase' => hcase (hc.2 hcase')]
    exact h'

theorem lockstep_peek : Lockstep b (Lexeme.Alike b) Step.peek Step.peek :=
  fun _ _ hp => .ok hp.front hp

theorem Steady.bind {x : Step α} {f : α → Step γ} (h : Steady b x) (hf : ∀ a, Steady b (f a)) :
    Steady b (x >>= f) :=
  Lockstep.bind h fun a _ heq => heq ▸ hf a

theorem steady_pure (a : α) : Steady b (pure a : Step α) := fun _ _ hp => .ok rfl hp

theorem steady_skip : Steady b Step.skip := fun _ _ hp => .ok rfl (hp.moveTo hp.ahead.tail)

theorem steady_sees (k : Keyword) : Steady b (Step.sees k) :=
  fun _ _ hp => .ok (decide_eq_decide.2 (hp.front.token.eq_iff (by simp))) hp

theorem steady_failAt {e : String → Position → ParseError}
    (he : ∀ s p, (e s p).blur b = e (b.text s) (b.place p)) :
    Steady b (Step.failAt e : Step α) :=
  lockstep_peek.bind fun _ _ hl => .throw (hl.blur_eq he)

theorem steady_ofParsed {f : (s : Scope) → (ts : List Lexeme) → Parsed α ts.length}
    (h : ∀ s s' ts us, s.Alike b s' → AllAlike b ts us → (f s ts).Alike b (f s' us)) :
    Steady b (Step.ofParsed f) := by
  intro p p' hp
  have hf := h _ _ _ _ hp.scope hp.ahead
  rw [Step.ofParsed, Step.ofParsed]
  generalize f p.scope p.ahead = x at hf ⊢
  generalize f p'.scope p'.ahead = y at hf ⊢
  cases hf with
  | done hr => exact .ok rfl (hp.moveTo hr)
  | failed he => exact .error he

theorem steady_setPredicate (inPredicate : Bool) : Steady b
    (modify fun p : Parser => { p with inPredicate := inPredicate } : Step PUnit) :=
  fun _ _ hp => .ok rfl (hp.setPredicate inPredicate)

end Steps

/-! ### Clauses -/

theorem steady_source : Steady b source := by
  refine steady_skip.bind fun _ => lockstep_peek.bind fun l l' hl => ?_
  have hmissing : Lockstep b Eq (throw (.missingSource l.position) : Step String)
      (throw (.missingSource l'.position)) := by
    refine .throw ?_
    rw [ParseError.blur, ParseError.blur, hl.position]
  have hgiven (text : String) : Lockstep b Eq
      (if Text.isBlank text then throw (.missingSource l.position) else do
        Step.skip
        return text : Step String)
      (if Text.isBlank text then throw (.missingSource l'.position) else do
        Step.skip
        return text) :=
    .ite Iff.rfl hmissing (steady_skip.bind fun _ => steady_pure text)
  obtain ⟨t, text, p⟩ := l
  obtain ⟨t', text', p'⟩ := l'
  cases hl.token with
  | identifier _ => exact hmissing
  | refl =>
    cases t with
    | path text => exact hgiven text
    | string text => exact hgiven text
    | _ => exact hmissing

theorem steady_predicate : Steady b predicate := by
  have hexpr : Steady b expression :=
    steady_ofParsed fun s s' ts us hs hts => alike_chain hs hts .disjunction
  refine (steady_sees .whereWord).bind fun seen => .ite Iff.rfl ?_ (steady_pure none)
  exact steady_skip.bind fun _ => (steady_setPredicate true).bind fun _ => hexpr.bind fun e =>
    (steady_setPredicate false).bind fun _ => steady_pure (some e)

theorem steady_orderBy (columns : Nat) : Steady b (orderBy columns) := by
  have hkeys : Steady b (do Step.skip; Step.ofParsed (orderKeys columns)) :=
    steady_skip.bind fun _ =>
      steady_ofParsed fun s s' ts us hs hts => alike_orderKeys hs columns hts
  have hfail : Steady b (Step.failAt .missingBy : Step Unit) :=
    steady_failAt fun _ _ => rfl
  refine (steady_sees .orderWord).bind fun seen => .ite Iff.rfl ?_ (steady_pure [])
  refine steady_skip.bind fun _ => (steady_sees .byWord).bind fun seen => ?_
  exact .ite Iff.rfl hkeys (hfail.bind fun _ => hkeys)

theorem steady_limit : Steady b limit := by
  have hinvalid : Steady b (Step.failAt .invalidLimit : Step (Option Nat)) :=
    steady_failAt fun _ _ => rfl
  refine (steady_sees .limitWord).bind fun seen => .ite Iff.rfl ?_ (steady_pure none)
  refine steady_skip.bind fun _ => lockstep_peek.bind fun l l' hl => ?_
  have hposition := hl.position
  obtain ⟨t, text, p⟩ := l
  obtain ⟨t', text', p'⟩ := l'
  cases hl.token with
  | identifier _ => exact hinvalid
  | refl =>
    cases t with
    | endOfText =>
      refine .throw ?_
      rw [ParseError.blur, ParseError.blur, hposition]
    | integer n => exact .ite Iff.rfl (steady_skip.bind fun _ => steady_pure _) hinvalid
    | _ => exact hinvalid

/-! ### Queries -/

theorem steady_end (q : Query) : Steady b
    (do unless (← Step.peek).token = .endOfText do
          Step.failAt (.unexpectedToken .endOfQuery)
        Step.skip
        return q : Step Query) := by
  have hdone : Steady b (do Step.skip; return q : Step Query) :=
    steady_skip.bind fun _ => steady_pure q
  have hfail : Steady b (Step.failAt (.unexpectedToken .endOfQuery) : Step Unit) :=
    steady_failAt fun _ _ => rfl
  refine lockstep_peek.bind fun l l' hl => ?_
  exact .ite (hl.token.eq_iff (by simp)) hdone (hfail.bind fun _ => hdone)

theorem steady_query : Steady b query := by
  have hprojections : Steady b (Step.ofParsed projections) :=
    steady_ofParsed fun s s' ts us hs hts => alike_projections hs hts
  have hfail : Steady b (Step.failAt .nonSelectQuery : Step Unit) :=
    steady_failAt fun _ _ => rfl
  have hempty : Steady b (throw .emptyQuery : Step PUnit) := .throw rfl
  have hclauses := steady_skip.bind fun _ => hprojections.bind fun projections =>
    steady_source.bind fun source => steady_predicate.bind fun predicate =>
    (steady_orderBy projections.length).bind fun orderBy => steady_limit.bind fun limit =>
    steady_end (b := b) ⟨projections, source, predicate, orderBy, limit⟩
  have hselect := (steady_sees (b := b) .selectWord).bind fun seen =>
    Lockstep.ite (c := seen = true) Iff.rfl hclauses (hfail.bind fun _ => hclauses)
  refine lockstep_peek.bind fun l l' hl => ?_
  exact .ite (hl.token.eq_iff (by simp)) (hempty.bind fun _ => hselect) hselect

/-- Parsers of lists that look alike. -/
theorem alike_ofLexemes {c : Catalog} (hc : b.Fits c) (h : AllAlike b ts us) :
    (ofLexemes c ts).Alike b (ofLexemes c us) := by
  rw [ofLexemes, ofLexemes]
  rcases h.getLast? with ⟨hts, hus⟩ | ⟨l, l', hts, hus, hl⟩
  · rw [hts, hus]
    exact ⟨⟨rfl, hc, rfl, rfl, rfl⟩, .nil⟩
  · rw [hts, hus]
    dsimp only
    by_cases hend : l.token = .endOfText
    · rw [if_pos hend, if_pos ((hl.token.eq_iff (by simp)).1 hend)]
      exact ⟨⟨rfl, hc, hl.position, rfl, rfl⟩, h.dropLast⟩
    · rw [if_neg hend, if_neg fun hend' => hend ((hl.token.eq_iff (by simp)).2 hend')]
      exact ⟨⟨rfl, hc, hl.endPosition, rfl, rfl⟩, h⟩

end Parser

/-- Lists of lexemes that look alike are the same query, or none for reasons that look alike. -/
theorem Query.ofLexemes_alike {b : Blur} {c : Catalog} (hc : b.Fits c) {ts us : List Lexeme}
    (h : AllAlike b ts us) : (Query.ofLexemes c ts).mapError (ParseError.blur b) =
      (Query.ofLexemes c us).mapError (ParseError.blur b) := by
  have hquery := Parser.steady_query _ _ (Parser.alike_ofLexemes hc h)
  rw [Query.ofLexemes, Query.ofLexemes, Parser.run, Parser.run, EStateM.run, EStateM.run]
  generalize Parser.query (Parser.ofLexemes c ts) = u at hquery ⊢
  generalize Parser.query (Parser.ofLexemes c us) = v at hquery ⊢
  cases hquery with
  | ok ha _ => rw [ha]
  | error he => exact congrArg Except.error he

/-- What is kept of the reason why a text is no query. -/
def SyntaxError.blur (b : Blur) : SyntaxError → SyntaxError
  | .lex e => .lex e
  | .parse e => .parse (e.blur b)

/-- Texts whose lexemes look alike are the same query, or none for reasons that look alike. -/
theorem Query.parse_alike {b : Blur} {c : Catalog} (hc : b.Fits c) {text text' : String}
    {ts us : List Lexeme} (hts : tokenize text = .ok ts) (hus : tokenize text' = .ok us)
    (h : AllAlike b ts us) : (Query.parse c text).mapError (SyntaxError.blur b) =
      (Query.parse c text').mapError (SyntaxError.blur b) := by
  rw [Query.parse, Query.parse, hts, hus]
  dsimp only
  rcases mapError_eq_cases (Query.ofLexemes_alike hc h) with ⟨q, hq, hq'⟩ | ⟨e, e', he, he', hblur⟩
  · rw [hq, hq']
  · rw [he, he']
    exact congrArg (Except.error ∘ SyntaxError.parse) hblur

end FileQuery
