import FileQuery.Proofs.Query.Lockstep
import FileQuery.Proofs.Query.Recognition

/-!
# Where errors are reported

A parser that fails points at a lexeme in front of which it stood: the place of the error is the
place of the lexeme, and the text that the error quotes is that of the lexeme. The lexeme is one of
those that were ahead, or the end of the query behind them. Only an empty query has no place. So an
error that finds the end of the query, or misses a limit there, is at the place that the parser
holds for the end.

## Main definitions

* `FileQuery.ParseError.found?`, `FileQuery.ParseError.FindsEnd`: what an error found.
* `FileQuery.ParseError.IsAbout`: an error points at a lexeme.
* `FileQuery.Blames`: an error points at one of some lexemes or at the end behind them.
* `FileQuery.Parsed.Within`, `FileQuery.Parser.Within`: outcomes that read on or blame what is
  ahead.

## Main results

* `FileQuery.ExprParser.locates`: every level of expressions.
* `FileQuery.Parser.within_query`: the parser of queries.
* `FileQuery.Query.blames_of_ofLexemes`: why a list of lexemes is no query.
-/

namespace FileQuery

namespace ParseError

/-- The text that an error quotes as found at its place. -/
def found? : ParseError → Option String
  | .nonSelectQuery s _ => some s
  | .noProjection s _ => some s
  | .missingComma s _ => some s
  | .missingClosingParen _ s _ => some s
  | .missingBy s _ => some s
  | .missingOrderColumn s _ => some s
  | .missingOrderComma s _ => some s
  | .invalidLimit s _ => some s
  | .unexpectedToken _ s _ => some s
  | _ => none

/-- An error that says that the query ended: it quotes the end, or it misses a limit there. -/
def FindsEnd (e : ParseError) : Prop :=
  e.found? = some "end of query" ∨ ∃ p, e = .missingLimit p

/-- An error points at a lexeme: it has the place of the lexeme and quotes its text. A limit is
missing only where the query ends. -/
structure IsAbout (e : ParseError) (l : Lexeme) : Prop where
  position : e.position? = some l.position
  found : ∀ s ∈ e.found?, s = l.toText
  limit : ∀ p, e = .missingLimit p → l.token = .endOfText

namespace IsAbout

variable {e : ParseError} {l : Lexeme}

theorem of_found (hposition : e.position? = some l.position)
    (hfound : e.found? = some l.toText) : e.IsAbout l where
  position := hposition
  found s hs := (Option.some.inj (hfound.symm.trans hs)).symm
  limit p he := by
    rw [he] at hfound
    cases hfound

/-- An error that quotes nothing and is not about a limit. -/
theorem of_place (hposition : e.position? = some l.position) (hfound : e.found? = none)
    (hlimit : ∀ p, e ≠ .missingLimit p) : e.IsAbout l where
  position := hposition
  found s hs := by
    rw [hfound] at hs
    cases hs
  limit p he := absurd he (hlimit p)

end IsAbout

end ParseError

/-- An error points at one of some lexemes or at the end behind them. -/
def Blames (stop : Position) (ts : List Lexeme) (e : ParseError) : Prop :=
  ∃ l ∈ ts ++ [.endAt stop], e.IsAbout l

/-- An outcome of a parser in front of a list: it leaves an end of the list, or it blames one of its
lexemes or the end of the query. -/
inductive Parsed.Within (stop : Position) (ts : List Lexeme) {α : Type} {n : Nat} :
    Parsed α n → Prop
  | done {a : α} {r : List Lexeme} {h : r.length < n} (hr : r <:+ ts) :
      Parsed.Within stop ts (.done a r h)
  | failed {e : ParseError} {r : List Lexeme} (he : Blames stop ts e) :
      Parsed.Within stop ts (.failed e r)

section Closure

variable {stop : Position} {ts vs : List Lexeme} {l : Lexeme} {e : ParseError} {s : Scope}
variable {α β : Type} {m n : Nat} {x : Parsed α n}

theorem Blames.mono (h : Blames stop vs e) (hvs : vs <:+ ts) : Blames stop ts e := by
  obtain ⟨us, rfl⟩ := hvs
  obtain ⟨l, hl, he⟩ := h
  refine ⟨l, ?_, he⟩
  rw [List.append_assoc]
  exact List.mem_append_right us hl

theorem Blames.head (h : e.IsAbout l) : Blames stop (l :: ts) e := ⟨l, List.mem_cons_self, h⟩

/-- The lexeme ahead is one of those ahead or the end. -/
theorem Blames.front (h : e.IsAbout (s.front ts)) : Blames s.stop ts e := by
  cases ts with
  | nil => exact ⟨_, List.mem_singleton_self _, h⟩
  | cons l ts => exact .head h

namespace Parsed.Within

theorem mono (h : x.Within stop vs) (hvs : vs <:+ ts) : x.Within stop ts := by
  cases h with
  | done hr => exact .done (hr.trans hvs)
  | failed he => exact .failed (he.mono hvs)

theorem weaken (h : x.Within stop ts) (hn : n ≤ m) : (x.weaken hn).Within stop ts := by
  cases h with
  | done hr => exact .done hr
  | failed he => exact .failed he

theorem map (h : x.Within stop ts) (f : α → β) : (x.map f).Within stop ts := by
  cases h with
  | done hr => exact .done hr
  | failed he => exact .failed he

theorem unexpected (w : Expected) : (s.unexpected w ts : Parsed α n).Within s.stop ts :=
  .failed (.front (.of_found rfl rfl))

theorem unclosed (f : Function) : (s.unclosed f ts : Parsed α n).Within s.stop ts :=
  .failed (.front (.of_found rfl rfl))

end Parsed.Within

end Closure

namespace ExprParser

open Grammar (Level operandLevel)

/-- On lists of at most `n` lexemes, the parser of a level stays within what is ahead. -/
def Locates (n : Nat) (level : Level) : Prop :=
  ∀ s ts, ts.length ≤ n → (parseLevel s level ts).Within s.stop ts

variable {s : Scope} {k : Chain} {n : Nat} {ts : List Lexeme} {l : Lexeme}

theorem Locates.mono {m : Nat} {level : Level} (h : Locates n level) (hmn : m ≤ n) :
    Locates m level :=
  fun s ts hm => h s ts (Nat.le_trans hm hmn)

/-! ### Chains -/

theorem within_chainRest (h : Locates n (operandLevel k)) (hn : ts.length ≤ n) (left : Expr) :
    (chainRest s k left ts).Within s.stop ts := by
  induction n generalizing left ts with
  | zero =>
    obtain rfl := List.length_eq_zero_iff.1 (Nat.le_zero.1 hn)
    rw [chainRest]
    exact .done List.suffix_rfl
  | succ n ih =>
    cases ts with
    | nil =>
      rw [chainRest]
      exact .done List.suffix_rfl
    | cons l ts =>
      rw [List.length_cons] at hn
      rw [chainRest]
      cases k.operator? l.token with
      | none => exact .done List.suffix_rfl
      | some op =>
        have hoperand := (h s ts (by omega)).mono (List.suffix_cons l ts)
        rw [operand_eq]
        dsimp only
        generalize parseLevel s (operandLevel k) ts = x at hoperand ⊢
        cases hoperand with
        | failed he => exact .failed he
        | @done right r hr' hr =>
          exact ((ih (h.mono (Nat.le_succ n)) (by omega) _).mono hr).weaken _

theorem locates_chain (h : Locates n (operandLevel k)) : Locates n (.chain k) := by
  intro s ts hn
  have hoperand := h s ts hn
  rw [parseLevel, chain, operand_eq]
  generalize parseLevel s (operandLevel k) ts = x at hoperand ⊢
  cases hoperand with
  | failed he => exact .failed he
  | @done left r hr' hr => exact ((within_chainRest h (by omega) left).mono hr).weaken _

/-! ### Comparisons and prefix operators -/

theorem locates_comparison (h : Locates n (.chain .sum)) : Locates n .comparison := by
  intro s ts hn
  have hleft : (chain s .sum ts).Within s.stop ts := h s ts hn
  rw [parseLevel, comparison]
  generalize chain s .sum ts = x at hleft ⊢
  cases hleft with
  | failed he => exact .failed he
  | @done left r hr' hr =>
    cases r with
    | nil => exact .done hr
    | cons l vs =>
      rw [List.length_cons] at hr'
      have hright : (chain s .sum vs).Within s.stop ts :=
        (h s vs (by omega)).mono ((List.suffix_cons l vs).trans hr)
      obtain ⟨t, text, p⟩ := l
      cases t with
      | relation op =>
        dsimp only
        generalize chain s .sum vs = x at hright ⊢
        cases hright with
        | failed he => exact .failed he
        | done hr => exact .done hr
      | _ => exact .done hr

theorem locates_negation (h : Locates n .comparison) : Locates n .negation := by
  intro s ts hn
  induction ts with
  | nil =>
    rw [negation_nil]
    exact h s [] hn
  | cons l ts ih =>
    by_cases hl : l.token = .word .notWord
    · rw [parseLevel, negation, if_pos hl]
      exact (((ih (Nat.le_of_succ_le hn)).map _).mono (List.suffix_cons l ts)).weaken _
    · rw [negation_other hl]
      exact h s _ hn

theorem locates_signed (h : Locates n .primary) : Locates n .signed := by
  intro s ts hn
  induction ts with
  | nil =>
    rw [signed_nil]
    exact h s [] hn
  | cons l ts ih =>
    by_cases hl : l.token = .minus
    · rw [parseLevel, signed, if_pos hl]
      exact (((ih (Nat.le_of_succ_le hn)).map _).mono (List.suffix_cons l ts)).weaken _
    · rw [signed_other hl]
      exact h s _ hn

/-! ### Names -/

/-- What a name cannot be called for is an error at the name. -/
theorem isAbout_of_callee {name : String} {e : ParseError}
    (h : callee s name l.position = .error e) : e.IsAbout l := by
  rw [callee] at h
  cases hf : s.catalog.findFunction? name with
  | none =>
    rw [hf] at h
    cases h
    exact .of_place rfl rfl fun _ => by simp
  | some f =>
    rw [hf] at h
    dsimp only at h
    split at h
    · cases h
      exact .of_place rfl rfl fun _ => by simp
    split at h
    · cases h
      exact .of_place rfl rfl fun _ => by simp
    · cases h

theorem isAbout_of_call {f : FunctionEntry} {args : List Expr} {e : ParseError}
    (h : call f args l.position = .error e) : e.IsAbout l := by
  rw [call] at h
  split at h
  · cases h
  · cases h
    exact .of_place rfl rfl fun _ => by simp

/-- A name that is no column is an error there, or behind it where a parenthesis is missing. -/
theorem within_columnAt (name : String) :
    (columnAt s name l ts).Within s.stop (l :: ts) := by
  rw [columnAt, column]
  cases s.catalog.findAttribute? name with
  | some a => exact .done (List.suffix_cons l ts)
  | none =>
    cases s.catalog.findFunction? name with
    | some f =>
      have hfront : Blames s.stop ts (.missingOpeningParen f.function (s.front ts).position) :=
        .front (.of_place rfl rfl fun _ => by simp)
      exact .failed (hfront.mono (List.suffix_cons l ts))
    | none => exact .failed (.head (.of_place rfl rfl fun _ => by simp))

/-! ### Arguments -/

theorem skipStar_suffix (f : Function) (ts : List Lexeme) : skipStar f ts <:+ ts := by
  rcases skipStar_cases f ts with hskip | ⟨-, l, p, vs, rfl, -, -, hskip⟩
  · exact ⟨[], hskip⟩
  · rw [hskip]
    exact List.suffix_cons l _

theorem within_argumentList (h : Locates n (.chain .disjunction)) (hn : ts.length ≤ n)
    (f : Function) : (argumentList s f ts).Within s.stop ts := by
  induction n generalizing ts with
  | zero =>
    obtain rfl := List.length_eq_zero_iff.1 (Nat.le_zero.1 hn)
    rw [argumentList, if_neg (show ¬(s.front []).token.startsExpression = true from
      Bool.false_ne_true)]
    exact .unclosed f
  | succ n ih =>
    rw [argumentList]
    split
    case isFalse => exact .unclosed f
    have harg : (chain s .disjunction ts).Within s.stop ts := h s ts hn
    generalize chain s .disjunction ts = x at harg ⊢
    cases harg with
    | failed he => exact .failed he
    | @done a r hr' hr =>
      cases r with
      | nil => exact (Parsed.Within.unclosed f).mono hr
      | cons l vs =>
        rw [List.length_cons] at hr'
        have hrest := (ih (h.mono (Nat.le_succ n)) (by omega)).mono
          ((List.suffix_cons l vs).trans hr)
        obtain ⟨t, text, p⟩ := l
        cases t with
        | comma => exact (hrest.map _).weaken _
        | rightParen => exact .done ((List.suffix_cons _ vs).trans hr)
        | _ => exact (Parsed.Within.unclosed f).mono hr

theorem within_arguments (h : Locates n (.chain .disjunction)) (hn : ts.length ≤ n)
    (f : Function) : (arguments s f ts).Within s.stop ts := by
  have hskip := skipStar_suffix f ts
  cases hvs : skipStar f ts with
  | nil =>
    rw [arguments_of_nil hvs]
    rw [hvs] at hskip
    exact (Parsed.Within.unclosed f).mono hskip
  | cons l vs =>
    rw [hvs] at hskip
    have hle := hskip.length_le
    rw [arguments_of_cons hvs hle]
    split
    · exact .done ((List.suffix_cons l vs).trans hskip)
    · exact ((within_argumentList h (Nat.le_trans hle hn) f).mono hskip).weaken _

/-! ### Primaries -/

/-- A name with what follows it. -/
theorem within_named (h : Locates n (.chain .disjunction)) (name : String)
    (hn : ts.length ≤ n + 1) : (named s name l ts).Within s.stop (l :: ts) := by
  cases ts with
  | nil =>
    rw [named_nil]
    exact within_columnAt name
  | cons p ts =>
    have hsuffix : ts <:+ l :: p :: ts := (List.suffix_cons p ts).trans (List.suffix_cons l _)
    rw [named]
    split
    case isFalse => exact within_columnAt name
    cases hcallee : callee s name l.position with
    | error e => exact .failed (.head (isAbout_of_callee hcallee))
    | ok f =>
      have hargs := (within_arguments (s := s.within f.function) h
        (Nat.le_of_succ_le_succ hn) f.function).mono hsuffix
      dsimp only
      generalize arguments (s.within f.function) f.function ts = x at hargs ⊢
      cases hargs with
      | failed he => exact .failed he
      | @done args r hr' hr =>
        dsimp only
        cases hcall : call f args l.position with
        | error e => exact .failed (.head (isAbout_of_call hcall))
        | ok e => exact .done hr

theorem locates_primary (h : Locates n (.chain .disjunction)) : Locates (n + 1) .primary := by
  intro s ts hn
  rw [parseLevel]
  cases ts with
  | nil =>
    rw [primary]
    exact .unexpected _
  | cons l ts =>
    have hn := Nat.le_of_succ_le_succ hn
    have hinner : (chain s .disjunction ts).Within s.stop (l :: ts) :=
      (h s ts hn).mono (List.suffix_cons l ts)
    have hnamed (name : String) : (named s name l ts).Within s.stop (l :: ts) :=
      within_named h name (Nat.le_succ_of_le hn)
    rw [primary]
    cases literal? l.token with
    | some v => exact .done (List.suffix_cons l ts)
    | none =>
      obtain ⟨t, text, p⟩ := l
      cases t with
      | identifier name => exact hnamed name
      | leftParen =>
        dsimp only
        generalize chain s .disjunction ts = x at hinner ⊢
        cases hinner with
        | failed he => exact .failed he
        | @done e r hr' hr =>
          cases r with
          | nil => exact (Parsed.Within.unexpected _).mono hr
          | cons q vs =>
            dsimp only
            split
            · exact .done ((List.suffix_cons q vs).trans hr)
            · exact (Parsed.Within.unexpected _).mono hr
      | _ => exact .unexpected _

/-! ### All levels -/

/-- Every level stays within what is ahead if primaries do. -/
theorem locates_of_primary (h : Locates n .primary) (level : Level) : Locates n level := by
  have hsum : Locates n (.chain .sum) := locates_chain (locates_chain (locates_signed h))
  have hnegation : Locates n .negation := locates_negation (locates_comparison hsum)
  match level with
  | .chain .disjunction => exact locates_chain (locates_chain hnegation)
  | .chain .conjunction => exact locates_chain hnegation
  | .chain .sum => exact hsum
  | .chain .product => exact locates_chain (locates_signed h)
  | .negation => exact hnegation
  | .comparison => exact locates_comparison hsum
  | .signed => exact locates_signed h
  | .primary => exact h

theorem locates (n : Nat) (level : Level) : Locates n level := by
  induction n generalizing level with
  | zero =>
    refine locates_of_primary (fun s ts hn => ?_) level
    obtain rfl := List.length_eq_zero_iff.1 (Nat.le_zero.1 hn)
    rw [parseLevel, primary]
    exact .unexpected _
  | succ n ih => exact locates_of_primary (locates_primary (ih _)) level

/-- Expressions of any kind are read within what is ahead. -/
theorem within_chain (s : Scope) (k : Chain) (ts : List Lexeme) :
    (chain s k ts).Within s.stop ts :=
  locates ts.length (.chain k) s ts (Nat.le_refl _)

end ExprParser

namespace Parser

open ExprParser

variable {s : Scope} {ts : List Lexeme} {l : Lexeme}

/-! ### Projections -/

theorem within_label (s : Scope) (ts : List Lexeme) : (label s ts).Within s.stop ts := by
  cases ts with
  | nil => exact .done List.suffix_rfl
  | cons l ts =>
    rw [label]
    split
    case isFalse => exact .done List.suffix_rfl
    have hname : ts.tail <:+ l :: ts := (List.tail_suffix ts).trans (List.suffix_cons l ts)
    have hfront : Blames s.stop ts
        (.unexpectedToken .alias (s.front ts).toText (s.front ts).position) :=
      .front (.of_found rfl rfl)
    dsimp only
    cases (s.front ts).token with
    | identifier name => exact .done hname
    | string name => exact .done hname
    | _ => exact .failed (hfront.mono (List.suffix_cons l ts))

theorem within_projection (s : Scope) (ts : List Lexeme) :
    (projection s ts).Within s.stop ts := by
  cases ts with
  | nil => exact .failed (.front (.of_found rfl rfl))
  | cons l ts =>
    rw [projection]
    split
    · exact .done (List.suffix_cons l ts)
    split
    case isFalse => exact .failed (.head (.of_found rfl rfl))
    have hexpr := within_chain s .disjunction (l :: ts)
    generalize chain s .disjunction (l :: ts) = x at hexpr ⊢
    cases hexpr with
    | failed he => exact .failed he
    | @done e r hr' hr => exact (((within_label s r).map _).mono hr).weaken _

theorem within_projections (s : Scope) (ts : List Lexeme) :
    (projections s ts).Within s.stop ts := by
  -- What is left behind a projection is no tail of `ts`, so the induction is on the length.
  obtain ⟨n, hn⟩ : ∃ n, n = ts.length := ⟨_, rfl⟩
  induction n using Nat.strongRecOn generalizing ts with
  | ind n ih =>
    subst hn
    have hfirst := within_projection s ts
    rw [projections]
    generalize projection s ts = x at hfirst ⊢
    cases hfirst with
    | failed he => exact .failed he
    | @done ps r hr' hr =>
      cases r with
      | nil =>
        have hmissing : Blames s.stop [] (.missingSource s.stop) :=
          .front (.of_place rfl rfl fun _ => by simp)
        exact .failed (hmissing.mono hr)
      | cons l vs =>
        have hrest := (ih vs.length (Nat.lt_of_succ_lt hr') vs rfl).mono
          ((List.suffix_cons l vs).trans hr)
        have hcomma : Blames s.stop (l :: vs) (.missingComma l.toText l.position) :=
          .head (.of_found rfl rfl)
        have hsource : Blames s.stop (l :: vs) (.missingSource l.position) :=
          .head (.of_place rfl rfl fun _ => by simp)
        obtain ⟨t, text, p⟩ := l
        cases t with
        | comma => exact (hrest.map _).weaken _
        | endOfText => exact .failed (hsource.mono hr)
        | word k =>
          cases k with
          | fromWord => exact .done hr
          | _ => exact .failed (hcomma.mono hr)
        | _ => exact .failed (hcomma.mono hr)

/-! ### Columns to order by -/

theorem direction_suffix (ts : List Lexeme) : (direction ts).2 <:+ ts := by
  obtain ⟨us, hus, -⟩ := key_of_direction 0 ts
  exact ⟨us, hus.symm⟩

theorem within_afterKey (columns : Nat) (key : OrderKey) {n : Nat} (hn : ts.length < n)
    (h : ∀ vs, vs.length < ts.length → (orderKeys columns s vs).Within s.stop vs) :
    (afterKey columns s key ts hn).Within s.stop ts := by
  cases ts with
  | nil => exact .done List.suffix_rfl
  | cons l vs =>
    have hrest := ((h vs (Nat.lt_succ_self _)).map (key :: ·)).mono (List.suffix_cons l vs)
    have hcomma : Blames s.stop (l :: vs) (.missingOrderComma l.toText l.position) :=
      .head (.of_found rfl rfl)
    obtain ⟨t, text, p⟩ := l
    cases t with
    | comma => exact hrest.weaken (Nat.le_of_lt (Nat.lt_of_succ_lt hn))
    | integer _ => exact .failed hcomma
    | _ => exact .done List.suffix_rfl

theorem within_orderKeys (columns : Nat) (s : Scope) (ts : List Lexeme) :
    (orderKeys columns s ts).Within s.stop ts := by
  obtain ⟨n, hn⟩ : ∃ n, n = ts.length := ⟨_, rfl⟩
  induction n using Nat.strongRecOn generalizing ts with
  | ind n ih =>
    subst hn
    cases ts with
    | nil =>
      rw [orderKeys]
      exact .failed (.front (.of_found rfl rfl))
    | cons l vs =>
      have hmissing : Blames s.stop (l :: vs) (.missingOrderColumn l.toText l.position) :=
        .head (.of_found rfl rfl)
      have hrange (n : Int64) :
          Blames s.stop (l :: vs) (.orderColumnOutOfRange n columns l.position) :=
        .head (.of_place rfl rfl fun _ => by simp)
      obtain ⟨t, text, p⟩ := l
      cases t with
      | integer n =>
        by_cases hn : n.toInt < 1 ∨ columns < n.toInt
        · rw [orderKeys]
          dsimp only
          rw [if_pos hn]
          exact .failed (hrange n)
        · have hdirection := direction_suffix vs
          rw [orderKeys_integer rfl hn rfl (Nat.lt_succ_of_le (direction_length_le vs))]
          refine (within_afterKey columns _ _ fun ws hws => ih ws.length ?_ ws rfl).mono
            (hdirection.trans (List.suffix_cons _ vs))
          exact Nat.lt_succ_of_lt (Nat.lt_of_lt_of_le hws hdirection.length_le)
      | _ =>
        rw [orderKeys]
        exact .failed hmissing

/-! ### Steps -/

/-- What a step of a parser comes to: it reads on towards the same end, or it blames what was
ahead. -/
inductive Within (p : Parser) {α : Type} : EStateM.Result ParseError Parser α → Prop
  | ok {a : α} {p' : Parser} (hstop : p'.stop = p.stop) (hahead : p'.ahead <:+ p.ahead) :
      Within p (.ok a p')
  | error {e : ParseError} {p' : Parser} (he : Blames p.stop p.ahead e) : Within p (.error e p')

section Steps

variable {α β : Type} {p q : Parser} {x : Step α} {f : α → Step β}

/-- Steps of a parser that has read on are steps of the parser before. -/
theorem Within.mono {u : EStateM.Result ParseError Parser α} (h : q.Within u)
    (hstop : q.stop = p.stop) (hahead : q.ahead <:+ p.ahead) : p.Within u := by
  cases h with
  | ok hstop' hahead' => exact .ok (hstop'.trans hstop) (hahead'.trans hahead)
  | error he => exact .error (hstop ▸ he.mono hahead)

theorem Within.bind (h : p.Within (x p)) (hf : ∀ a (q : Parser), q.Within (f a q)) :
    p.Within ((x >>= f) p) := by
  change p.Within (EStateM.bind x f p)
  rw [EStateM.bind]
  generalize x p = u at h ⊢
  cases h with
  | ok hstop hahead => exact (hf _ _).mono hstop hahead
  | error he => exact .error he

theorem within_pure (a : α) : p.Within ((pure a : Step α) p) := .ok rfl List.suffix_rfl

/-- An error about the lexeme ahead. -/
theorem within_throw {e : ParseError} (h : e.IsAbout p.front) : p.Within ((throw e : Step α) p) :=
  .error (.front (s := p.scope) h)

theorem within_failAt {e : String → Position → ParseError}
    (hposition : ∀ s q, (e s q).position? = some q) (hfound : ∀ s q, (e s q).found? = some s) :
    p.Within ((Step.failAt e : Step α) p) :=
  within_throw (.of_found (hposition _ _) (hfound _ _))

theorem within_skip_bind {f : Unit → Step β}
    (h : (p.moveTo p.ahead.tail).Within (f () (p.moveTo p.ahead.tail))) :
    p.Within ((Step.skip >>= f) p) :=
  h.mono rfl (List.tail_suffix _)

/-- A clause behind a keyword that may be absent. -/
theorem within_clause {k : Keyword} {absent : α} (h : ∀ q : Parser, q.Within (x q)) :
    p.Within ((do if ← Step.sees k then x else return absent : Step α) p) := by
  rw [sees_bind]
  split
  · exact h p
  · exact within_pure absent

theorem within_ofParsed {f : (s : Scope) → (ts : List Lexeme) → Parsed α ts.length}
    (h : ∀ s ts, (f s ts).Within s.stop ts) : p.Within (Step.ofParsed f p) := by
  have hf := h p.scope p.ahead
  rw [Step.ofParsed]
  generalize f p.scope p.ahead = x at hf ⊢
  cases hf with
  | done hr => exact .ok rfl hr
  | failed he => exact .error he

end Steps

/-! ### Clauses -/

variable {p : Parser}

theorem within_source : p.Within (source p) := by
  refine within_skip_bind ?_
  generalize p.moveTo p.ahead.tail = q
  rw [peek_bind]
  have hmissing : q.Within ((throw (.missingSource q.front.position) : Step String) q) :=
    within_throw (.of_place rfl rfl fun _ => by simp)
  have hgiven (text : String) : q.Within
      ((if Text.isBlank text then throw (.missingSource q.front.position) else do
        Step.skip
        return text : Step String) q) := by
    split
    · exact hmissing
    · exact within_skip_bind (within_pure text)
  cases q.front.token with
  | path text => exact hgiven text
  | string text => exact hgiven text
  | _ => exact hmissing

theorem within_predicate : p.Within (predicate p) := by
  refine within_clause fun q => within_skip_bind ?_
  generalize q.moveTo q.ahead.tail = q
  have hset (inPredicate : Bool) (r : Parser) : r.Within
      ((modify fun p : Parser => { p with inPredicate := inPredicate } : Step PUnit) r) :=
    .ok rfl List.suffix_rfl
  have hexpr (r : Parser) : r.Within (expression r) :=
    within_ofParsed fun s ts => within_chain s .disjunction ts
  exact (hset true q).bind fun _ r => (hexpr r).bind fun e r => (hset false r).bind fun _ r =>
    within_pure (some e)

theorem within_orderBy (columns : Nat) : p.Within (orderBy columns p) := by
  refine within_clause fun q => within_skip_bind ?_
  generalize q.moveTo q.ahead.tail = q
  have hkeys (r : Parser) :
      r.Within ((do Step.skip; Step.ofParsed (orderKeys columns) : Step (List OrderKey)) r) :=
    within_skip_bind (within_ofParsed (within_orderKeys columns))
  have hfail : q.Within ((Step.failAt .missingBy : Step Unit) q) :=
    within_failAt (fun _ _ => rfl) fun _ _ => rfl
  rw [sees_bind]
  split
  · exact hkeys q
  · exact hfail.bind fun _ r => hkeys r

theorem within_limit : p.Within (limit p) := by
  refine within_clause fun q => within_skip_bind ?_
  generalize q.moveTo q.ahead.tail = q
  have hinvalid : q.Within ((Step.failAt .invalidLimit : Step (Option Nat)) q) :=
    within_failAt (fun _ _ => rfl) fun _ _ => rfl
  have hmissing (hend : q.front.token = .endOfText) :
      q.Within ((throw (.missingLimit q.front.position) : Step (Option Nat)) q) :=
    within_throw ⟨rfl, (fun _ h => by cases h), fun _ _ => hend⟩
  rw [peek_bind]
  cases hfront : q.front.token with
  | endOfText => exact hmissing hfront
  | integer n =>
    dsimp only
    split
    · exact within_skip_bind (within_pure _)
    · exact hinvalid
  | _ => exact hinvalid

/-! ### Queries -/

theorem within_end (a : Query) : p.Within ((do
    unless (← Step.peek).token = .endOfText do Step.failAt (.unexpectedToken .endOfQuery)
    Step.skip
    return a : Step Query) p) := by
  have hdone (q : Parser) : q.Within ((do Step.skip; return a : Step Query) q) :=
    within_skip_bind (within_pure a)
  have hfail : p.Within ((Step.failAt (.unexpectedToken .endOfQuery) : Step Unit) p) :=
    within_failAt (fun _ _ => rfl) fun _ _ => rfl
  rw [peek_bind]
  split
  · exact hdone p
  · exact hfail.bind fun _ q => hdone q

/-- A parser that is not at the end of the query reads on or blames what is ahead. -/
theorem within_query (hend : p.front.token ≠ .endOfText) : p.Within (query p) := by
  have hclauses (q : Parser) : q.Within ((do
      Step.skip
      let projections ← Step.ofParsed projections
      let source ← source
      let predicate ← predicate
      let orderBy ← orderBy projections.length
      let limit ← limit
      unless (← Step.peek).token = .endOfText do Step.failAt (.unexpectedToken .endOfQuery)
      Step.skip
      return ⟨projections, source, predicate, orderBy, limit⟩ : Step Query) q) :=
    within_skip_bind <| (within_ofParsed within_projections).bind fun _ _ =>
      within_source.bind fun _ _ => within_predicate.bind fun _ _ =>
      (within_orderBy _).bind fun _ _ => within_limit.bind fun _ _ => within_end _
  have hfail : p.Within ((Step.failAt .nonSelectQuery : Step Unit) p) :=
    within_failAt (fun _ _ => rfl) fun _ _ => rfl
  rw [query, peek_bind, if_neg hend]
  change p.Within ((Step.sees .selectWord >>= _) p)
  rw [sees_bind]
  split
  · exact hclauses p
  · exact hfail.bind fun _ q => hclauses q

end Parser

/-- An error of a list of lexemes that is no query says that there is none, or it points at one of
the lexemes in front of the end or at the end. -/
theorem Query.blames_of_ofLexemes {c : Catalog} {ts : List Lexeme} {e : ParseError}
    (h : Query.ofLexemes c ts = .error e) :
    e = .emptyQuery ∧ (Parser.ofLexemes c ts).front.token = .endOfText ∨
      Blames (Parser.ofLexemes c ts).stop (Parser.ofLexemes c ts).ahead e := by
  rw [Query.ofLexemes, Parser.run, EStateM.run] at h
  generalize Parser.ofLexemes c ts = p at h ⊢
  by_cases hend : p.front.token = .endOfText
  · rw [Parser.query, Parser.peek_bind, if_pos hend] at h
    exact Or.inl ⟨(Except.error.inj h).symm, hend⟩
  · have hquery := Parser.within_query hend
    generalize Parser.query p = u at h hquery
    cases hquery with
    | ok => cases h
    | error he =>
      obtain rfl := Except.error.inj h
      exact Or.inr he

end FileQuery
