import FileQuery.Proofs.Query.Reading

/-!
# Parsing lexemes that look alike

Two lists of lexemes look alike if they differ in nothing but what a blur of texts and places hides.
A name is looked up and its text goes into errors, but apart from that a parser does not look at
texts and places at all. So on lists that look alike every parser of expressions reads the same
expression and is left with lists that look alike, or it fails with errors that look alike. The
name after `as` is an exception, since it goes into the query as it is written.

## Main definitions

* `FileQuery.Blur`, `FileQuery.ParseError.blur`: what is kept of texts, places and errors.
* `FileQuery.Lexeme.Alike`, `FileQuery.AllAlike`: lexemes and lists that look alike.
* `FileQuery.Scope.Alike`: scopes that find the same under names that look alike.
* `FileQuery.Parsed.Alike`: outcomes that look alike.

## Main results

* `FileQuery.ExprParser.agrees`: every level reads lists that look alike alike.
-/

namespace FileQuery

/-- What is kept of a text and of a place. -/
structure Blur where
  text : String → String
  place : Position → Position

/-- What is kept of an error: its kind, with functions and numbers as they are. -/
def ParseError.blur (b : Blur) : ParseError → ParseError
  | .emptyQuery => .emptyQuery
  | .nonSelectQuery s p => .nonSelectQuery (b.text s) (b.place p)
  | .noProjection s p => .noProjection (b.text s) (b.place p)
  | .missingComma s p => .missingComma (b.text s) (b.place p)
  | .missingOpeningParen f p => .missingOpeningParen f (b.place p)
  | .missingClosingParen f s p => .missingClosingParen f (b.text s) (b.place p)
  | .missingSource p => .missingSource (b.place p)
  | .missingBy s p => .missingBy (b.text s) (b.place p)
  | .missingOrderColumn s p => .missingOrderColumn (b.text s) (b.place p)
  | .missingOrderComma s p => .missingOrderComma (b.text s) (b.place p)
  | .missingLimit p => .missingLimit (b.place p)
  | .invalidLimit s p => .invalidLimit (b.text s) (b.place p)
  | .unknownIdentifier s p => .unknownIdentifier (b.text s) (b.place p)
  | .arity f a n p => .arity f a n (b.place p)
  | .orderColumnOutOfRange i n p => .orderColumnOutOfRange i n (b.place p)
  | .unexpectedToken w s p => .unexpectedToken w (b.text s) (b.place p)
  | .notInPredicate f p => .notInPredicate f (b.place p)
  | .nestedAggregate f p => .nestedAggregate f (b.place p)

/-! ### Lexemes -/

/-- Tokens that are the same but for names. -/
inductive Token.Alike (b : Blur) : Token → Token → Prop
  | refl (t : Token) : Token.Alike b t t
  | identifier {name name' : String} (h : b.text name = b.text name') :
      Token.Alike b (.identifier name) (.identifier name')

structure Lexeme.Alike (b : Blur) (l l' : Lexeme) : Prop where
  token : l.token.Alike b l'.token
  text : b.text l.text = b.text l'.text
  position : b.place l.position = b.place l'.position
  endPosition : b.place l.endPosition = b.place l'.endPosition

/-- Lists of lexemes that look alike. Behind the keyword `as` they go on with the same token. -/
inductive AllAlike (b : Blur) : List Lexeme → List Lexeme → Prop
  | nil : AllAlike b [] []
  | cons {l l' : Lexeme} {ts us : List Lexeme} (hl : l.Alike b l')
      (hname : l.token = .word .asWord → ts.head?.map Lexeme.token = us.head?.map Lexeme.token)
      (h : AllAlike b ts us) : AllAlike b (l :: ts) (l' :: us)

variable {b : Blur}

namespace Token.Alike

variable {t t' : Token}

/-- Whether a token is a certain one, other than a name. -/
theorem eq_iff (h : t.Alike b t') {u : Token} (hu : ∀ name, u ≠ .identifier name) :
    t = u ↔ t' = u := by
  cases h with
  | refl => rfl
  | identifier _ => exact iff_of_false (hu _).symm (hu _).symm

theorem operator?_eq (h : t.Alike b t') (k : ExprParser.Chain) :
    k.operator? t = k.operator? t' := by
  cases h with
  | refl => rfl
  | identifier _ => cases k <;> rfl

theorem literal?_eq (h : t.Alike b t') : ExprParser.literal? t = ExprParser.literal? t' := by
  cases h <;> rfl

theorem startsExpression_eq (h : t.Alike b t') : t.startsExpression = t'.startsExpression := by
  cases h <;> rfl

end Token.Alike

namespace Lexeme.Alike

variable {l l' : Lexeme}

theorem toText (h : l.Alike b l') : b.text l.toText = b.text l'.toText := by
  rw [Lexeme.toText, Lexeme.toText]
  by_cases hend : l.token = .endOfText
  · rw [if_pos hend, if_pos ((h.token.eq_iff (by simp)).1 hend)]
  · rw [if_neg hend, if_neg fun hend' => hend ((h.token.eq_iff (by simp)).2 hend')]
    exact h.text

/-- Errors about lexemes that look alike. -/
theorem blur_eq (h : l.Alike b l') {e : String → Position → ParseError}
    (he : ∀ s p, (e s p).blur b = e (b.text s) (b.place p)) :
    (e l.toText l.position).blur b = (e l'.toText l'.position).blur b := by
  rw [he, he, h.toText, h.position]

theorem endAt {p p' : Position} (h : b.place p = b.place p') :
    (Lexeme.endAt p).Alike b (Lexeme.endAt p') :=
  ⟨.refl _, rfl, h, h⟩

end Lexeme.Alike

namespace AllAlike

variable {ts us : List Lexeme}

theorem tail (h : AllAlike b ts us) : AllAlike b ts.tail us.tail := by
  cases h with
  | nil => exact .nil
  | cons _ _ h => exact h

theorem dropLast (h : AllAlike b ts us) : AllAlike b ts.dropLast us.dropLast := by
  induction h with
  | nil => exact .nil
  | cons hl hname h ih =>
    cases h with
    | nil => exact .nil
    | cons hl' hname' h =>
      refine .cons hl (fun has => ?_) ih
      cases h with
      | nil => rfl
      | cons _ _ _ => exact hname has

theorem getLast? (h : AllAlike b ts us) : (ts.getLast? = none ∧ us.getLast? = none) ∨
    ∃ l l', ts.getLast? = some l ∧ us.getLast? = some l' ∧ l.Alike b l' := by
  induction h with
  | nil => exact Or.inl ⟨rfl, rfl⟩
  | @cons l l' ts us hl hname h ih =>
    cases h with
    | nil => exact Or.inr ⟨l, l', rfl, rfl, hl⟩
    | cons hl' hname' h =>
      rw [List.getLast?_cons_cons, List.getLast?_cons_cons]
      exact Or.inr (ih.resolve_left fun hnone => by simp at hnone)

end AllAlike

/-! ### Scopes and outcomes -/

/-- Whether names that look alike are names of the same definitions. -/
def Blur.Fits (b : Blur) (c : Catalog) : Prop :=
  ∀ name name', b.text name = b.text name' →
    c.findAttribute? name = c.findAttribute? name' ∧ c.findFunction? name = c.findFunction? name'

structure Scope.Alike (b : Blur) (s s' : Scope) : Prop where
  catalog : s.catalog = s'.catalog
  fits : b.Fits s.catalog
  stop : b.place s.stop = b.place s'.stop
  inPredicate : s.inPredicate = s'.inPredicate
  inAggregate : s.inAggregate = s'.inAggregate

/-- The same value with rests that look alike, or errors that do. -/
inductive Parsed.Alike (b : Blur) {α : Type} {m n : Nat} : Parsed α m → Parsed α n → Prop
  | done {a : α} {r r' : List Lexeme} {h : r.length < m} {h' : r'.length < n}
      (hr : AllAlike b r r') : Parsed.Alike b (.done a r h) (.done a r' h')
  | failed {e e' : ParseError} {r r' : List Lexeme} (he : e.blur b = e'.blur b) :
      Parsed.Alike b (.failed e r) (.failed e' r')

namespace Parsed.Alike

variable {α β : Type} {m n : Nat} {x : Parsed α m} {y : Parsed α n}

theorem weaken {m' n' : Nat} (h : x.Alike b y) (hm : m ≤ m') (hn : n ≤ n') :
    (x.weaken hm).Alike b (y.weaken hn) := by
  cases h with
  | done hr => exact .done hr
  | failed he => exact .failed he

theorem map (h : x.Alike b y) (f : α → β) : (x.map f).Alike b (y.map f) := by
  cases h with
  | done hr => exact .done hr
  | failed he => exact .failed he

/-- Outcomes that a test of lexemes decides between. -/
theorem ite {c c' : Prop} [Decidable c] [Decidable c'] {x' : Parsed α m} {y' : Parsed α n}
    (hc : c ↔ c') (h : c → x.Alike b y) (h' : ¬c → x'.Alike b y') :
    (if c then x else x').Alike b (if c' then y else y') := by
  by_cases hcase : c
  · rw [if_pos hcase, if_pos (hc.1 hcase)]
    exact h hcase
  · rw [if_neg hcase, if_neg fun hcase' => hcase (hc.2 hcase')]
    exact h' hcase

end Parsed.Alike

namespace Scope.Alike

variable {s s' : Scope} {ts us : List Lexeme} {α : Type} {m n : Nat}

theorem front (hs : s.Alike b s') (h : AllAlike b ts us) : (s.front ts).Alike b (s'.front us) := by
  cases h with
  | nil => exact .endAt hs.stop
  | cons hl _ _ => exact hl

theorem within (hs : s.Alike b s') (f : Function) : (s.within f).Alike b (s'.within f) where
  catalog := hs.catalog
  fits := hs.fits
  stop := hs.stop
  inPredicate := hs.inPredicate
  inAggregate := congrArg (· || f.isAggregate) hs.inAggregate

theorem unexpected (hs : s.Alike b s') (w : Expected) (h : AllAlike b ts us) :
    (s.unexpected w ts : Parsed α m).Alike b (s'.unexpected w us : Parsed α n) :=
  .failed ((hs.front h).blur_eq (e := .unexpectedToken w) fun _ _ => rfl)

theorem unclosed (hs : s.Alike b s') (f : Function) (h : AllAlike b ts us) :
    (s.unclosed f ts : Parsed α m).Alike b (s'.unclosed f us : Parsed α n) :=
  .failed ((hs.front h).blur_eq (e := .missingClosingParen f) fun _ _ => rfl)

end Scope.Alike

/-- Outcomes of which the same is kept. -/
theorem mapError_eq_cases {ε δ α : Type} {f : ε → δ} {x y : Except ε α}
    (h : x.mapError f = y.mapError f) :
    (∃ a, x = .ok a ∧ y = .ok a) ∨ ∃ e e', x = .error e ∧ y = .error e' ∧ f e = f e' := by
  cases x with
  | ok a =>
    cases y with
    | ok a' => exact Or.inl ⟨a, rfl, congrArg Except.ok (Except.ok.inj h).symm⟩
    | error e' => cases h
  | error e =>
    cases y with
    | ok a' => cases h
    | error e' => exact Or.inr ⟨e, e', rfl, rfl, Except.error.inj h⟩

namespace ExprParser

open Grammar (Level operandLevel)

/-- On lists of at most `n` lexemes that look alike, the parser of a level does alike. -/
def Agrees (b : Blur) (n : Nat) (level : Level) : Prop :=
  ∀ s s' ts us, s.Alike b s' → AllAlike b ts us → ts.length ≤ n →
    (parseLevel s level ts).Alike b (parseLevel s' level us)

variable {s s' : Scope} {k : Chain} {n : Nat} {ts us : List Lexeme} {l l' : Lexeme}

theorem Agrees.mono {m : Nat} {level : Level} (h : Agrees b n level) (hmn : m ≤ n) :
    Agrees b m level :=
  fun s s' ts us hs hts hm => h s s' ts us hs hts (Nat.le_trans hm hmn)

/-! ### Chains -/

theorem alike_chainRest (h : Agrees b n (operandLevel k)) (hs : s.Alike b s')
    (hts : AllAlike b ts us) (hn : ts.length ≤ n) (left : Expr) :
    (chainRest s k left ts).Alike b (chainRest s' k left us) := by
  induction n generalizing left ts us with
  | zero =>
    obtain rfl := List.length_eq_zero_iff.1 (Nat.le_zero.1 hn)
    cases hts
    rw [chainRest, chainRest]
    exact .done .nil
  | succ n ih =>
    cases hts with
    | nil =>
      rw [chainRest, chainRest]
      exact .done .nil
    | @cons l l' ts us hl hname hts =>
      rw [List.length_cons] at hn
      rw [chainRest, chainRest, ← hl.token.operator?_eq k]
      cases k.operator? l.token with
      | none => exact .done (.cons hl hname hts)
      | some op =>
        have hoperand := h s s' ts us hs hts (by omega)
        rw [operand_eq, operand_eq]
        dsimp only
        generalize parseLevel s (operandLevel k) ts = x at hoperand ⊢
        generalize parseLevel s' (operandLevel k) us = y at hoperand ⊢
        cases hoperand with
        | failed he => exact .failed he
        | @done right r r' hr' hr'' hr =>
          exact (ih (h.mono (Nat.le_succ n)) hr (by omega) _).weaken _ _

theorem agrees_chain (h : Agrees b n (operandLevel k)) : Agrees b n (.chain k) := by
  intro s s' ts us hs hts hn
  have hoperand := h s s' ts us hs hts hn
  rw [parseLevel, parseLevel, chain, chain, operand_eq, operand_eq]
  generalize parseLevel s (operandLevel k) ts = x at hoperand ⊢
  generalize parseLevel s' (operandLevel k) us = y at hoperand ⊢
  cases hoperand with
  | failed he => exact .failed he
  | @done left r r' hr' hr'' hr => exact (alike_chainRest h hs hr (by omega) left).weaken _ _

/-! ### Comparisons and prefix operators -/

theorem agrees_comparison (h : Agrees b n (.chain .sum)) : Agrees b n .comparison := by
  intro s s' ts us hs hts hn
  have hleft : (chain s .sum ts).Alike b (chain s' .sum us) := h s s' ts us hs hts hn
  rw [parseLevel, parseLevel, comparison, comparison]
  generalize chain s .sum ts = x at hleft ⊢
  generalize chain s' .sum us = y at hleft ⊢
  cases hleft with
  | failed he => exact .failed he
  | @done left r r' hr' hr'' hr =>
    cases hr with
    | nil => exact .done .nil
    | @cons l l' vs ws hl hname hvs =>
      have hstop : AllAlike b (l :: vs) (l' :: ws) := .cons hl hname hvs
      rw [List.length_cons] at hr'
      have hright : (chain s .sum vs).Alike b (chain s' .sum ws) := h s s' vs ws hs hvs (by omega)
      obtain ⟨t, text, p⟩ := l
      obtain ⟨t', text', p'⟩ := l'
      cases hl.token with
      | identifier _ => exact .done hstop
      | refl =>
        cases t with
        | relation op =>
          dsimp only
          generalize chain s .sum vs = x at hright ⊢
          generalize chain s' .sum ws = y at hright ⊢
          cases hright with
          | failed he => exact .failed he
          | done hr => exact .done hr
        | _ => exact .done hstop

theorem agrees_negation (h : Agrees b n .comparison) : Agrees b n .negation := by
  intro s s' ts us hs hts hn
  induction hts with
  | nil =>
    rw [negation_nil, negation_nil]
    exact h s s' [] [] hs .nil hn
  | @cons l l' ts us hl hname hts ih =>
    rw [parseLevel, parseLevel, negation, negation]
    refine .ite (hl.token.eq_iff (by simp)) (fun _ => ?_) fun _ => ?_
    · exact ((ih (Nat.le_of_succ_le hn)).map _).weaken _ _
    · exact h s s' _ _ hs (.cons hl hname hts) hn

theorem agrees_signed (h : Agrees b n .primary) : Agrees b n .signed := by
  intro s s' ts us hs hts hn
  induction hts with
  | nil =>
    rw [signed_nil, signed_nil]
    exact h s s' [] [] hs .nil hn
  | @cons l l' ts us hl hname hts ih =>
    rw [parseLevel, parseLevel, signed, signed]
    refine .ite (hl.token.eq_iff (by simp)) (fun _ => ?_) fun _ => ?_
    · exact ((ih (Nat.le_of_succ_le hn)).map _).weaken _ _
    · exact h s s' _ _ hs (.cons hl hname hts) hn

/-! ### Names -/

section Names

variable {name name' : String}

theorem mapError_callee (hs : s.Alike b s') (hname : b.text name = b.text name')
    {p p' : Position} (hp : b.place p = b.place p') :
    (callee s name p).mapError (ParseError.blur b) =
      (callee s' name' p').mapError (ParseError.blur b) := by
  rw [callee, callee, (hs.fits _ _ hname).2, ← hs.catalog, ← hs.inPredicate, ← hs.inAggregate]
  cases s.catalog.findFunction? name' with
  | none =>
    refine congrArg Except.error ?_
    rw [ParseError.blur, ParseError.blur, hname, hp]
  | some f =>
    dsimp only
    split
    · refine congrArg Except.error ?_
      rw [ParseError.blur, ParseError.blur, hp]
    split
    · refine congrArg Except.error ?_
      rw [ParseError.blur, ParseError.blur, hp]
    · rfl

theorem mapError_column (hs : s.Alike b s') (hname : b.text name = b.text name')
    {p p' q q' : Position} (hp : b.place p = b.place p') (hq : b.place q = b.place q') :
    (column s name p q).mapError (ParseError.blur b) =
      (column s' name' p' q').mapError (ParseError.blur b) := by
  rw [column, column, (hs.fits _ _ hname).1, (hs.fits _ _ hname).2, ← hs.catalog]
  cases s.catalog.findAttribute? name' with
  | some a => rfl
  | none =>
    cases s.catalog.findFunction? name' with
    | some f =>
      refine congrArg Except.error ?_
      rw [ParseError.blur, ParseError.blur, hq]
    | none =>
      refine congrArg Except.error ?_
      rw [ParseError.blur, ParseError.blur, hname, hp]

theorem mapError_call (f : FunctionEntry) (args : List Expr) {p p' : Position}
    (hp : b.place p = b.place p') : (call f args p).mapError (ParseError.blur b) =
      (call f args p').mapError (ParseError.blur b) := by
  rw [call, call]
  split
  · rfl
  · refine congrArg Except.error ?_
    rw [ParseError.blur, ParseError.blur, hp]

theorem alike_columnAt (hs : s.Alike b s') (hname : b.text name = b.text name')
    (hl : l.Alike b l') (hts : AllAlike b ts us) :
    (columnAt s name l ts).Alike b (columnAt s' name' l' us) := by
  have hcolumn := mapError_column hs hname hl.position (hs.front hts).position
  rw [columnAt, columnAt]
  rcases mapError_eq_cases hcolumn with ⟨a, ha, ha'⟩ | ⟨e, e', he, he', hblur⟩
  · rw [ha, ha']
    exact .done hts
  · rw [he, he']
    exact .failed hblur

/-! ### Arguments -/

theorem alike_skipStar (f : Function) (hts : AllAlike b ts us) :
    AllAlike b (skipStar f ts) (skipStar f us) := by
  cases hts with
  | nil => exact .nil
  | cons hl hname hts =>
    cases hts with
    | nil => exact .cons hl hname .nil
    | cons hl' hname' hts =>
      have hstar := hl.token.eq_iff (u := .star) (by simp)
      have hparen := hl'.token.eq_iff (u := .rightParen) (by simp)
      simp only [skipStar, hstar, hparen]
      split
      · exact .cons hl' hname' hts
      · exact .cons hl hname (.cons hl' hname' hts)

theorem alike_argumentList (h : Agrees b n (.chain .disjunction)) (hs : s.Alike b s')
    (hts : AllAlike b ts us) (hn : ts.length ≤ n) (f : Function) :
    (argumentList s f ts).Alike b (argumentList s' f us) := by
  induction n generalizing ts us with
  | zero =>
    obtain rfl := List.length_eq_zero_iff.1 (Nat.le_zero.1 hn)
    cases hts
    have hfront (s : Scope) : ¬(s.front []).token.startsExpression = true := Bool.false_ne_true
    rw [argumentList, argumentList, if_neg (hfront s), if_neg (hfront s')]
    exact hs.unclosed f .nil
  | succ n ih =>
    have hstarts := (hs.front hts).token.startsExpression_eq
    rw [argumentList, argumentList]
    refine .ite (by rw [hstarts]) (fun _ => ?_) fun _ => hs.unclosed f hts
    have harg : (chain s .disjunction ts).Alike b (chain s' .disjunction us) :=
      h s s' ts us hs hts hn
    generalize chain s .disjunction ts = x at harg ⊢
    generalize chain s' .disjunction us = y at harg ⊢
    cases harg with
    | failed he => exact .failed he
    | @done a r r' hr' hr'' hr =>
      cases hr with
      | nil => exact hs.unclosed f .nil
      | @cons l l' vs ws hl hname hvs =>
        have hstop : AllAlike b (l :: vs) (l' :: ws) := .cons hl hname hvs
        rw [List.length_cons] at hr'
        have hrest := ih (h.mono (Nat.le_succ n)) hvs (by omega)
        obtain ⟨t, text, p⟩ := l
        obtain ⟨t', text', p'⟩ := l'
        cases hl.token with
        | identifier _ => exact hs.unclosed f hstop
        | refl =>
          cases t with
          | comma => exact (hrest.map _).weaken _ _
          | rightParen => exact .done hvs
          | _ => exact hs.unclosed f hstop

theorem arguments_of_nil {f : Function} (h : skipStar f ts = []) :
    arguments s f ts = s.unclosed f [] := by
  rw [arguments]
  split
  · rfl
  · next h' => cases h.symm.trans h'

theorem arguments_of_cons {f : Function} {r : List Lexeme} (h : skipStar f ts = l :: r)
    (hle : r.length < ts.length) : arguments s f ts =
      if l.token = .rightParen then .done [] r (Nat.lt_succ_of_lt hle)
      else (argumentList s f (l :: r)).weaken (Nat.le_succ_of_le hle) := by
  rw [arguments]
  split
  · next h' => cases h.symm.trans h'
  · next l' r' h' =>
    obtain ⟨rfl, rfl⟩ := List.cons.inj (h.symm.trans h')
    rfl

theorem alike_arguments (h : Agrees b n (.chain .disjunction)) (hs : s.Alike b s')
    (hts : AllAlike b ts us) (hn : ts.length ≤ n) (f : Function) :
    (arguments s f ts).Alike b (arguments s' f us) := by
  have hskip := alike_skipStar f hts
  have hle := skipStar_length_le f ts
  have hle' := skipStar_length_le f us
  cases hvs : skipStar f ts with
  | nil =>
    cases hws : skipStar f us with
    | nil =>
      rw [arguments_of_nil hvs, arguments_of_nil hws]
      exact hs.unclosed f .nil
    | cons l' ws =>
      rw [hvs, hws] at hskip
      cases hskip
  | cons l vs =>
    cases hws : skipStar f us with
    | nil =>
      rw [hvs, hws] at hskip
      cases hskip
    | cons l' ws =>
      rw [hvs] at hskip hle
      rw [hws] at hskip hle'
      cases hskip with
      | cons hl hname hrest =>
        rw [arguments_of_cons hvs hle, arguments_of_cons hws hle']
        refine .ite (hl.token.eq_iff (by simp)) (fun _ => .done hrest) fun _ => ?_
        exact (alike_argumentList h hs (.cons hl hname hrest) (Nat.le_trans hle hn) f).weaken _ _

/-! ### Primaries -/

/-- A name with what follows it. -/
theorem alike_named (h : Agrees b n (.chain .disjunction)) (hs : s.Alike b s')
    (hname : b.text name = b.text name') (hl : l.Alike b l') (hts : AllAlike b ts us)
    (hn : ts.length ≤ n + 1) : (named s name l ts).Alike b (named s' name' l' us) := by
  cases hts with
  | nil =>
    rw [named_nil, named_nil]
    exact alike_columnAt hs hname hl .nil
  | @cons p p' ts us hp hafter hts =>
    rw [named, named]
    refine .ite (hp.token.eq_iff (by simp)) (fun _ => ?_) fun _ => ?_
    · rcases mapError_eq_cases (mapError_callee hs hname hl.position) with
        ⟨f, hf, hf'⟩ | ⟨e, e', he, he', hblur⟩
      · have hargs := alike_arguments h (hs.within f.function) hts
          (Nat.le_of_succ_le_succ hn) f.function
        rw [hf, hf']
        dsimp only
        generalize arguments (s.within f.function) f.function ts = x at hargs ⊢
        generalize arguments (s'.within f.function) f.function us = y at hargs ⊢
        cases hargs with
        | failed he => exact .failed he
        | @done args r r' hr' hr'' hr =>
          rcases mapError_eq_cases (mapError_call f args hl.position) with
            ⟨e, he, he'⟩ | ⟨e, e', he, he', hblur⟩
          · simp only [he, he']
            exact .done hr
          · simp only [he, he']
            exact .failed hblur
      · rw [he, he']
        exact .failed hblur
    · exact alike_columnAt hs hname hl (.cons hp hafter hts)

end Names

theorem agrees_primary (h : Agrees b n (.chain .disjunction)) : Agrees b (n + 1) .primary := by
  intro s s' ts us hs hts hn
  rw [parseLevel, parseLevel]
  cases hts with
  | nil =>
    rw [primary, primary]
    exact hs.unexpected _ .nil
  | @cons l l' ts us hl hname hts =>
    have hall : AllAlike b (l :: ts) (l' :: us) := .cons hl hname hts
    have hn := Nat.le_of_succ_le_succ hn
    have hinner : (chain s .disjunction ts).Alike b (chain s' .disjunction us) :=
      h s s' ts us hs hts hn
    have hnamed {name name' : String} (hword : b.text name = b.text name') :=
      alike_named h hs hword hl hts (Nat.le_succ_of_le hn)
    rw [primary, primary, ← hl.token.literal?_eq]
    cases literal? l.token with
    | some v => exact .done hts
    | none =>
      obtain ⟨t, text, p⟩ := l
      obtain ⟨t', text', p'⟩ := l'
      cases hl.token with
      | identifier hword => exact hnamed hword
      | refl =>
        cases t with
        | identifier name => exact hnamed rfl
        | leftParen =>
          dsimp only
          generalize chain s .disjunction ts = x at hinner ⊢
          generalize chain s' .disjunction us = y at hinner ⊢
          cases hinner with
          | failed he => exact .failed he
          | @done e r r' hr' hr'' hr =>
            cases hr with
            | nil => exact hs.unexpected _ .nil
            | @cons q q' vs ws hq hafter hvs =>
              exact .ite (hq.token.eq_iff (by simp)) (fun _ => .done hvs)
                fun _ => hs.unexpected _ (.cons hq hafter hvs)
        | _ => exact hs.unexpected _ hall

/-! ### All levels -/

/-- Every level agrees if primaries do. -/
theorem agrees_of_primary (h : Agrees b n .primary) (level : Level) : Agrees b n level := by
  have hsum : Agrees b n (.chain .sum) := agrees_chain (agrees_chain (agrees_signed h))
  have hnegation : Agrees b n .negation := agrees_negation (agrees_comparison hsum)
  match level with
  | .chain .disjunction => exact agrees_chain (agrees_chain hnegation)
  | .chain .conjunction => exact agrees_chain hnegation
  | .chain .sum => exact hsum
  | .chain .product => exact agrees_chain (agrees_signed h)
  | .negation => exact hnegation
  | .comparison => exact agrees_comparison hsum
  | .signed => exact agrees_signed h
  | .primary => exact h

theorem agrees (b : Blur) (n : Nat) (level : Level) : Agrees b n level := by
  -- Levels go down without reading anything; only a primary takes a lexeme before it goes back up.
  induction n generalizing level with
  | zero =>
    refine agrees_of_primary (fun s s' ts us hs hts hn => ?_) level
    obtain rfl := List.length_eq_zero_iff.1 (Nat.le_zero.1 hn)
    cases hts
    rw [parseLevel, parseLevel, primary, primary]
    exact hs.unexpected _ .nil
  | succ n ih => exact agrees_of_primary (agrees_primary (ih _)) level

/-- Expressions are read alike off lists that look alike. -/
theorem alike_chain (hs : s.Alike b s') (hts : AllAlike b ts us) (k : Chain) :
    (chain s k ts).Alike b (chain s' k us) :=
  agrees b ts.length (.chain k) s s' ts us hs hts (Nat.le_refl _)

end ExprParser

end FileQuery
