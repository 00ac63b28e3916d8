import FileQuery.Catalog.Standard
import FileQuery.Query.Cursor

/-!
# Flags are restored

A cursor keeps in two flags what is allowed at its place. Wherever a part of a query is left, behind
its last lexeme or at an error, the depth of aggregate calls is what it was before: a failure inside
of arguments is passed on only after the depth is reset. The flag for predicates is not reset at an
error. It stays set when a query fails inside its predicate, and this is the only way in which a
call on a new cursor leaves it set.

## Main definitions

* `FileQuery.Cursor.Restores`: steps that leave both flags as they were.
* `FileQuery.Cursor.EntersPredicate`, `FileQuery.Cursor.FailsInPredicate`: how far a query is read.

## Main results

* `FileQuery.Cursor.restores_chain`: expressions restore the flags.
* `FileQuery.Cursor.flags_of_call`: what a call does to the flags.
-/

namespace FileQuery

namespace Cursor

variable {α β : Type}

/-! ### Steps in sequence -/

namespace Step

variable {m : Step α} {f : α → Step β} {c c' c₁ : Cursor} {r : Except ParseError β} {a : α}
  {e : ParseError}

@[simp] theorem run_pure (a : α) (c : Cursor) : (pure a : Step α).run c = .ok (.ok a, c) := rfl

@[simp] theorem run_throw (e : ParseError) (c : Cursor) :
    (throw e : Step α).run c = .ok (.error e, c) := rfl

@[simp] theorem run_get (c : Cursor) : (get : Step Cursor).run c = .ok (.ok c, c) := rfl

@[simp] theorem run_modify (g : Cursor → Cursor) (c : Cursor) :
    (modify g : Step Unit).run c = .ok (.ok (), g c) := rfl

theorem run_advance (c : Cursor) : advance.run c = .ok (.ok (), c.next) := rfl

theorem run_setPredicate (b : Bool) (c : Cursor) :
    (setPredicate b).run c = .ok (.ok (), { c with inPredicate := b }) := rfl

@[simp] theorem run_ofOutcome (x : Except ParseError α) (c : Cursor) :
    (ofOutcome x).run c = .ok (x, c) := rfl

theorem run_bind_of_ok (h : m.run c = .ok (.ok a, c₁)) : (m >>= f).run c = (f a).run c₁ := by
  change Except.bind (m.run c) _ = _
  rw [h]
  rfl

theorem run_bind_of_error (h : m.run c = .ok (.error e, c₁)) :
    (m >>= f).run c = .ok (.error e, c₁) := by
  change Except.bind (m.run c) _ = _
  rw [h]
  rfl

/-- A sequence that is not broken off has gone through its parts, or its first part has failed. -/
theorem of_run_bind (h : (m >>= f).run c = .ok (r, c')) :
    (∃ a c₁, m.run c = .ok (.ok a, c₁) ∧ (f a).run c₁ = .ok (r, c')) ∨
      ∃ e, m.run c = .ok (.error e, c') ∧ r = .error e := by
  cases hm : m.run c with
  | error cause =>
    have hbind : (m >>= f).run c = .error cause := by
      change Except.bind (m.run c) _ = _
      rw [hm]
      rfl
    cases hbind.symm.trans h
  | ok x =>
    obtain ⟨x, c₁⟩ := x
    cases x with
    | error e =>
      obtain ⟨rfl, rfl⟩ := Prod.mk.inj (Except.ok.inj ((run_bind_of_error hm).symm.trans h))
      exact Or.inr ⟨e, rfl, rfl⟩
    | ok a => exact Or.inl ⟨a, c₁, rfl, (run_bind_of_ok hm).symm.trans h⟩

theorem run_attempt_of_ok {x : Except ParseError α} (h : m.run c = .ok (x, c₁)) :
    (attempt m).run c = .ok (.ok x, c₁) := by
  change Except.bind (m.run c) _ = _
  rw [h]
  rfl

theorem of_run_attempt {x : Except ParseError (Except ParseError α)}
    (h : (attempt m).run c = .ok (x, c')) : ∃ y, m.run c = .ok (y, c') ∧ x = .ok y := by
  cases hm : m.run c with
  | error cause =>
    have hattempt : (attempt m).run c = .error cause := by
      change Except.bind (m.run c) _ = _
      rw [hm]
      rfl
    cases hattempt.symm.trans h
  | ok y =>
    obtain ⟨y, c₁⟩ := y
    obtain ⟨rfl, rfl⟩ := Prod.mk.inj (Except.ok.inj ((run_attempt_of_ok hm).symm.trans h))
    exact ⟨y, rfl, rfl⟩

end Step

open Step ExprParser

/-! ### Steps that restore the flags -/

/-- Wherever a step ends without breaking off, the flags are what they were before. -/
def Restores (m : Step α) : Prop :=
  ∀ c r c', m.run c = .ok (r, c') →
    c'.inPredicate = c.inPredicate ∧ c'.aggregateDepth = c.aggregateDepth

variable {m : Step α} {f : α → Step β}

theorem Restores.bind (hm : Restores m) (hf : ∀ a, Restores (f a)) : Restores (m >>= f) := by
  intro c r c' h
  rcases of_run_bind h with ⟨a, c₁, h₁, h₂⟩ | ⟨e, h, -⟩
  · obtain ⟨hp, hd⟩ := hm c _ c₁ h₁
    obtain ⟨hp', hd'⟩ := hf a c₁ r c' h₂
    exact ⟨hp'.trans hp, hd'.trans hd⟩
  · exact hm c _ c' h

/-- A step that does not touch the flags restores them. -/
theorem restores_of_run {g : Cursor → Except ParseError α × Cursor}
    (h : ∀ c, m.run c = .ok (g c)) (hp : ∀ c, (g c).2.inPredicate = c.inPredicate)
    (hd : ∀ c, (g c).2.aggregateDepth = c.aggregateDepth) : Restores m := by
  intro c r c' hc
  obtain ⟨rfl, rfl⟩ := Prod.mk.inj (Except.ok.inj ((h c).symm.trans hc))
  exact ⟨hp c, hd c⟩

theorem restores_pure (a : α) : Restores (pure a : Step α) :=
  restores_of_run (run_pure a) (fun _ => rfl) fun _ => rfl

theorem restores_throw (e : ParseError) : Restores (throw e : Step α) :=
  restores_of_run (run_throw e) (fun _ => rfl) fun _ => rfl

theorem restores_ofOutcome (x : Except ParseError α) : Restores (ofOutcome x) :=
  restores_of_run (run_ofOutcome x) (fun _ => rfl) fun _ => rfl

theorem restores_abort (cause : Abort) : Restores (abort cause : Step α) :=
  fun _ _ _ h => by cases h

theorem restores_get : Restores (get : Step Cursor) :=
  restores_of_run run_get (fun _ => rfl) fun _ => rfl

theorem Restores.ite {p : Prop} [Decidable p] {n : Step α} (hm : Restores m) (hn : Restores n) :
    Restores (if p then m else n) := by
  by_cases h : p
  · rwa [if_pos h]
  · rwa [if_neg h]

theorem Restores.map (hm : Restores m) (g : α → β) : Restores (g <$> m) := by
  rw [map_eq_pure_bind]
  exact hm.bind fun a => restores_pure _

theorem restores_lexemeAt (distance : Nat) : Restores (lexemeAt distance) := by
  refine restores_get.bind fun c => ?_
  cases c.lexemes[c.index + distance]? with
  | none => exact restores_abort _
  | some l => exact restores_pure l

theorem restores_current : Restores current := restores_lexemeAt 0

theorem restores_peek : Restores peek := restores_get.bind fun _ => restores_pure _

theorem restores_advance : Restores advance :=
  restores_of_run run_advance next_inPredicate next_aggregateDepth

theorem restores_take : Restores take := by
  refine restores_current.bind fun l => .bind ?_ fun _ =>
    restores_advance.bind fun _ => restores_pure l
  exact restores_of_run (run_modify _) (fun _ => rfl) fun _ => rfl

theorem restores_failAt (e : String → Position → ParseError) : Restores (failAt e : Step α) :=
  restores_current.bind fun _ => restores_throw _

theorem restores_expect (t : Token) (wanted : Expected) : Restores (expect t wanted) :=
  restores_current.bind fun _ => restores_advance.ite (restores_failAt _)

/-- The depth that is entered before arguments is left behind them, a failure notwithstanding. -/
theorem Restores.within (hm : Restores m) (g : Function) : Restores (within g m) := by
  intro c r c' h
  rw [Step.within] at h
  cases hg : g.isAggregate with
  | false =>
    have henter : (enter g).run c = .ok (.ok (), c) := by
      rw [enter, hg]
      rfl
    rw [run_bind_of_ok henter] at h
    rcases of_run_bind h with ⟨x, c₁, hx, h⟩ | ⟨e, he, -⟩
    · obtain ⟨y, hy, hxy⟩ := of_run_attempt hx
      obtain rfl := Except.ok.inj hxy
      have hleave : (leave g).run c₁ = .ok (.ok (), c₁) := by
        rw [leave, hg]
        rfl
      rw [run_bind_of_ok hleave] at h
      obtain ⟨-, rfl⟩ := Prod.mk.inj (Except.ok.inj h)
      exact hm c _ c₁ hy
    · obtain ⟨y, -, hxy⟩ := of_run_attempt he
      cases hxy
  | true =>
    have henter : (enter g).run c =
        .ok (.ok (), { c with aggregateDepth := c.aggregateDepth + 1 }) := by
      rw [enter, hg]
      rfl
    rw [run_bind_of_ok henter] at h
    rcases of_run_bind h with ⟨x, c₁, hx, h⟩ | ⟨e, he, -⟩
    · obtain ⟨y, hy, hxy⟩ := of_run_attempt hx
      obtain rfl := Except.ok.inj hxy
      obtain ⟨hp, hd⟩ := hm _ _ c₁ hy
      have hleave : (leave g).run c₁ =
          .ok (.ok (), { c₁ with aggregateDepth := c.aggregateDepth }) := by
        rw [leave, hg, if_pos rfl, run_bind_of_ok (run_get c₁), hd]
        rfl
      rw [run_bind_of_ok hleave] at h
      obtain ⟨-, rfl⟩ := Prod.mk.inj (Except.ok.inj h)
      exact ⟨hp, rfl⟩
    · obtain ⟨y, -, hxy⟩ := of_run_attempt he
      cases hxy

theorem restores_negated (e : Expr) : Restores (negated e) := by
  unfold negated
  split
  · exact (restores_abort _).ite (restores_pure _)
  · exact restores_pure _

theorem restores_callee (name : String) (p : Position) : Restores (callee name p) := by
  refine restores_get.bind fun c => ?_
  cases c.catalog.findFunction? name with
  | none => exact restores_throw _
  | some e =>
    exact (restores_throw _).ite ((restores_throw _).ite (restores_pure e))

theorem restores_column (name : String) (p : Position) : Restores (column name p) := by
  refine restores_get.bind fun c => ?_
  cases c.catalog.findAttribute? name with
  | some e => exact restores_advance.bind fun _ => restores_pure _
  | none =>
    dsimp only
    cases c.catalog.findFunction? name with
    | some e => exact (restores_lexemeAt 1).bind fun _ => restores_throw _
    | none => exact restores_throw _

theorem restores_skipStar (f : Function) : Restores (skipStar f) :=
  restores_current.bind fun _ => restores_peek.bind fun _ => restores_advance.ite (restores_pure _)

/-! ### Expressions -/

/-- All parsers of expressions restore the flags with some fuel. -/
structure AllRestore (fuel : Nat) : Prop where
  chain : ∀ k, Restores (chain fuel k)
  operand : ∀ k, Restores (operand fuel k)
  chainRest : ∀ k left, Restores (chainRest fuel k left)
  negation : Restores (negation fuel)
  comparison : Restores (comparison fuel)
  signed : Restores (signed fuel)
  primary : Restores (primary fuel)
  named : ∀ name p, Restores (named fuel name p)
  arguments : ∀ f, Restores (arguments fuel f)
  argumentList : ∀ f, Restores (argumentList fuel f)

theorem AllRestore.succ {fuel : Nat} (h : AllRestore fuel) : AllRestore (fuel + 1) where
  chain k := (h.operand k).bind fun left => h.chainRest k left
  operand k := by
    cases k with
    | disjunction => exact h.chain _
    | conjunction => exact h.negation
    | sum => exact h.chain _
    | product => exact h.signed
  chainRest k left := by
    refine restores_current.bind fun l => ?_
    cases k.operator? l.token with
    | none => exact restores_pure left
    | some op =>
      exact restores_advance.bind fun _ => (h.operand k).bind fun right => h.chainRest k _
  negation := by
    refine restores_current.bind fun l => .ite ?_ h.comparison
    exact restores_advance.bind fun _ => h.negation.bind fun _ => restores_pure _
  comparison := by
    refine (h.chain _).bind fun left => restores_current.bind fun l => ?_
    cases l.token with
    | relation op =>
      exact restores_advance.bind fun _ => (h.chain _).bind fun right => restores_pure _
    | _ => exact restores_pure left
  signed := by
    refine restores_current.bind fun l => .ite ?_ h.primary
    exact restores_advance.bind fun _ => h.signed.bind fun e => restores_negated e
  primary := by
    refine restores_current.bind fun l => ?_
    cases literal? l.token with
    | some v => exact restores_take.bind fun _ => restores_pure _
    | none =>
      dsimp only
      cases l.token with
      | identifier name => exact h.named name _
      | leftParen =>
        exact restores_advance.bind fun _ => (h.chain _).bind fun e =>
          (restores_expect _ _).bind fun _ => restores_pure e
      | _ => exact restores_failAt _
  named name p := by
    refine restores_peek.bind fun t => .ite ?_ (restores_column name p)
    refine (restores_callee name p).bind fun f => restores_advance.bind fun _ =>
      restores_advance.bind fun _ => ?_
    exact ((h.arguments _).within _).bind fun args => restores_ofOutcome _
  arguments f := by
    refine (restores_skipStar f).bind fun _ => restores_current.bind fun l => .ite ?_
      (h.argumentList f)
    exact restores_advance.bind fun _ => restores_pure _
  argumentList f := by
    refine restores_current.bind fun l => .ite ?_ (restores_failAt _)
    refine (h.chain _).bind fun a => restores_current.bind fun l => ?_
    cases l.token with
    | comma =>
      exact restores_advance.bind fun _ => (h.argumentList f).bind fun _ => restores_pure _
    | rightParen => exact restores_advance.bind fun _ => restores_pure _
    | _ => exact restores_failAt _

theorem allRestore (fuel : Nat) : AllRestore fuel := by
  induction fuel with
  | zero => constructor <;> intros <;> exact restores_abort _
  | succ fuel ih => exact ih.succ

theorem restores_chain (fuel : Nat) (k : Chain) : Restores (chain fuel k) :=
  (allRestore fuel).chain k

/-! ### Parts of queries -/

theorem restores_label : Restores label := by
  refine restores_current.bind fun l => .ite ?_ (restores_pure _)
  refine restores_advance.bind fun _ => restores_take.bind fun l => ?_
  cases l.token with
  | identifier name => exact restores_pure _
  | string name => exact restores_pure _
  | _ => exact restores_throw _

theorem restores_projection (fuel : Nat) : Restores (projection fuel) := by
  refine restores_current.bind fun l => .ite ?_ (.ite ?_ (restores_failAt _))
  · exact restores_advance.bind fun _ => restores_get.bind fun _ => restores_pure _
  · exact (restores_chain fuel _).bind fun e => restores_label.bind fun _ => restores_pure _

theorem restores_projections (fuel : Nat) : Restores (projections fuel) := by
  induction fuel with
  | zero => exact restores_abort _
  | succ fuel ih =>
    refine (restores_projection fuel).bind fun ps => restores_current.bind fun l => ?_
    cases l.token with
    | comma => exact restores_advance.bind fun _ => ih.bind fun _ => restores_pure _
    | word k =>
      cases k with
      | fromWord => exact restores_pure ps
      | _ => exact restores_failAt _
    | endOfText => exact restores_throw _
    | _ => exact restores_failAt _

theorem restores_source : Restores source := by
  refine restores_advance.bind fun _ => restores_current.bind fun l => ?_
  have hgiven (text : String) : Restores (do
      if Text.isBlank text then throw (.missingSource l.position)
      else
        advance
        return text) :=
    (restores_throw _).ite (restores_advance.bind fun _ => restores_pure _)
  cases l.token with
  | path text => exact hgiven text
  | string text => exact hgiven text
  | _ => exact restores_throw _

theorem restores_direction : Restores direction := by
  refine restores_current.bind fun l => ?_
  cases l.token with
  | word k =>
    cases k with
    | ascWord => exact restores_advance.bind fun _ => restores_pure _
    | descWord => exact restores_advance.bind fun _ => restores_pure _
    | _ => exact restores_pure _
  | _ => exact restores_pure _

theorem restores_orderKeys (columns fuel : Nat) : Restores (orderKeys columns fuel) := by
  induction fuel with
  | zero => exact restores_abort _
  | succ fuel ih =>
    refine restores_current.bind fun l => ?_
    cases l.token with
    | integer n =>
      refine (restores_throw _).ite (restores_advance.bind fun _ => restores_direction.bind
        fun d => restores_current.bind fun l => ?_)
      cases l.token with
      | comma => exact restores_advance.bind fun _ => ih.bind fun _ => restores_pure _
      | integer _ => exact restores_failAt _
      | _ => exact restores_pure _
    | _ => exact restores_failAt _

theorem restores_orderBy (fuel columns : Nat) : Restores (orderBy fuel columns) := by
  refine restores_current.bind fun l => .ite ?_ (restores_pure _)
  refine restores_advance.bind fun _ => restores_current.bind fun l => .ite ?_ (restores_failAt _)
  exact restores_advance.bind fun _ => restores_orderKeys columns fuel

theorem restores_limit : Restores limit := by
  refine restores_current.bind fun l => .ite ?_ (restores_pure _)
  refine restores_advance.bind fun _ => restores_current.bind fun l => ?_
  cases l.token with
  | endOfText => exact restores_throw _
  | integer n => exact (restores_advance.bind fun _ => restores_pure _).ite (restores_failAt _)
  | _ => exact restores_failAt _

theorem restores_head (fuel : Nat) : Restores (head fuel) := by
  refine restores_current.bind fun l => .ite (restores_throw _) (.ite ?_ (restores_failAt _))
  exact restores_advance.bind fun _ => (restores_projections fuel).bind fun _ =>
    restores_source.bind fun _ => restores_pure _

theorem restores_tail (fuel columns : Nat) : Restores (tail fuel columns) :=
  (restores_orderBy fuel columns).bind fun _ => restores_limit.bind fun _ =>
    (restores_expect _ _).bind fun _ => restores_pure _

/-! ### Predicates -/

/-- Whether the keyword `where` is ahead. -/
def seesWhere (c : Cursor) : Bool :=
  c.lexemes[c.index]?.any fun l => l.token == .word .whereWord

/-- A query that is read from here reaches its predicate. -/
def EntersPredicate (fuel : Nat) (c : Cursor) : Prop :=
  ∃ x c₁, (head fuel).run c = .ok (.ok x, c₁) ∧ c₁.seesWhere = true

/-- A query that is read from here fails inside its predicate. -/
def FailsInPredicate (fuel : Nat) (c : Cursor) : Prop :=
  ∃ x c₁ e c₂, (head fuel).run c = .ok (.ok x, c₁) ∧ (predicate fuel).run c₁ = .ok (.error e, c₂)

variable {fuel : Nat} {c c' c₁ : Cursor}

theorem of_run_current {x : Except ParseError Lexeme} (h : current.run c = .ok (x, c')) :
    c' = c ∧ ∃ l, x = .ok l ∧ c.lexemes[c.index]? = some l := by
  rw [current, lexemeAt, run_bind_of_ok (run_get c), Nat.add_zero] at h
  cases hl : c.lexemes[c.index]? with
  | none =>
    rw [hl] at h
    cases h
  | some l =>
    rw [hl] at h
    obtain ⟨rfl, rfl⟩ := Prod.mk.inj (Except.ok.inj h)
    exact ⟨rfl, l, rfl, rfl⟩

/-- Behind `where`: the flag for predicates is set while the expression is read, and it is reset
behind the expression only. -/
theorem flags_behind_where {r : Except ParseError (Option Expr)}
    (h : (advance >>= fun _ => setPredicate true >>= fun _ => chain fuel .disjunction >>= fun e =>
      setPredicate false >>= fun _ => (pure (some e) : Step (Option Expr))).run c = .ok (r, c')) :
    c'.aggregateDepth = c.aggregateDepth ∧
      (((∃ e, r = .ok (some e)) ∧ c'.inPredicate = false) ∨
        ((∃ e, r = .error e) ∧ c'.inPredicate = true)) := by
  rw [run_bind_of_ok (run_advance c), run_bind_of_ok (run_setPredicate true c.next)] at h
  rcases of_run_bind h with ⟨e, c₂, he, hrest⟩ | ⟨e, he, rfl⟩
  · obtain ⟨-, hd⟩ := restores_chain fuel _ _ _ _ he
    rw [run_bind_of_ok (run_setPredicate false c₂)] at hrest
    obtain ⟨rfl, rfl⟩ := Prod.mk.inj (Except.ok.inj hrest)
    exact ⟨hd.trans c.next_aggregateDepth, Or.inl ⟨⟨e, rfl⟩, rfl⟩⟩
  · obtain ⟨hp, hd⟩ := restores_chain fuel _ _ _ _ he
    exact ⟨hd.trans c.next_aggregateDepth, Or.inr ⟨⟨e, rfl⟩, hp⟩⟩

/-- Where `where` is ahead, the flag for predicates is set behind a failure and not set behind a
predicate. Otherwise nothing is done. -/
theorem flags_of_predicate {r : Except ParseError (Option Expr)}
    (h : (predicate fuel).run c = .ok (r, c')) :
    (c.seesWhere = false ∧ r = .ok none ∧ c' = c) ∨
      (c.seesWhere = true ∧ c'.aggregateDepth = c.aggregateDepth ∧
        (((∃ e, r = .ok (some e)) ∧ c'.inPredicate = false) ∨
          ((∃ e, r = .error e) ∧ c'.inPredicate = true))) := by
  rw [predicate] at h
  rcases of_run_bind h with ⟨l, c₁, hcurrent, hrest⟩ | ⟨e, hcurrent, -⟩
  · obtain ⟨rfl, l', hl, hahead⟩ := of_run_current hcurrent
    obtain rfl := Except.ok.inj hl
    by_cases hwhere : l.token = .word .whereWord
    · rw [if_pos hwhere] at hrest
      have hsees : c₁.seesWhere = true := by
        rw [seesWhere, hahead, Option.any_some, beq_iff_eq, hwhere]
      exact Or.inr ⟨hsees, flags_behind_where hrest⟩
    · rw [if_neg hwhere] at hrest
      have hsees : c₁.seesWhere = false := by
        rw [seesWhere, hahead, Option.any_some, beq_eq_false_iff_ne]
        exact hwhere
      obtain ⟨rfl, rfl⟩ := Prod.mk.inj (Except.ok.inj hrest)
      exact Or.inl ⟨hsees, rfl, rfl⟩
  · obtain ⟨-, l, hl, -⟩ := of_run_current hcurrent
    cases hl

/-! ### Queries -/

/-- What a query does to the flags. -/
theorem flags_of_query {r : Except ParseError Query} (h : (query fuel).run c = .ok (r, c')) :
    c'.aggregateDepth = c.aggregateDepth ∧
      (¬c.EntersPredicate fuel → c'.inPredicate = c.inPredicate) ∧
      (c.EntersPredicate fuel → (c'.inPredicate = true ↔ c.FailsInPredicate fuel)) := by
  rw [query] at h
  rcases of_run_bind h with ⟨x, c₁, hhead, hrest⟩ | ⟨e, hhead, -⟩
  case inr =>
    obtain ⟨hp, hd⟩ := restores_head fuel _ _ _ hhead
    refine ⟨hd, fun _ => hp, fun ⟨x, c₁, hx, _⟩ => ?_⟩
    cases hhead.symm.trans hx
  obtain ⟨hp, hd⟩ := restores_head fuel _ _ _ hhead
  have henters : c.EntersPredicate fuel ↔ c₁.seesWhere = true := by
    refine ⟨fun ⟨y, c₂, hy, hsees⟩ => ?_, fun hsees => ⟨x, c₁, hhead, hsees⟩⟩
    obtain ⟨-, rfl⟩ := Prod.mk.inj (Except.ok.inj (hhead.symm.trans hy))
    exact hsees
  have hfails : c.FailsInPredicate fuel ↔
      ∃ e c₂, (predicate fuel).run c₁ = .ok (.error e, c₂) := by
    refine ⟨fun ⟨y, c₂, e, c₃, hy, he⟩ => ?_, fun ⟨e, c₂, he⟩ => ⟨x, c₁, e, c₂, hhead, he⟩⟩
    obtain ⟨-, rfl⟩ := Prod.mk.inj (Except.ok.inj (hhead.symm.trans hy))
    exact ⟨e, c₃, he⟩
  rw [henters, hfails, ← hp, ← hd]
  rcases of_run_bind hrest with ⟨e?, c₂, hpredicate, hrest⟩ | ⟨e, hpredicate, -⟩
  · -- the predicate is passed, so what follows it decides
    have hsuccess : ¬∃ e c₃, (predicate fuel).run c₁ = .ok (.error e, c₃) := fun ⟨e, c₃, he⟩ => by
      cases hpredicate.symm.trans he
    obtain ⟨hp', hd'⟩ : c'.inPredicate = c₂.inPredicate ∧
        c'.aggregateDepth = c₂.aggregateDepth := by
      refine Restores.bind (restores_tail fuel _) (fun y => ?_) _ _ _ hrest
      exact restores_pure _
    rw [hp', hd']
    rcases flags_of_predicate hpredicate with ⟨hsees, -, rfl⟩ | ⟨hsees, hd₂, h⟩
    · exact ⟨rfl, fun _ => rfl, fun h => absurd (hsees.symm.trans h) (by decide)⟩
    · rcases h with ⟨-, hfalse⟩ | ⟨⟨e, he⟩, -⟩
      · refine ⟨hd₂, fun h => absurd hsees h, fun _ => ?_⟩
        rw [hfalse]
        exact ⟨fun h => (by cases h), fun h => absurd h hsuccess⟩
      · cases he
  · rcases flags_of_predicate hpredicate with ⟨-, hnone, -⟩ | ⟨hsees, hd₂, h⟩
    · cases hnone
    · rcases h with ⟨⟨e, he⟩, -⟩ | ⟨-, htrue⟩
      · cases he
      · refine ⟨hd₂, fun h => absurd hsees h, fun _ => ?_⟩
        rw [htrue]
        exact ⟨fun _ => ⟨e, c', hpredicate⟩, fun _ => rfl⟩

/-! ### Calls -/

/-- What a call does to the flags. -/
theorem flags_of_call {k : Call} {r : Except ParseError (Query ⊕ Expr)}
    (h : (k.step fuel).run c = .ok (r, c')) :
    c'.aggregateDepth = c.aggregateDepth ∧
      (¬(k = .query ∧ c.EntersPredicate fuel) → c'.inPredicate = c.inPredicate) ∧
      (k = .query → c.EntersPredicate fuel →
        (c'.inPredicate = true ↔ c.FailsInPredicate fuel)) := by
  cases k with
  | query =>
    obtain ⟨x, hx⟩ : ∃ x, (query fuel).run c = .ok (x, c') := by
      rw [Call.step, map_eq_pure_bind] at h
      rcases of_run_bind h with ⟨q, c₁, hq, hrest⟩ | ⟨e, he, -⟩
      · obtain ⟨-, rfl⟩ := Prod.mk.inj (Except.ok.inj hrest)
        exact ⟨_, hq⟩
      · exact ⟨_, he⟩
    obtain ⟨hd, hother, henters⟩ := flags_of_query hx
    exact ⟨hd, fun h => hother fun he => h ⟨rfl, he⟩, fun _ => henters⟩
  | expression =>
    obtain ⟨hp, hd⟩ := (restores_chain fuel .disjunction).map Sum.inr c r c' h
    exact ⟨hd, fun _ => hp, fun h => by cases h⟩
  | sum =>
    obtain ⟨hp, hd⟩ := (restores_chain fuel .sum).map Sum.inr c r c' h
    exact ⟨hd, fun _ => hp, fun h => by cases h⟩

variable {ks : List Call} {rs : List (Except ParseError (Query ⊕ Expr))} {c₀ : Cursor}

/-- The first of several calls and the calls after it. -/
theorem answers_cons {k : Call} : answers fuel (k :: ks) c₀ = .ok (rs, c) ↔
    ∃ r c₁ rs₁, (k.step fuel).run c₀ = .ok (r, c₁) ∧ answers fuel ks c₁ = .ok (rs₁, c) ∧
      r :: rs₁ = rs := by
  rw [answers]
  cases (k.step fuel).run c₀ with
  | error cause => exact ⟨fun h => (by cases h), fun ⟨_, _, _, h, _⟩ => (by cases h)⟩
  | ok x =>
    obtain ⟨r, c₁⟩ := x
    change Except.bind (answers fuel ks c₁) _ = _ ↔ _
    cases hrest : answers fuel ks c₁ with
    | error cause =>
      refine ⟨fun h => (by cases h), fun ⟨r', c₂, rs₁, h, hrs, _⟩ => ?_⟩
      obtain ⟨-, rfl⟩ := Prod.mk.inj (Except.ok.inj h)
      cases hrest.symm.trans hrs
    | ok y =>
      obtain ⟨rs₁, c₂⟩ := y
      constructor
      · intro h
        obtain ⟨rfl, rfl⟩ := Prod.mk.inj (Except.ok.inj h)
        exact ⟨r, c₁, rs₁, rfl, hrest, rfl⟩
      · rintro ⟨r', c₃, rs', h, hrs, rfl⟩
        obtain ⟨rfl, rfl⟩ := Prod.mk.inj (Except.ok.inj h)
        obtain ⟨rfl, rfl⟩ := Prod.mk.inj (Except.ok.inj (hrest.symm.trans hrs))
        rfl

/-- Calls one after the other: the depth is what it was, and the flag for predicates is set only if
it was before or a query among them failed inside its predicate. -/
theorem flags_of_calls (h : answers fuel ks c₀ = .ok (rs, c)) :
    c.aggregateDepth = c₀.aggregateDepth ∧
      (c.inPredicate = true → c₀.inPredicate = true ∨
        ∃ ks₁ ks₂ rs₁ c₁, ks = ks₁ ++ .query :: ks₂ ∧ answers fuel ks₁ c₀ = .ok (rs₁, c₁) ∧
          c₁.FailsInPredicate fuel) := by
  induction ks generalizing c₀ rs with
  | nil =>
    obtain ⟨-, rfl⟩ := Prod.mk.inj (Except.ok.inj h)
    exact ⟨rfl, Or.inl⟩
  | cons k ks ih =>
    obtain ⟨r, c₁, rs₁, hk, hks, rfl⟩ := answers_cons.1 h
    obtain ⟨hdepth, hother, henters⟩ := flags_of_call hk
    obtain ⟨hdepth', hset⟩ := ih hks
    refine ⟨hdepth'.trans hdepth, fun hp => ?_⟩
    rcases hset hp with hp | ⟨ks₁, ks₂, rs₂, c₂, rfl, hks₁, hfails⟩
    · by_cases hquery : k = .query ∧ c₀.EntersPredicate fuel
      · obtain ⟨rfl, hc₀⟩ := hquery
        exact Or.inr ⟨[], ks, [], c₀, rfl, rfl, (henters rfl hc₀).1 hp⟩
      · exact Or.inl ((hother hquery).symm.trans hp)
    · exact Or.inr ⟨k :: ks₁, ks₂, r :: rs₂, c₂, rfl, answers_cons.2 ⟨r, c₁, rs₂, hk, hks₁, rfl⟩,
        hfails⟩

theorem flags_ofLexemes (catalog : Catalog) (ts : List Lexeme) :
    (ofLexemes catalog ts).inPredicate = false ∧ (ofLexemes catalog ts).aggregateDepth = 0 := by
  rw [ofLexemes]
  cases ts.getLast? with
  | none => exact ⟨rfl, rfl⟩
  | some l =>
    dsimp only
    split <;> exact ⟨rfl, rfl⟩

/-- After any calls on a new cursor the depth of aggregate calls is zero, and the flag for
predicates is set only if a query among these calls failed inside its predicate. A further call
leaves the depth as it is, and the flag too unless it is a query that reaches its predicate. Then
the flag is set behind it exactly if it fails there. -/
theorem answers_flags {catalog : Catalog} {ts : List Lexeme}
    (h : answers fuel ks (ofLexemes catalog ts) = .ok (rs, c)) :
    c.aggregateDepth = 0 ∧
      (c.inPredicate = true → ∃ ks₁ ks₂ rs₁ c₁, ks = ks₁ ++ .query :: ks₂ ∧
        answers fuel ks₁ (ofLexemes catalog ts) = .ok (rs₁, c₁) ∧ c₁.FailsInPredicate fuel) ∧
      ∀ (k : Call) r c', (k.step fuel).run c = .ok (r, c') →
        c'.aggregateDepth = c.aggregateDepth ∧
        (¬(k = .query ∧ c.EntersPredicate fuel) → c'.inPredicate = c.inPredicate) ∧
        (k = .query → c.EntersPredicate fuel →
          (c'.inPredicate = true ↔ c.FailsInPredicate fuel)) := by
  obtain ⟨hp, hd⟩ := flags_ofLexemes catalog ts
  obtain ⟨hdepth, hset⟩ := flags_of_calls h
  refine ⟨hdepth.trans hd, fun hc => ?_, fun k r c' => flags_of_call⟩
  rcases hset hc with hc | hfails
  · exact absurd (hp.symm.trans hc) (by decide)
  · exact hfails

/-- The lexemes of `select 1 from . where`. -/
def whereNothing : List Lexeme :=
  [⟨.word .selectWord, "select", ⟨0, 1, 1⟩⟩, ⟨.integer 1, "1", ⟨7, 1, 8⟩⟩,
    ⟨.word .fromWord, "from", ⟨9, 1, 10⟩⟩, ⟨.path ".", ".", ⟨14, 1, 15⟩⟩,
    ⟨.word .whereWord, "where", ⟨16, 1, 17⟩⟩]

/-- A query without its predicate fails in it, and the flag is set behind it. -/
theorem answers_flags_whereNothing : ∃ r c,
    answers 100 [.query] (ofLexemes .standard whereNothing) = .ok ([.error r], c) ∧
      c.aggregateDepth = 0 ∧ c.inPredicate = true ∧
      (ofLexemes .standard whereNothing).FailsInPredicate 100 := by
  obtain ⟨r, c, hrun, hp⟩ : ∃ r c, answers 100 [.query] (ofLexemes .standard whereNothing) =
      .ok ([.error r], c) ∧ c.inPredicate = true := ⟨_, _, rfl, rfl⟩
  obtain ⟨hdepth, hset, -⟩ := answers_flags hrun
  obtain ⟨ks₁, ks₂, rs₁, c₁, hks, hrs, hfails⟩ := hset hp
  refine ⟨r, c, hrun, hdepth, hp, ?_⟩
  obtain rfl : ks₁ = [] := by
    cases ks₁ with
    | nil => rfl
    | cons k ks₁ => simp at hks
  obtain ⟨-, rfl⟩ := Prod.mk.inj (Except.ok.inj hrs)
  exact hfails

/-- A query without its predicate does not leave the flags as it found them on a new cursor. -/
theorem inPredicate_of_whereNothing : ∃ r c',
    (Call.step 100 .query).run (ofLexemes .standard whereNothing) = .ok (.error r, c') ∧
      (ofLexemes .standard whereNothing).inPredicate = false ∧ c'.inPredicate = true :=
  ⟨_, _, rfl, rfl, rfl⟩

end Cursor

end FileQuery
