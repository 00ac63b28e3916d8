import FileQuery.Proofs.Run.Outcome

/-!
# Errors that a run reports

Where errors are let pass, they can be seen only in the events of a run. What holds of every error
that the parts of a run report holds of the errors of the run, so that a fact about evaluation need
not be followed through the loops again.

## Main definitions

* `FileQuery.Event.cause?`: the error that an event is about.
* `FileQuery.Report.OnlyReports`: all errors reported satisfy a property.

## Main results

* `FileQuery.Report.OnlyReports.bind`, `FileQuery.Report.OnlyReports.mapM`,
  `FileQuery.Report.OnlyReports.foldlM`: sequences and loops.
* `FileQuery.Query.onlyReports_summarize`, `FileQuery.Query.onlyReports_finalRow`: the two passes of
  an aggregate query.
-/

namespace FileQuery

/-- The error that an event is about. -/
def Event.cause? : Event → Option EvalError
  | .skipping _ cause => some cause
  | .noValue _ cause => some cause
  | _ => none

namespace Report

variable {α β σ : Type} {P : EvalError → Prop}

/-- Whether all errors that are reported satisfy a property. -/
def OnlyReports (P : EvalError → Prop) (r : Report α) : Prop :=
  ∀ ev ∈ r.events, ∀ cause ∈ ev.cause?, P cause

namespace OnlyReports

theorem of_no_events {r : Report α} (h : r.events = []) : r.OnlyReports P := by
  intro ev hev
  rw [h] at hev
  cases hev

theorem bind {r : Report α} {f : α → Report β} (hr : r.OnlyReports P)
    (hf : ∀ a, r.outcome = .ok a → (f a).OnlyReports P) : (r >>= f).OnlyReports P := by
  cases h : r.outcome with
  | error e =>
    rw [bind_of_error h]
    exact hr
  | ok a =>
    rw [bind_of_ok h]
    exact List.forall_mem_append.2 ⟨hr, hf a h⟩

theorem mapM {f : α → Report β} {xs : List α} (h : ∀ x ∈ xs, (f x).OnlyReports P) :
    (xs.mapM f).OnlyReports P := by
  induction xs with
  | nil => exact of_no_events rfl
  | cons x xs ih =>
    obtain ⟨hx, hxs⟩ := List.forall_mem_cons.1 h
    rw [List.mapM_cons]
    exact hx.bind fun y _ => (ih hxs).bind fun ys _ => of_no_events rfl

theorem foldlM {f : σ → α → Report σ} {xs : List α} (h : ∀ s, ∀ x ∈ xs, (f s x).OnlyReports P)
    (s : σ) : (xs.foldlM f s).OnlyReports P := by
  induction xs generalizing s with
  | nil => exact of_no_events rfl
  | cons x xs ih =>
    rw [List.foldlM_cons]
    exact (h s x List.mem_cons_self).bind fun s' _ =>
      ih (fun s y hy => h s y (List.mem_cons_of_mem x hy)) s'

end OnlyReports

end Report

open Report

variable {P : EvalError → Prop} {strict : Bool} {row : Row} {finals : List Value} {e : Expr}

theorem onlyReports_valueOf [PatternEngine] {p : Option Path}
    (h : ∀ cause, e.eval row finals = .error cause → P cause) :
    (valueOf strict row finals p e).OnlyReports P := by
  rw [valueOf]
  cases heval : e.eval row finals with
  | ok v => exact .of_no_events rfl
  | error cause =>
    cases strict with
    | true => exact .of_no_events rfl
    | false =>
      refine List.forall_mem_singleton.2 fun cause' hcause => ?_
      obtain rfl : cause = cause' := Option.some.inj hcause
      exact h cause heval

/-- The events of a visit are about the tree, not about an expression. -/
theorem Visit.cause?_of_mem_events {v : Visit} {ev : Event} (h : ev ∈ v.events) :
    ev.cause? = none := by
  rw [events] at h
  split at h
  case h_4 => cases h
  all_goals
    obtain rfl := List.mem_singleton.1 h
    rfl

theorem onlyReports_visit (v : Visit) : (noteAll v.events).OnlyReports P := by
  intro ev hev cause hcause
  have hnone : ev.cause? = none := Visit.cause?_of_mem_events hev
  rw [hnone] at hcause
  cases hcause

namespace Summary

theorem onlyReports_update [PatternEngine] {p : Path} {calls : List AggregateCall}
    (h : ∀ c ∈ calls, ∀ a ∈ c.args, ∀ cause, a.eval row [] = .error cause → P cause)
    (as : List Accumulator) : (update strict row p calls as).OnlyReports P := by
  induction calls generalizing as with
  | nil => exact .of_no_events rfl
  | cons c cs ih =>
    obtain ⟨hc, hcs⟩ := List.forall_mem_cons.1 h
    cases as with
    | nil => exact .of_no_events rfl
    | cons a as =>
      rw [update]
      refine (OnlyReports.mapM fun x hx => onlyReports_valueOf (hc x hx)).bind fun values _ => ?_
      refine (OnlyReports.of_no_events rfl).bind fun b _ => ?_
      exact (ih hcs as).bind fun bs _ => .of_no_events rfl

end Summary

namespace Query

variable [PatternEngine] {q : Query} {t : Tree}

theorem onlyReports_keeps {p : Path}
    (h : ∀ e ∈ q.predicate, ∀ cause, e.holds row = .error cause → P cause) :
    (q.keeps strict row p).OnlyReports P := by
  rw [keeps]
  cases hpredicate : q.predicate with
  | none => exact .of_no_events rfl
  | some e =>
    dsimp only
    cases hholds : e.holds row with
    | ok b => exact .of_no_events rfl
    | error cause =>
      cases strict with
      | true => exact .of_no_events rfl
      | false =>
        refine List.forall_mem_singleton.2 fun cause' hcause => ?_
        obtain rfl : cause = cause' := Option.some.inj hcause
        exact h e hpredicate cause hholds

theorem onlyReports_fold
    (hpredicate : ∀ e ∈ q.predicate, ∀ row cause, e.holds row = .error cause → P cause)
    (hargs : ∀ c ∈ q.aggregateCalls, ∀ a ∈ c.args, ∀ row cause,
      a.eval row [] = .error cause → P cause)
    (s : Summary) (e : Entry) : (q.fold strict t s e).OnlyReports P := by
  rw [fold]
  refine (onlyReports_keeps fun e he => hpredicate e he _).bind fun kept _ => ?_
  cases kept with
  | false => exact .of_no_events rfl
  | true =>
    exact (Summary.onlyReports_update (fun c hc a ha => hargs c hc a ha _) s.accumulators).bind
      fun as _ => .of_no_events rfl

/-- The pass over the entries reports errors of the predicate and of arguments only. -/
theorem onlyReports_summarize
    (hpredicate : ∀ e ∈ q.predicate, ∀ row cause, e.holds row = .error cause → P cause)
    (hargs : ∀ c ∈ q.aggregateCalls, ∀ a ∈ c.args, ∀ row cause,
      a.eval row [] = .error cause → P cause)
    (visits : List Visit) : (q.summarize strict t visits).OnlyReports P :=
  .foldlM (fun s v _ => (onlyReports_visit v).bind fun _ _ =>
    onlyReports_fold hpredicate hargs s v.entry) _

/-- The last pass reports errors of projections that have a final value for each of their calls. -/
theorem onlyReports_finalRow {ps : List Projection}
    (hfinals : (ps.flatMap fun p => p.expr.aggregateCalls).length ≤ finals.length)
    (h : ∀ p ∈ ps, ∀ finals, p.expr.callCount ≤ finals.length → ∀ cause,
      p.expr.eval row finals = .error cause → P cause) :
    (finalRow strict row finals ps).OnlyReports P := by
  induction ps generalizing finals with
  | nil => exact .of_no_events rfl
  | cons p ps ih =>
    obtain ⟨hp, hps⟩ := List.forall_mem_cons.1 h
    rw [List.flatMap_cons, List.length_append] at hfinals
    have hrest : (ps.flatMap fun p => p.expr.aggregateCalls).length ≤
        (finals.drop p.expr.callCount).length := by
      rw [List.length_drop, Expr.callCount]
      omega
    rw [finalRow]
    refine (onlyReports_valueOf (hp finals (Nat.le_of_add_right_le hfinals))).bind fun v _ => ?_
    exact (ih hrest hps).bind fun vs _ => .of_no_events rfl

end Query

end FileQuery
