import Mathlib.Data.List.Nodup
import Mathlib.Data.List.Pairwise
import FileQuery.Proofs.Query.Grammar

/-!
# Legality by parts

An expression is legal at a place if its calls are, whatever their depth. Here this is taken apart
along the expression, as a parser meets it: the arguments of an aggregate are a place of their own.
A catalog has one entry for each function, so that the entry found by a name is the one legality is
about.

## Main definitions

* `FileQuery.Scope.Admits`: legality of an expression at a place.

## Main results

* `FileQuery.Catalog.entry_unique`: a function has one entry.
* `FileQuery.Scope.admits_call`: a call is legal if its entry accepts it and its arguments are.
-/

namespace FileQuery

/-- Two entries with the same function would have the same name. -/
theorem Catalog.entry_unique {c : Catalog} {f g : FunctionEntry} (hf : f ∈ c.functions)
    (hg : g ∈ c.functions) (h : f.function = g.function) : f = g := by
  have hnodup : (c.functions.flatMap fun e => e.names.map Text.toLower).Nodup := by
    have hkeys : (functionNames c.functions).map OwnedName.key =
        c.functions.flatMap fun e => e.names.map Text.toLower := by
      rw [functionNames, List.map_flatMap]
      simp [OwnedName.key, Function.comp_def]
    have hdistinct := firstClash?_eq_none c.functions_distinct List.nodup_nil
    rw [List.map_nil, List.append_nil, hkeys] at hdistinct
    exact List.nodup_reverse.1 hdistinct
  have hdisjoint := (List.nodup_flatMap.1 hnodup).2
  by_contra hne
  have : Std.Symm (Function.onFun List.Disjoint fun e : FunctionEntry =>
    e.names.map Text.toLower) := ⟨fun _ _ h _ hx hy => h hy hx⟩
  have hfg := hdisjoint.forall hf hg hne
  have hname (e : FunctionEntry) :
      Text.toLower e.function.canonicalName ∈ e.names.map Text.toLower :=
    List.mem_map_of_mem List.mem_cons_self
  exact hfg (hname f) (h ▸ hname g)

theorem Catalog.mem_of_findFunction? {c : Catalog} {name : String} {f : FunctionEntry}
    (h : c.findFunction? name = some f) : f ∈ c.functions :=
  List.mem_of_find?_eq_some h

namespace Expr

theorem mem_callsList {k : Function × List Expr} {es : List Expr} :
    k ∈ callsList es ↔ ∃ e ∈ es, k ∈ e.calls := by
  induction es with
  | nil => simp [callsList]
  | cons e es ih => simp [callsList, ih]

theorem anyHasAggregate_eq_false {es : List Expr} :
    anyHasAggregate es = false ↔ ∀ e ∈ es, e.hasAggregate = false := by
  induction es with
  | nil => simp [anyHasAggregate]
  | cons e es ih => simp [anyHasAggregate, ih]

end Expr

namespace Scope

/-- Whether an expression is legal at a place. -/
def Admits (s : Scope) (e : Expr) : Prop :=
  e.Legal s.catalog ∧ (s.inPredicate = true → e.Permitted s.catalog) ∧
    (s.inAggregate = true → e.hasAggregate = false)

variable {s : Scope}

theorem admits_column (a : Attribute) : s.Admits (.column a) := by
  refine ⟨⟨?_, ?_⟩, fun _ => ?_, fun _ => rfl⟩ <;> exact fun _ h => nomatch h

theorem admits_literal (v : Value) : s.Admits (.literal v) := by
  refine ⟨⟨?_, ?_⟩, fun _ => ?_, fun _ => rfl⟩ <;> exact fun _ h => nomatch h

theorem admits_unary {op : UnaryOp} {e : Expr} : s.Admits (.unary op e) ↔ s.Admits e :=
  ⟨fun ⟨⟨harity, hnesting⟩, hpermitted, haggregate⟩ =>
    ⟨⟨harity, hnesting⟩, hpermitted, haggregate⟩,
    fun ⟨⟨harity, hnesting⟩, hpermitted, haggregate⟩ =>
      ⟨⟨harity, hnesting⟩, hpermitted, haggregate⟩⟩

theorem admits_negated {e : Expr} : s.Admits (ExprParser.negated e) ↔ s.Admits e := by
  unfold ExprParser.negated
  split
  · exact iff_of_true (admits_literal _) (admits_literal _)
  · exact iff_of_true (admits_literal _) (admits_literal _)
  · exact admits_unary

theorem admits_binary {op : BinaryOp} {l r : Expr} :
    s.Admits (.binary op l r) ↔ s.Admits l ∧ s.Admits r := by
  have hcalls : (Expr.binary op l r).calls = l.calls ++ r.calls := rfl
  have haggregate : (Expr.binary op l r).hasAggregate = (l.hasAggregate || r.hasAggregate) := rfl
  constructor
  · rintro ⟨⟨harity, hnesting⟩, hpermitted, hnone⟩
    simp only [Expr.Permitted, hcalls, haggregate, List.forall_mem_append,
      Bool.or_eq_false_iff] at harity hnesting hpermitted hnone
    exact ⟨⟨⟨harity.1, hnesting.1⟩, fun h => (hpermitted h).1, fun h => (hnone h).1⟩,
      ⟨⟨harity.2, hnesting.2⟩, fun h => (hpermitted h).2, fun h => (hnone h).2⟩⟩
  · rintro ⟨⟨⟨harity, hnesting⟩, hpermitted, hnone⟩, ⟨harity', hnesting'⟩, hpermitted', hnone'⟩
    refine ⟨⟨?_, ?_⟩, fun h => ?_, fun h => ?_⟩
    · rw [hcalls, List.forall_mem_append]
      exact ⟨harity, harity'⟩
    · rw [hcalls, List.forall_mem_append]
      exact ⟨hnesting, hnesting'⟩
    · rw [Expr.Permitted, hcalls, List.forall_mem_append]
      exact ⟨hpermitted h, hpermitted' h⟩
    · rw [haggregate, Bool.or_eq_false_iff]
      exact ⟨hnone h, hnone' h⟩

/-- A call is legal if its entry accepts it here and each argument is legal inside of it. -/
theorem admits_call {f : FunctionEntry} (hf : f ∈ s.catalog.functions) {args : List Expr} :
    s.Admits (.call f.function args) ↔
      f.arity.accepts args.length = true ∧ (s.inPredicate = true → f.inPredicates = true) ∧
      (s.inAggregate = true → f.function.isAggregate = false) ∧
      ∀ a ∈ args, (s.within f.function).Admits a := by
  have hcalls : (Expr.call f.function args).calls = (f.function, args) :: Expr.callsList args := rfl
  have haggregate : (Expr.call f.function args).hasAggregate =
    (f.function.isAggregate || Expr.anyHasAggregate args) := rfl
  constructor
  · rintro ⟨⟨harity, hnesting⟩, hpermitted, hnone⟩
    simp only [Expr.Permitted, hcalls, haggregate, List.forall_mem_cons, Bool.or_eq_false_iff,
      Expr.anyHasAggregate_eq_false, Expr.mem_callsList, forall_exists_index, and_imp]
      at harity hnesting hpermitted hnone
    refine ⟨?_, fun h => ?_, fun h => (hnone h).1, fun a ha => ⟨⟨?_, ?_⟩, fun h => ?_, fun h => ?_⟩⟩
    · obtain ⟨g, hg, hgf, haccepts⟩ := harity.1
      exact Catalog.entry_unique hg hf hgf ▸ haccepts
    · obtain ⟨g, hg, hgf, hin⟩ := (hpermitted h).1
      exact Catalog.entry_unique hg hf hgf ▸ hin
    · exact fun k hk => harity.2 k a ha hk
    · exact fun k hk => hnesting.2 k a ha hk
    · exact fun k hk => (hpermitted h).2 k a ha hk
    · rcases Bool.or_eq_true_iff.1 h with h | h
      · exact (hnone h).2 a ha
      · exact hnesting.1 h a ha
  · rintro ⟨haccepts, hin, houter, hargs⟩
    refine ⟨⟨?_, ?_⟩, fun h => ?_, fun h => ?_⟩
    · rw [hcalls, List.forall_mem_cons]
      refine ⟨⟨f, hf, rfl, haccepts⟩, fun k hk => ?_⟩
      obtain ⟨a, ha, hk⟩ := Expr.mem_callsList.1 hk
      exact (hargs a ha).1.arity k hk
    · rw [hcalls, List.forall_mem_cons]
      refine ⟨fun h a ha => (hargs a ha).2.2 (Bool.or_eq_true_iff.2 (Or.inr h)), fun k hk => ?_⟩
      obtain ⟨a, ha, hk⟩ := Expr.mem_callsList.1 hk
      exact (hargs a ha).1.nesting k hk
    · rw [Expr.Permitted, hcalls, List.forall_mem_cons]
      refine ⟨⟨f, hf, rfl, hin h⟩, fun k hk => ?_⟩
      obtain ⟨a, ha, hk⟩ := Expr.mem_callsList.1 hk
      exact (hargs a ha).2.1 h k hk
    · rw [haggregate, Bool.or_eq_false_iff, Expr.anyHasAggregate_eq_false]
      exact ⟨houter h, fun a ha => (hargs a ha).2.2 (Bool.or_eq_true_iff.2 (Or.inl h))⟩

end Scope

end FileQuery
