import Mathlib.Data.List.Forall2
import Mathlib.Data.List.Induction
import FileQuery.Proofs.Aggregate.Merging

/-!
# Parallel aggregation agrees with sequential aggregation

The entries of an aggregate query may be cut into segments, each of them summarized from a fresh
state, and the summaries of neighbouring segments merged in any order, with summaries of no entries
merged in anywhere. The result is the summary of all entries in one go, or both ways fail.

One step carries the argument: an entry may be folded into the second of two summaries and then
merged, or folded into the merged one. Its failures count on both sides. From it the summary of a
concatenation is the merge of two summaries by induction on the second list, and the summary of a
grouping is that of its items by induction on the grouping.

## Main definitions

* `FileQuery.Grouping`, `FileQuery.Query.summarizeGroups`: the ways to cut and merge.
* `FileQuery.Query.Feeds`: the values that reach an aggregate call.

## Main results

* `FileQuery.Summary.merge_fold`: the step law.
* `FileQuery.Query.summarizeGroups_agrees`: any grouping agrees with one fold.
* `FileQuery.Query.summarizeSegments_agrees`: so does the parallel run.
-/

namespace FileQuery

/-- A way to cut a sequence into contiguous segments and to merge neighbours. -/
inductive Grouping (α : Type) where
  | segment (xs : List α)
  | merge (left right : Grouping α)

/-- The sequence that is cut. -/
def Grouping.items {α : Type} : Grouping α → List α
  | .segment xs => xs
  | .merge l r => l.items ++ r.items

namespace Query

variable [PatternEngine]

/-- The summary of a grouping: segments are folded from a fresh state, neighbours are merged. -/
def summarizeGroups (q : Query) (strict : Bool) (t : Tree) :
    Grouping Entry → Except QueryError Summary
  | .segment es => (es.foldlM (q.fold strict t) (.start q.aggregateCalls)).outcome
  | .merge l r => do
    let s ← summarizeGroups q strict t l
    let u ← summarizeGroups q strict t r
    s.merge q.aggregateCalls u

/-- The value of the first argument of a call reaches it from an entry: the row is kept and all
arguments have a value on it. A call without arguments is reached by null. -/
def Feeds (q : Query) (strict : Bool) (t : Tree) (c : AggregateCall) (e : Entry) (v : Value) :
    Prop :=
  (q.keeps strict (q.rowOf t e) e.path).outcome = .ok true ∧
  ∃ values, (c.args.mapM (valueOf strict (q.rowOf t e) [] (some e.path))).outcome = .ok values ∧
    values.head?.getD .null = v

end Query

namespace Summary

variable {S : AggregateCall → Set Value} {strict : Bool} {row : Row} {p : Path} {m n : Nat}
  {calls : List AggregateCall} {as bs : List Accumulator}

/-! ### Accumulators of several calls -/

/-- The value that a row feeds to a call, if its arguments have values. -/
def feed? [PatternEngine] (strict : Bool) (row : Row) (p : Path) (c : AggregateCall) :
    Option Value :=
  (c.args.mapM (valueOf strict row [] (some p))).outcome.toOption.map fun values =>
    values.head?.getD .null

/-- One more item in front, if there are both. -/
def consBoth {α : Type} (x : Option α) (xs : Option (List α)) : Option (List α) :=
  x.bind fun a => xs.bind fun as => some (a :: as)

/-- An action on lists that acts on heads and tails apart. -/
theorem consBoth_bind {α β : Type} {f : α → Option β} {g k : List α → Option (List β)}
    (hk : ∀ a as, k (a :: as) = consBoth (f a) (g as)) (x : Option α) (xs : Option (List α)) :
    (consBoth x xs).bind k = consBoth (x.bind f) (xs.bind g) := by
  cases x with
  | none => rfl
  | some a =>
    cases xs with
    | none => cases h : f a <;> simp [consBoth, h]
    | some as => simp [consBoth, hk]

theorem update_cons [PatternEngine] (c : AggregateCall) (cs : List AggregateCall) (a : Accumulator)
    (as : List Accumulator) :
    (update strict row p (c :: cs) (a :: as)).outcome.toOption =
      consBoth ((feed? strict row p c).bind fun v => (a.update [v]).toOption)
        (update strict row p cs as).outcome.toOption := by
  simp only [update, Report.outcome_bind, Report.outcome_ofExcept, Report.outcome_pure,
    Except.toOption_bind, Except.toOption_mapError, Except.toOption_ok, feed?, Option.bind_map,
    consBoth, Function.comp_def, Option.bind_assoc]
  rfl

theorem mergeAll_cons (c : AggregateCall) (cs : List AggregateCall) (a : Accumulator)
    (as : List Accumulator) (b : Accumulator) (bs : List Accumulator) :
    (mergeAll (c :: cs) (a :: as) (b :: bs)).toOption =
      consBoth (a.merge b).toOption (mergeAll cs as bs).toOption := by
  simp only [mergeAll, Except.toOption_bind, Except.toOption_mapError, consBoth]
  rfl

/-- The accumulators that calls may have after at most `n` rows. -/
def HoldsAll (S : AggregateCall → Set Value) (n : Nat) :
    List AggregateCall → List Accumulator → Prop :=
  List.Forall₂ fun c a => Accumulator.Holds (S c) c.args.length n c.function a

theorem holdsAll_start (calls : List AggregateCall) :
    HoldsAll S 0 calls (start calls).accumulators := by
  rw [start, HoldsAll, List.forall₂_map_right_iff, List.forall₂_same]
  exact fun c _ => Accumulator.holds_start c.function

theorem HoldsAll.mono (h : HoldsAll S m calls as) (hmn : m ≤ n) : HoldsAll S n calls as :=
  List.Forall₂.imp (fun _ _ ha => ha.mono hmn) h

/-- One more row keeps the invariant. -/
theorem HoldsAll.update [PatternEngine] (hS : ∀ c ∈ calls, c.function.Admits (S c))
    (hfeed : ∀ c ∈ calls, ∀ v, feed? strict row p c = some v → v ∈ S c) (hn : n + 1 ≤ 2 ^ 32)
    (h : HoldsAll S n calls as) (hu : (update strict row p calls as).outcome.toOption = some bs) :
    HoldsAll S (n + 1) calls bs := by
  induction h generalizing bs with
  | nil =>
    obtain rfl : [] = bs := Option.some.inj hu
    exact .nil
  | @cons c a cs as ha _ ih =>
    rw [update_cons, consBoth, Option.bind_eq_some_iff] at hu
    obtain ⟨b, hb, hu⟩ := hu
    obtain ⟨bs, hbs, hu⟩ := Option.bind_eq_some_iff.1 hu
    obtain rfl := Option.some.inj hu
    obtain ⟨v, hv, hb⟩ := Option.bind_eq_some_iff.1 hb
    obtain ⟨hSc, hScs⟩ := List.forall_mem_cons.1 hS
    obtain ⟨hfc, hfcs⟩ := List.forall_mem_cons.1 hfeed
    exact .cons (ha.update hSc hn (hfc v hv) hb) (ih hScs hfcs hbs)

theorem mergeAll_start (h : HoldsAll S n calls as) (hn : n ≤ 2 ^ 32) :
    mergeAll calls as (start calls).accumulators = .ok as := by
  induction h with
  | nil => rfl
  | @cons c a cs as ha _ ih =>
    rw [start, List.map_cons, mergeAll, Accumulator.merge_start ha hn]
    change (mergeAll cs as (start cs).accumulators).bind _ = _
    rw [ih]
    rfl

/-- One row may be folded by all accumulators before a merge or after it. -/
theorem mergeAll_update [PatternEngine] (hS : ∀ c ∈ calls, c.function.Admits (S c))
    (hfeed : ∀ c ∈ calls, ∀ v, feed? strict row p c = some v → v ∈ S c)
    (hmn : m + n + 1 ≤ 2 ^ 32) (ha : HoldsAll S m calls as) (hb : HoldsAll S n calls bs) :
    (update strict row p calls bs).outcome.toOption.bind
        (fun bs => (mergeAll calls as bs).toOption) =
      (mergeAll calls as bs).toOption.bind
        fun ms => (update strict row p calls ms).outcome.toOption := by
  induction ha generalizing bs with
  | nil =>
    cases hb
    rfl
  | @cons c a cs as ha _ ih =>
    obtain ⟨b, bs, hhead, hbs, rfl⟩ := List.forall₂_cons_left_iff.1 hb
    obtain ⟨hSc, hScs⟩ := List.forall_mem_cons.1 hS
    obtain ⟨hfc, hfcs⟩ := List.forall_mem_cons.1 hfeed
    rw [update_cons, mergeAll_cons, consBoth_bind (mergeAll_cons c cs a as),
      consBoth_bind (update_cons c cs), ih hScs hfcs hbs]
    congr 1
    cases hv : feed? strict row p c with
    | none => cases (a.merge b).toOption <;> rfl
    | some v => exact Accumulator.merge_update hSc ha hhead hmn (hfc v hv)

end Summary

namespace Query

variable {q : Query} {strict : Bool} {t : Tree} {S : AggregateCall → Set Value} {m n : Nat}
  {e : Entry}

/-! ### Summaries -/

theorem toOption_merge (calls : List AggregateCall) (s u : Summary) :
    (s.merge calls u).toOption = (Summary.mergeAll calls s.accumulators u.accumulators).toOption.map
      fun ms => ⟨ms, u.last.or s.last⟩ := Except.toOption_map _ _

section

variable [PatternEngine]

theorem toOption_fold_of_kept
    (hkept : (q.keeps strict (q.rowOf t e) e.path).outcome = .ok true) (s : Summary) :
    (q.fold strict t s e).outcome.toOption =
      (Summary.update strict (q.rowOf t e) e.path q.aggregateCalls
        s.accumulators).outcome.toOption.map fun as => ⟨as, some (q.rowOf t e)⟩ := by
  rw [fold, Report.outcome_bind, hkept]
  change (Summary.add strict q.aggregateCalls s (q.rowOf t e) e.path).outcome.toOption = _
  rw [Summary.add, Report.outcome_bind, Except.toOption_bind]
  cases (Summary.update strict (q.rowOf t e) e.path q.aggregateCalls s.accumulators).outcome <;> rfl

theorem toOption_fold_of_dropped
    (hdropped : (q.keeps strict (q.rowOf t e) e.path).outcome = .ok false) (s : Summary) :
    (q.fold strict t s e).outcome.toOption = some s := by
  rw [fold, Report.outcome_bind, hdropped]
  rfl

theorem toOption_fold_of_error {cause : QueryError}
    (herror : (q.keeps strict (q.rowOf t e) e.path).outcome = .error cause) (s : Summary) :
    (q.fold strict t s e).outcome.toOption = none := by
  rw [fold, Report.outcome_bind, herror]
  rfl

/-- What a kept row feeds to a call reaches it. -/
theorem feeds_of_feed? (hkept : (q.keeps strict (q.rowOf t e) e.path).outcome = .ok true)
    {c : AggregateCall} {v : Value}
    (h : Summary.feed? strict (q.rowOf t e) e.path c = some v) : q.Feeds strict t c e v := by
  obtain ⟨values, hvalues, hv⟩ := Option.map_eq_some_iff.1 h
  refine ⟨hkept, values, ?_, hv⟩
  cases hout : (c.args.mapM (valueOf strict (q.rowOf t e) [] (some e.path))).outcome with
  | error cause => rw [hout] at hvalues; cases hvalues
  | ok values' =>
    rw [hout] at hvalues
    rw [Option.some.inj hvalues]

/-- An entry may be folded into the second of two summaries before a merge or into the merged one. -/
theorem merge_fold (hS : ∀ c ∈ q.aggregateCalls, c.function.Admits (S c))
    (hfeed : ∀ c ∈ q.aggregateCalls, ∀ v, q.Feeds strict t c e v → v ∈ S c)
    (hmn : m + n + 1 ≤ 2 ^ 32) {s u : Summary}
    (hs : Summary.HoldsAll S m q.aggregateCalls s.accumulators)
    (hu : Summary.HoldsAll S n q.aggregateCalls u.accumulators) :
    (q.fold strict t u e).outcome.toOption.bind
        (fun u => (s.merge q.aggregateCalls u).toOption) =
      (s.merge q.aggregateCalls u).toOption.bind
        fun w => (q.fold strict t w e).outcome.toOption := by
  cases hkeeps : (q.keeps strict (q.rowOf t e) e.path).outcome with
  | error cause =>
    simp only [toOption_fold_of_error hkeeps, Option.bind_none, Option.bind_fun_none]
  | ok kept =>
    cases kept with
    | false =>
      simp only [toOption_fold_of_dropped hkeeps, Option.bind_some, Option.bind_fun_some]
    | true =>
      have hlaw := Summary.mergeAll_update hS
        (fun c hc v hv => hfeed c hc v (feeds_of_feed? hkeeps hv)) hmn hs hu
      have hmap := congrArg
        (Option.map fun as => (⟨as, some (q.rowOf t e)⟩ : Summary)) hlaw
      rw [Option.map_bind, Option.map_bind] at hmap
      simpa only [toOption_fold_of_kept hkeeps, toOption_merge, Option.bind_map,
        Function.comp_def, Option.some_or] using hmap

/-- One more entry keeps the invariant. -/
theorem holdsAll_fold (hS : ∀ c ∈ q.aggregateCalls, c.function.Admits (S c))
    (hfeed : ∀ c ∈ q.aggregateCalls, ∀ v, q.Feeds strict t c e v → v ∈ S c)
    (hn : n + 1 ≤ 2 ^ 32) {s u : Summary}
    (hs : Summary.HoldsAll S n q.aggregateCalls s.accumulators)
    (hu : (q.fold strict t s e).outcome.toOption = some u) :
    Summary.HoldsAll S (n + 1) q.aggregateCalls u.accumulators := by
  cases hkeeps : (q.keeps strict (q.rowOf t e) e.path).outcome with
  | error cause => rw [toOption_fold_of_error hkeeps] at hu; cases hu
  | ok kept =>
    cases kept with
    | false =>
      rw [toOption_fold_of_dropped hkeeps] at hu
      obtain rfl := Option.some.inj hu
      exact hs.mono (Nat.le_succ n)
    | true =>
      rw [toOption_fold_of_kept hkeeps] at hu
      obtain ⟨as, has, rfl⟩ := Option.map_eq_some_iff.1 hu
      exact hs.update hS (fun c hc v hv => hfeed c hc v (feeds_of_feed? hkeeps hv)) hn has

/-! ### Sequences of entries -/

/-- The summary of entries in one go, if there is one. -/
def summaryOf? (q : Query) (strict : Bool) (t : Tree) (es : List Entry) : Option Summary :=
  (es.foldlM (q.fold strict t) (.start q.aggregateCalls)).outcome.toOption

theorem summaryOf?_concat (es : List Entry) (e : Entry) :
    q.summaryOf? strict t (es ++ [e]) =
      (q.summaryOf? strict t es).bind fun s => (q.fold strict t s e).outcome.toOption := by
  rw [summaryOf?, List.foldlM_append, Report.outcome_bind, Except.toOption_bind, ← summaryOf?]
  congr 1
  funext s
  rw [List.foldlM_cons]
  simp only [List.foldlM_nil, bind_pure]

/-- The summary of some entries satisfies the invariant. -/
theorem holdsAll_of_summaryOf? (hS : ∀ c ∈ q.aggregateCalls, c.function.Admits (S c))
    {es : List Entry}
    (hfeed : ∀ e ∈ es, ∀ c ∈ q.aggregateCalls, ∀ v, q.Feeds strict t c e v → v ∈ S c)
    (hes : es.length ≤ 2 ^ 32) {s : Summary} (hs : q.summaryOf? strict t es = some s) :
    Summary.HoldsAll S es.length q.aggregateCalls s.accumulators := by
  induction es using List.reverseRecOn generalizing s with
  | nil =>
    obtain rfl := Option.some.inj hs
    exact Summary.holdsAll_start q.aggregateCalls
  | append_singleton es e ih =>
    rw [List.length_append, List.length_singleton] at hes ⊢
    rw [summaryOf?_concat] at hs
    obtain ⟨u, hu, hs⟩ := Option.bind_eq_some_iff.1 hs
    rw [List.forall_mem_append, List.forall_mem_singleton] at hfeed
    exact holdsAll_fold hS hfeed.2 hes (ih hfeed.1 (by omega) hu) hs

/-- The summary of two sequences is the merge of theirs. -/
theorem summaryOf?_append (hS : ∀ c ∈ q.aggregateCalls, c.function.Admits (S c))
    {ds es : List Entry}
    (hfeed : ∀ e ∈ ds ++ es, ∀ c ∈ q.aggregateCalls, ∀ v, q.Feeds strict t c e v → v ∈ S c)
    (hlength : (ds ++ es).length ≤ 2 ^ 32) :
    q.summaryOf? strict t (ds ++ es) = (q.summaryOf? strict t ds).bind fun s =>
      (q.summaryOf? strict t es).bind fun u => (s.merge q.aggregateCalls u).toOption := by
  induction es using List.reverseRecOn with
  | nil =>
    rw [List.append_nil] at hfeed hlength ⊢
    cases hds : q.summaryOf? strict t ds with
    | none => rfl
    | some s =>
      have hs := holdsAll_of_summaryOf? hS hfeed hlength hds
      have hnil : q.summaryOf? strict t [] = some (.start q.aggregateCalls) := rfl
      rw [hnil, Option.bind_some, Option.bind_some, toOption_merge,
        Summary.mergeAll_start hs hlength]
      rfl
  | append_singleton es e ih =>
    rw [← List.append_assoc] at hfeed hlength ⊢
    rw [List.length_append, List.length_singleton] at hlength
    rw [List.forall_mem_append, List.forall_mem_singleton] at hfeed
    rw [summaryOf?_concat, summaryOf?_concat, ih hfeed.1 (by omega), Option.bind_assoc]
    have hparts := List.forall_mem_append.1 hfeed.1
    rw [List.length_append] at hlength
    -- the invariant holds of both parts, so the last entry may be folded after the merge
    refine Option.bind_congr fun s hs => ?_
    rw [Option.bind_assoc, Option.bind_assoc]
    refine Option.bind_congr fun u hu => ?_
    exact (merge_fold hS hfeed.2 hlength
      (holdsAll_of_summaryOf? hS hparts.1 (by omega) hs)
      (holdsAll_of_summaryOf? hS hparts.2 (by omega) hu)).symm

theorem toOption_summarizeGroups_merge (l r : Grouping Entry) :
    (q.summarizeGroups strict t (.merge l r)).toOption =
      (q.summarizeGroups strict t l).toOption.bind fun s =>
        (q.summarizeGroups strict t r).toOption.bind fun u =>
          (s.merge q.aggregateCalls u).toOption := by
  simp only [summarizeGroups, Except.toOption_bind]

/-- The summary of a grouping is that of its items in one go. -/
theorem toOption_summarizeGroups (hS : ∀ c ∈ q.aggregateCalls, c.function.Admits (S c))
    {g : Grouping Entry}
    (hfeed : ∀ e ∈ g.items, ∀ c ∈ q.aggregateCalls, ∀ v, q.Feeds strict t c e v → v ∈ S c)
    (hlength : g.items.length ≤ 2 ^ 32) :
    (q.summarizeGroups strict t g).toOption = q.summaryOf? strict t g.items := by
  induction g with
  | segment es => rfl
  | merge l r ihl ihr =>
    have hparts := List.forall_mem_append.1 hfeed
    have hlr : l.items.length + r.items.length ≤ 2 ^ 32 := by
      rw [← List.length_append]
      exact hlength
    rw [Grouping.items, summaryOf?_append hS hfeed hlength, ← ihl hparts.1 (by omega),
      ← ihr hparts.2 (by omega), toOption_summarizeGroups_merge]

/-- Events aside, the sequential run folds the entries. -/
theorem toOption_summarize (visits : List Visit) :
    (q.summarize strict t visits).outcome.toOption =
      q.summaryOf? strict t (visits.map Visit.entry) := by
  rw [summarize, summaryOf?, Report.outcome_foldlM, Report.outcome_foldlM, List.foldlM_map]
  rfl

/-- Any grouping of the entries below `2 ^ 32` agrees with the sequential run: both give the same
final values and the same last row, or both fail. -/
theorem summarizeGroups_agrees (q : Query) (strict : Bool) (t : Tree) (visits : List Visit)
    (g : Grouping Entry) (hg : g.items = visits.map Visit.entry) (hlength : visits.length < 2 ^ 32)
    (hadmits : ∀ c ∈ q.aggregateCalls,
      c.function.Admits {v | ∃ e ∈ g.items, q.Feeds strict t c e v}) :
    (∃ s u, (q.summarize strict t visits).outcome = .ok s ∧
      q.summarizeGroups strict t g = .ok u ∧ u.finals = s.finals ∧ u.last = s.last) ∨
    ((∃ e, (q.summarize strict t visits).outcome = .error e) ∧
      ∃ e, q.summarizeGroups strict t g = .error e) := by
  have hitems : g.items.length ≤ 2 ^ 32 := by
    rw [hg, List.length_map]
    exact Nat.le_of_lt hlength
  have h := toOption_summarizeGroups hadmits (fun e he c _ v hv => ⟨e, he, hv⟩) hitems
  rw [hg, ← toOption_summarize] at h
  cases hone : (q.summarize strict t visits).outcome with
  | error e =>
    cases hgroups : q.summarizeGroups strict t g with
    | error e' => exact Or.inr ⟨⟨e, rfl⟩, e', rfl⟩
    | ok u => rw [hone, hgroups] at h; cases h
  | ok s =>
    cases hgroups : q.summarizeGroups strict t g with
    | error e' => rw [hone, hgroups] at h; cases h
    | ok u =>
      rw [hone, hgroups] at h
      obtain rfl := Option.some.inj h
      exact Or.inl ⟨u, u, rfl, rfl, rfl, rfl⟩

end

/-- A file of a given size at the top of a walk. -/
def fileOfSize (n : Nat) : Entry :=
  ⟨⟨[]⟩, 1, some ⟨⟨0, 0, 0, none, none, none⟩, .file, n⟩⟩

/-- The query `select sum(size), max(depth), count() from .`. -/
def totals : Query :=
  ⟨[⟨.call (.aggregate .sum) [.column .size], none⟩,
    ⟨.call (.aggregate .max) [.column .depth], none⟩,
    ⟨.call (.aggregate .count) [], none⟩], ".", none, [], none⟩

/-- Two files in three segments, the middle one empty: the final values are those of one fold. -/
theorem summarizeGroups_two_files :
    (totals.summarizeGroups true ⟨⟨[]⟩, []⟩ (.merge (.segment [fileOfSize 3])
      (.merge (.segment []) (.segment [fileOfSize 4])))).map Summary.finals =
      .ok [.integer 7, .integer 1, .integer 2] := by
  have hone : (totals.summarize true ⟨⟨[]⟩, []⟩
      [⟨fileOfSize 3, .stays⟩, ⟨fileOfSize 4, .stays⟩]).outcome.map Summary.finals =
      .ok [.integer 7, .integer 1, .integer 2] := rfl
  have hadmits : ∀ c ∈ totals.aggregateCalls, c.function.Admits {v | ∃ e ∈ (Grouping.merge
      (.segment [fileOfSize 3]) (.merge (.segment []) (.segment [fileOfSize 4]))).items,
      totals.Feeds true ⟨⟨[]⟩, []⟩ c e v} := by
    have hcalls : totals.aggregateCalls =
      [⟨.sum, [.column .size]⟩, ⟨.max, [.column .depth]⟩, ⟨.count, []⟩] := rfl
    rw [hcalls, List.forall_mem_cons, List.forall_mem_cons, List.forall_mem_singleton]
    refine ⟨?_, ?_, trivial⟩
    · rintro x ⟨e, he, -, values, hvalues, hx⟩
      rcases List.mem_pair.1 he with rfl | rfl
      · obtain rfl : [.integer 3] = values := Except.ok.inj hvalues
        cases hx
      · obtain rfl : [.integer 4] = values := Except.ok.inj hvalues
        cases hx
    · rintro x - ⟨e, he, -, values, hvalues, hx⟩
      rcases List.mem_pair.1 he with rfl | rfl
      · obtain rfl : [.integer 1] = values := Except.ok.inj hvalues
        cases hx
      · obtain rfl : [.integer 1] = values := Except.ok.inj hvalues
        cases hx
  rcases summarizeGroups_agrees totals true ⟨⟨[]⟩, []⟩
      [⟨fileOfSize 3, .stays⟩, ⟨fileOfSize 4, .stays⟩] _ rfl (by decide) hadmits with
    ⟨s, u, hs, hu, hfinals, -⟩ | ⟨⟨e, he⟩, -⟩
  · rw [hs] at hone
    rw [hu]
    exact (congrArg Except.ok hfinals).trans hone
  · rw [he] at hone
    cases hone

/-! ### The parallel run -/

theorem flatten_segments {α : Type} (n : Nat) (xs : List α) : (segments n xs).flatten = xs := by
  induction xs using segments.induct n with
  | case1 => rw [segments, List.flatten_nil]
  | case2 x xs ih =>
    rw [segments, List.flatten_cons, ih, List.cons_append, List.take_append_drop]

/-- Segments merged from left to right, starting with a given part. -/
def mergedFrom {α : Type} : Grouping α → List (List α) → Grouping α :=
  List.foldl fun g xs => .merge g (.segment xs)

theorem items_mergedFrom {α : Type} (g : Grouping α) (xss : List (List α)) :
    (mergedFrom g xss).items = g.items ++ xss.flatten := by
  induction xss generalizing g with
  | nil => rw [List.flatten_nil, List.append_nil]; rfl
  | cons xs xss ih =>
    rw [List.flatten_cons, ← List.append_assoc]
    exact ih (.merge g (.segment xs))

variable [PatternEngine]

/-- Summarizing all segments first and then merging is the summary of the grouping. -/
theorem toOption_mergedFrom (g : Grouping Entry) (ess : List (List Entry)) :
    (q.summarizeGroups strict t (mergedFrom g ess)).toOption =
      (ess.mapM fun es => q.summarizeGroups strict t (.segment es)).toOption.bind fun parts =>
        (q.summarizeGroups strict t g).toOption.bind fun s =>
          (parts.foldlM (Summary.merge q.aggregateCalls) s).toOption := by
  induction ess generalizing g with
  | nil =>
    exact (Option.bind_fun_some _).symm
  | cons es ess ih =>
    rw [mergedFrom, List.foldl_cons, ← mergedFrom, ih, List.mapM_cons,
      toOption_summarizeGroups_merge]
    simp only [Except.toOption_bind]
    cases q.summarizeGroups strict t g <;> cases q.summarizeGroups strict t (.segment es) <;>
      cases (ess.mapM fun es => q.summarizeGroups strict t (.segment es)) <;>
      simp [Except.toOption_bind, List.foldlM_cons, pure, Except.pure]

/-- Events aside, the parallel run merges segments of the entries. -/
theorem toOption_summarizeSegments (visits : List Visit) :
    (q.summarizeSegments strict t visits).outcome.toOption =
      (q.summarizeGroups strict t (mergedFrom (.segment [])
        (segments segmentLength (visits.map Visit.entry)))).toOption := by
  rw [toOption_mergedFrom, summarizeSegments]
  simp only [Report.outcome_bind, Report.outcome_noteAll, Report.outcome_mapM,
    Report.outcome_ofExcept, Except.toOption_bind, Except.toOption_ok, Option.bind_some]
  rfl

/-- The parallel run has the summary of the sequential run, or both fail. -/
theorem summarizeSegments_agrees (q : Query) (strict : Bool) (t : Tree) (visits : List Visit)
    (hlength : visits.length < 2 ^ 32)
    (hadmits : ∀ c ∈ q.aggregateCalls,
      c.function.Admits {v | ∃ e ∈ visits.map Visit.entry, q.Feeds strict t c e v}) :
    (q.summarizeSegments strict t visits).outcome.toOption =
      (q.summarize strict t visits).outcome.toOption := by
  have hitems : (mergedFrom (.segment []) (segments segmentLength
      (visits.map Visit.entry))).items = visits.map Visit.entry := by
    rw [items_mergedFrom, flatten_segments, Grouping.items, List.nil_append]
  have hgroups := toOption_summarizeGroups hadmits
    (fun e he c _ v hv => ⟨e, hitems ▸ he, hv⟩)
    (by rw [hitems, List.length_map]; exact Nat.le_of_lt hlength)
  rw [toOption_summarizeSegments, hgroups, hitems, toOption_summarize]

end Query

end FileQuery
