import Mathlib.Data.List.Basic

/-!
# Stable sorting

A stable sort is settled by two facts: its result is sorted, and items that compare as equal come in
the order in which they came before. One more item in front of a list is put before the first of the
sorted others that it is not above. A sorted list falls into groups of items that tie; sorting by
the reversed comparison reverses the groups and leaves each of them as it is.

## Main definitions

* `FileQuery.sortBy`: the stable sort by a comparison.
* `FileQuery.insertBy`: an item put in its place.
* `FileQuery.TieGroups`: groups of items that tie, in order.

## Main results

* `FileQuery.pairwise_sortBy`, `FileQuery.filter_sortBy`: the two facts.
* `FileQuery.eq_of_sorted`: they leave one list.
* `FileQuery.sortBy_cons`, `FileQuery.sortBy_eq_foldr`: sorting one item at a time.
* `FileQuery.exists_tieGroups`: the groups of a sorted list.
* `FileQuery.TieGroups.sortBy_reversed`: sorting by the reversed comparison.
-/

namespace FileQuery

/-- Groups of items that tie, each group in front of the groups behind it. -/
structure TieGroups {α : Type} (tie before : α → α → Prop) (groups : List (List α)) : Prop where
  nonempty : ∀ g ∈ groups, g ≠ []
  tied : ∀ g ∈ groups, ∀ a ∈ g, ∀ b ∈ g, tie a b
  ordered : groups.Pairwise fun g h => ∀ a ∈ g, ∀ b ∈ h, before a b

/-- Sorts by a comparison; items that compare as equal stay in their order. -/
def sortBy {α : Type} (cmp : α → α → Ordering) (l : List α) : List α :=
  l.mergeSort fun a b => (cmp a b).isLE

/-- Puts an item before the first of a list that it is not above. -/
def insertBy {α : Type} (cmp : α → α → Ordering) (a : α) : List α → List α
  | [] => [a]
  | b :: l => if (cmp a b).isLE then a :: b :: l else b :: insertBy cmp a l

variable {α : Type} {cmp : α → α → Ordering} [Std.TransCmp cmp] {l l₁ l₂ : List α}
  {groups : List (List α)}

theorem isLE_total (a b : α) : ((cmp a b).isLE || (cmp b a).isLE) = true := by
  have hswap : cmp b a = (cmp a b).swap := Std.OrientedCmp.eq_swap
  rw [hswap]
  cases cmp a b <;> rfl

theorem pairwise_sortBy (l : List α) : (sortBy cmp l).Pairwise fun a b => (cmp a b).isLE :=
  List.pairwise_mergeSort (fun _ _ _ => Std.TransCmp.isLE_trans) isLE_total l

/-- Items that tie stay in their order. -/
theorem filter_sortBy {p : α → Bool} (hp : ∀ a b, p a → p b → cmp a b = .eq) (l : List α) :
    (sortBy cmp l).filter p = l.filter p := by
  have hsorted : (l.filter p).Pairwise fun a b => (cmp a b).isLE := by
    refine List.pairwise_filter.2 (List.pairwise_of_forall fun a b ha hb => ?_)
    rw [hp a b ha hb]
    rfl
  have hsublist : (l.filter p).Sublist (sortBy cmp l) :=
    List.sublist_mergeSort (fun _ _ _ => Std.TransCmp.isLE_trans) isLE_total hsorted
      List.filter_sublist
  have hfilter : (l.filter p).Sublist ((sortBy cmp l).filter p) := by
    simpa [List.filter_filter] using hsublist.filter p
  exact (hfilter.eq_of_length ((List.mergeSort_perm l _).filter p).length_eq.symm).symm

theorem mem_iff_of_filter_eq
    (h : ∀ a, l₁.filter (cmp a · == .eq) = l₂.filter (cmp a · == .eq)) (a : α) :
    a ∈ l₁ ↔ a ∈ l₂ := by
  have hself : cmp a a = .eq := Std.ReflCmp.compare_self
  have hiff : a ∈ l₁.filter (cmp a · == .eq) ↔ a ∈ l₂.filter (cmp a · == .eq) := by rw [h a]
  simpa [hself] using hiff

/-- The first item of a sorted list is below all of its items. -/
theorem isLE_of_mem_sorted {a b : α} (h : (a :: l).Pairwise fun a b => (cmp a b).isLE)
    (hb : b ∈ a :: l) : (cmp a b).isLE := by
  rcases List.mem_cons.1 hb with rfl | hb
  · exact Std.ReflCmp.isLE_rfl
  · exact List.rel_of_pairwise_cons h hb

/-- Sorted lists with the same items in each class of ties are equal. -/
theorem eq_of_sorted (h₁ : l₁.Pairwise fun a b => (cmp a b).isLE)
    (h₂ : l₂.Pairwise fun a b => (cmp a b).isLE)
    (h : ∀ a, l₁.filter (cmp a · == .eq) = l₂.filter (cmp a · == .eq)) : l₁ = l₂ := by
  induction l₁ generalizing l₂ with
  | nil =>
    exact (List.eq_nil_iff_forall_not_mem.2 fun a ha =>
      nomatch (mem_iff_of_filter_eq h a).2 ha).symm
  | cons a l₁ ih =>
    cases l₂ with
    | nil => exact absurd ((mem_iff_of_filter_eq h a).1 List.mem_cons_self) List.not_mem_nil
    | cons b l₂ =>
      have hself : cmp a a = .eq := Std.ReflCmp.compare_self
      have htie : cmp a b = .eq := Std.OrientedCmp.isLE_antisymm
        (isLE_of_mem_sorted h₁ ((mem_iff_of_filter_eq h b).2 List.mem_cons_self))
        (isLE_of_mem_sorted h₂ ((mem_iff_of_filter_eq h a).1 List.mem_cons_self))
      have hhead := h a
      rw [List.filter_cons_of_pos (by simp [hself]), List.filter_cons_of_pos (by simp [htie])]
        at hhead
      obtain ⟨rfl, -⟩ := List.cons.inj hhead
      have htail : ∀ x, l₁.filter (cmp x · == .eq) = l₂.filter (cmp x · == .eq) := by
        intro x
        have hx := h x
        rw [List.filter_cons, List.filter_cons] at hx
        split at hx
        · exact (List.cons.inj hx).2
        · exact hx
      rw [ih h₁.of_cons h₂.of_cons htail]

/-! ### One item at a time -/

theorem sortBy_cons (a : α) (l : List α) : sortBy cmp (a :: l) = insertBy cmp a (sortBy cmp l) := by
  obtain ⟨before, after, hcons, hl, hbefore⟩ := @List.mergeSort_cons _ (fun a b => (cmp a b).isLE)
    (fun _ _ _ => Std.TransCmp.isLE_trans) isLE_total a l
  have hsorted : (sortBy cmp (a :: l)).Pairwise fun a b => (cmp a b).isLE := pairwise_sortBy _
  change sortBy cmp (a :: l) = _ at hcons
  change sortBy cmp l = _ at hl
  rw [hcons] at hsorted
  rw [hcons, hl]
  have hafter := (List.pairwise_append.1 hsorted).2.1
  clear hcons hl hsorted
  induction before with
  | nil =>
    cases after with
    | nil => rfl
    | cons b after =>
      exact (if_pos (List.rel_of_pairwise_cons hafter List.mem_cons_self)).symm
  | cons b before ih =>
    obtain ⟨hb, hbefore⟩ := List.forall_mem_cons.1 hbefore
    have hgt : ¬(cmp a b).isLE := by simpa using hb
    rw [List.cons_append, List.cons_append, insertBy, if_neg hgt, ← ih hbefore]

theorem sortBy_eq_foldr (l : List α) : sortBy cmp l = l.foldr (insertBy cmp) [] := by
  induction l with
  | nil => exact List.mergeSort_nil
  | cons a l ih => rw [sortBy_cons, ih, List.foldr_cons]

/-! ### Some of the items -/

/-- It is the same to leave items out before sorting or after it. -/
theorem sortBy_filter (p : α → Bool) (l : List α) :
    sortBy cmp (l.filter p) = (sortBy cmp l).filter p := by
  refine eq_of_sorted (pairwise_sortBy _) ((pairwise_sortBy l).filter p) fun a => ?_
  have hties : ∀ b c : α, (cmp a b == .eq) = true → (cmp a c == .eq) = true → cmp b c = .eq :=
    fun b c hb hc => Std.TransCmp.eq_trans (Std.OrientedCmp.eq_symm (eq_of_beq hb)) (eq_of_beq hc)
  rw [List.filter_comm _ p (sortBy cmp l), filter_sortBy hties, filter_sortBy hties]
  exact List.filter_comm _ _ _

/-! ### Groups -/

/-- A sorted list falls into groups of items that tie. -/
theorem exists_tieGroups (h : l.Pairwise fun a b => (cmp a b).isLE) :
    ∃ groups, l = groups.flatten ∧ TieGroups (cmp · · = .eq) (cmp · · = .lt) groups := by
  induction l with
  | nil => exact ⟨[], rfl, fun _ h => (nomatch h), fun _ h => (nomatch h), .nil⟩
  | cons a l ih =>
    obtain ⟨groups, rfl, hgroups⟩ := ih h.of_cons
    have hself : cmp a a = .eq := Std.ReflCmp.compare_self
    cases groups with
    | nil =>
      refine ⟨[[a]], rfl, ?_, ?_, List.pairwise_singleton _ _⟩
      · exact List.forall_mem_singleton.2 (List.cons_ne_nil _ _)
      · simpa using hself
    | cons g gs =>
      obtain ⟨hnonempty, hnonemptys⟩ := List.forall_mem_cons.1 hgroups.nonempty
      obtain ⟨htied, htieds⟩ := List.forall_mem_cons.1 hgroups.tied
      obtain ⟨hfirst, hordered⟩ := List.pairwise_cons.1 hgroups.ordered
      obtain ⟨b, hb⟩ := List.exists_mem_of_ne_nil g hnonempty
      by_cases htie : cmp a b = .eq
      · -- the item joins the first group
        have hjoin : ∀ x ∈ a :: g, cmp x b = .eq :=
          List.forall_mem_cons.2 ⟨htie, fun x hx => htied x hx b hb⟩
        refine ⟨(a :: g) :: gs, rfl, ?_, ?_, List.pairwise_cons.2 ⟨fun h hh x hx y hy => ?_,
          hordered⟩⟩
        · exact List.forall_mem_cons.2 ⟨List.cons_ne_nil _ _, hnonemptys⟩
        · refine List.forall_mem_cons.2 ⟨fun x hx y hy => ?_, htieds⟩
          exact Std.TransCmp.eq_trans (hjoin x hx) (Std.OrientedCmp.eq_symm (hjoin y hy))
        · rw [Std.TransCmp.congr_left (hjoin x hx)]
          exact hfirst h hh b hb y hy
      · -- the item is a group of its own
        have hlt : cmp a b = .lt := by
          have hle := List.rel_of_pairwise_cons h (List.mem_append_left _ hb)
          cases hab : cmp a b with
          | lt => rfl
          | eq => exact absurd hab htie
          | gt => rw [hab] at hle; cases hle
        have hbefore : ∀ x ∈ g, cmp a x = .lt := by
          intro x hx
          rw [← Std.TransCmp.congr_right (htied b hb x hx)]
          exact hlt
        refine ⟨[a] :: g :: gs, rfl, ?_, ?_, List.pairwise_cons.2 ⟨?_, hgroups.ordered⟩⟩
        · exact List.forall_mem_cons.2 ⟨List.cons_ne_nil _ _, hgroups.nonempty⟩
        · exact List.forall_mem_cons.2 ⟨by simpa using hself, hgroups.tied⟩
        · refine List.forall_mem_cons.2 ⟨?_, fun h hh => ?_⟩
          · simpa using hbefore
          · have hlater : ∀ y ∈ h, cmp a y = .lt := fun y hy =>
              Std.TransCmp.lt_trans hlt (hfirst h hh b hb y hy)
            simpa using hlater

namespace TieGroups

omit [Std.TransCmp cmp] in
/-- Items that tie are in one group, so that the order of the groups does not matter to them. -/
theorem filter_reverse (h : TieGroups (cmp · · = .eq) (cmp · · = .lt) groups) {p : α → Bool}
    (hp : ∀ a b, p a → p b → cmp a b = .eq) :
    groups.reverse.flatten.filter p = groups.flatten.filter p := by
  induction groups with
  | nil => rfl
  | cons g gs ih =>
    obtain ⟨-, hnonempty⟩ := List.forall_mem_cons.1 h.nonempty
    obtain ⟨-, htied⟩ := List.forall_mem_cons.1 h.tied
    obtain ⟨hfirst, hordered⟩ := List.pairwise_cons.1 h.ordered
    have hgs := ih ⟨hnonempty, htied, hordered⟩
    rw [List.reverse_cons, List.flatten_append, List.flatten_singleton, List.flatten_cons,
      List.filter_append, List.filter_append, hgs]
    by_cases hnone : g.filter p = []
    · rw [hnone, List.append_nil, List.nil_append]
    · obtain ⟨a, ha⟩ := List.exists_mem_of_ne_nil _ hnone
      obtain ⟨ha, hpa⟩ := List.mem_filter.1 ha
      have hrest : gs.flatten.filter p = [] := by
        refine List.filter_eq_nil_iff.2 fun b hb hpb => ?_
        obtain ⟨h', hh', hb⟩ := List.mem_flatten.1 hb
        have hlt := hfirst h' hh' a ha b hb
        rw [hp a b hpa hpb] at hlt
        cases hlt
      rw [hrest, List.append_nil, List.nil_append]

/-- Sorting by the reversed comparison reverses the groups. -/
theorem sortBy_reversed (h : TieGroups (cmp · · = .eq) (cmp · · = .lt) groups)
    (hl : sortBy cmp l = groups.flatten) :
    sortBy (fun a b => cmp b a) l = groups.reverse.flatten := by
  have hties : ∀ a, ∀ b c : α, (cmp b a == .eq) = true → (cmp c a == .eq) = true →
      cmp b c = .eq := by
    intro a b c hb hc
    exact Std.TransCmp.eq_trans (eq_of_beq hb) (Std.OrientedCmp.eq_symm (eq_of_beq hc))
  have hreversed : groups.reverse.flatten.Pairwise fun a b => (cmp b a).isLE := by
    refine List.pairwise_flatten.2 ⟨fun g hg => ?_, List.pairwise_reverse.2 ?_⟩
    · refine List.pairwise_iff_forall_sublist.2 fun {a b} hab => ?_
      rw [h.tied g (List.mem_reverse.1 hg) b (hab.subset (by simp)) a (hab.subset (by simp))]
      rfl
    · refine h.ordered.imp fun hbefore b hb a ha => ?_
      rw [hbefore a ha b hb]
      rfl
  have hswapped : Std.TransCmp fun a b => cmp b a := inferInstance
  refine eq_of_sorted (pairwise_sortBy l) hreversed fun a => ?_
  rw [filter_sortBy (fun b c hb hc => Std.OrientedCmp.eq_symm (hties a b c hb hc)) l,
    h.filter_reverse (hties a), ← hl, filter_sortBy (hties a)]

end TieGroups

end FileQuery
