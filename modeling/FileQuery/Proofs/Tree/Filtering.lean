import Mathlib.Data.List.Basic
import FileQuery.Proofs.Tree.Preorder

/-!
# What the options of a walk leave out

A walk leaves out hidden entries before it lists a directory, and it enters no directory if it is
not recursive. What it visits are then the entries of the walk through the whole tree that have no
hidden name on the way to them and that lie deep enough, in the same order.

## Main definitions

* `FileQuery.Entry.isVisibleBelow`: entries without hidden names on the way to them.
* `FileQuery.WalkOptions.keeps`: the entries that a walk with some options visits.

## Main results

* `FileQuery.entries_flat`: a walk that is not recursive visits the first level.
* `FileQuery.entries_visible`: a walk that leaves out what is hidden visits what is visible.
* `FileQuery.Walk.toList_start_filter`: a walk visits what its options keep.
-/

namespace FileQuery

variable {o : WalkOptions} {p : Path} {d : Directory} {s : Site} {ns : List Node} {n : Node}
  {v : Visit} {names : List Segment}

/-- Whether no component of the path of an entry below a directory is hidden. -/
def Entry.isVisibleBelow (directory : Path) (e : Entry) : Bool :=
  (e.path.parts.drop directory.parts.length).all fun s => !isHiddenName s

/-- Whether a walk through a directory visits an entry below it. -/
def WalkOptions.keeps (o : WalkOptions) (directory : Path) (e : Entry) : Bool :=
  (o.recursive || e.depth == 1) && (!o.skipHidden || e.isVisibleBelow directory)

theorem Entry.isVisibleBelow_descend {e : Entry} (hnames : ∀ r ∈ names, IsEntryName r)
    (he : e.path = p.descend names) : e.isVisibleBelow p = names.all fun r => !isHiddenName r := by
  rw [isVisibleBelow, he, Path.parts_descend p hnames, List.drop_left]

/-! ### Lists without some of their elements -/

theorem flatMap_filter {α β : Type} (keep : α → Bool) (f : α → List β) (l : List α) :
    (l.filter keep).flatMap f = l.flatMap fun a => if keep a then f a else [] := by
  induction l with
  | nil => rfl
  | cons a l ih =>
    rw [List.filter_cons, List.flatMap_cons, ← ih]
    split <;> rfl

/-- Entries that are left out do not change the order of the others. -/
theorem WalkOptions.listed_eq_filter (o : WalkOptions) (hns : Node.WellFormed ns) :
    o.listed ns =
      (full.listed ns).filter fun n => !(o.skipHidden && isHiddenName n.name) := by
  have hfull : (full.listed ns).Perm ns :=
    (List.mergeSort_perm _ _).trans (.of_eq (List.filter_eq_self.2 fun _ _ => rfl))
  exact listed_eq_of_perm hns (hfull.filter _) ((listed_pairwise hns).filter _)

/-! ### The first level -/

theorem le_depth_of_mem_visits (h : v ∈ visits o s ns) : s.depth ≤ v.entry.depth := by
  obtain ⟨above, t, n, hn, rfl⟩ := exists_reached_of_mem_visits h
  have hdepth : (o.visit t n).entry.depth = s.depth + above.length := hn.depth_eq
  omega

/-- Of a node and all below it only the node is on its level. -/
theorem filter_depth_block (o : WalkOptions) (s : Site) (n : Node) :
    ((o.block s n).map Visit.entry).filter (fun e => e.depth == s.depth) = [n.entry s] := by
  have hbelow : ((o.below s n).map Visit.entry).filter (fun e => e.depth == s.depth) = [] := by
    refine List.filter_eq_nil_iff.2 fun e he => ?_
    obtain ⟨v, hv, rfl⟩ := List.mem_map.1 he
    rw [WalkOptions.below] at hv
    split at hv
    · have hle : s.depth + 1 ≤ v.entry.depth := le_depth_of_mem_visits hv
      rw [beq_iff_eq]
      omega
    · cases hv
  rw [WalkOptions.block, List.map_cons, List.filter_cons_of_pos, hbelow]
  · rfl
  · exact beq_self_eq_true s.depth

theorem below_of_not_recursive (h : o.recursive = false) (s : Site) (n : Node) :
    o.below s n = [] := by
  refine if_neg fun hentered => ?_
  exact Bool.false_ne_true (h.symm.trans (WalkOptions.entered_iff.1 hentered).1)

/-- A walk that is not recursive visits the first level of one that is. -/
theorem entries_flat (skipHidden : Bool) (s : Site) (ns : List Node) :
    (visits ⟨false, skipHidden⟩ s ns).map Visit.entry =
      ((visits ⟨true, skipHidden⟩ s ns).map Visit.entry).filter fun e => e.depth == s.depth := by
  rw [visits_eq_flatMap, visits_eq_flatMap, List.map_flatMap, List.map_flatMap,
    List.filter_flatMap]
  refine List.flatMap_congr fun n _ => ?_
  rw [filter_depth_block, WalkOptions.block, below_of_not_recursive rfl]
  rfl

/-! ### Hidden entries -/

/-- The options of a walk that leaves out what is hidden. -/
def WalkOptions.visible : WalkOptions := ⟨true, true⟩

/-- Nothing is visible of a hidden node and all below it. -/
theorem filter_block_of_hidden (hs : s.path = p.descend names) (hnames : ∀ r ∈ names, IsEntryName r)
    (hn : Node.WellFormed [n]) (hhidden : isHiddenName n.name = true) :
    ((o.block s n).map Visit.entry).filter (fun e => e.isVisibleBelow p) = [] := by
  refine List.filter_eq_nil_iff.2 fun e he => ?_
  obtain ⟨v, hv, rfl⟩ := List.mem_map.1 he
  rw [← visits_singleton] at hv
  obtain ⟨m, hm, rest, hrest, hpath⟩ := exists_path_of_mem_visits hn hv
  obtain rfl := List.mem_singleton.1 hm
  rw [hs, ← Path.descend_append] at hpath
  rw [Entry.isVisibleBelow_descend (List.forall_mem_append.2 ⟨hnames, hrest⟩) hpath]
  simp [hhidden]

/-- A walk that leaves out what is hidden visits what is visible, below a directory that is. -/
theorem entries_visible (hs : s.path = p.descend names) (hnames : ∀ r ∈ names, IsEntryName r)
    (hvisible : names.all (fun r => !isHiddenName r) = true) (hns : Node.WellFormed ns) :
    (visits .visible s (ns.filter fun n => !isHiddenName n.name)).map Visit.entry =
      ((visits .full s ns).map Visit.entry).filter fun e => e.isVisibleBelow p := by
  -- Node by node: a hidden one gives nothing on both sides, another one keeps its own entry, and
  -- below it the names on the way are still visible.
  induction ns using WalkOptions.full.induct generalizing names s with
  | h ns ih =>
    rw [visits_eq_flatMap, visits_eq_flatMap, flatMap_filter, List.map_flatMap, List.map_flatMap,
      List.filter_flatMap]
    refine List.flatMap_congr fun n hn => ?_
    cases hhidden : isHiddenName n.name with
    | true =>
      have hsingle : Node.WellFormed [n] := hns.sublist (List.singleton_sublist.2 hn)
      exact (filter_block_of_hidden hs hnames hsingle hhidden).symm
    | false =>
      have hpath : n.path s = p.descend (names ++ [n.name]) := by
        rw [Path.descend_concat, ← hs, Node.path]
      have hplace : ∀ r ∈ names ++ [n.name], IsEntryName r :=
        List.forall_mem_append.2 ⟨hnames, List.forall_mem_singleton.2 (hns.isEntryName hn)⟩
      have hplaceVisible : (names ++ [n.name]).all (fun r => !isHiddenName r) = true := by
        simp [hvisible, hhidden]
      have hentry : (WalkOptions.full.visit s n).entry.isVisibleBelow p = true :=
        (Entry.isVisibleBelow_descend hplace hpath).trans hplaceVisible
      have hbelow : (WalkOptions.visible.below s n).map Visit.entry =
          ((WalkOptions.full.below s n).map Visit.entry).filter fun e => e.isVisibleBelow p := by
        have hentered : (WalkOptions.visible.visit s n).entered =
            (WalkOptions.full.visit s n).entered := rfl
        rw [WalkOptions.below, WalkOptions.below, hentered]
        split
        · rw [WalkOptions.listed_eq_filter _ (hns.children hn)]
          exact ih n hn hpath hplace hplaceVisible
            (WalkOptions.wellFormed_listed (hns.children hn))
        · rfl
      rw [WalkOptions.block, WalkOptions.block, List.map_cons, List.filter_cons, if_pos hentry,
        ← hbelow]
      rfl

/-- A recursive walk visits what is visible, if it leaves out what is hidden, and else all. -/
theorem entries_recursive (skipHidden : Bool) (hs : s.path = p.descend [])
    (hns : Node.WellFormed ns) :
    (visits ⟨true, skipHidden⟩ s (WalkOptions.listed ⟨true, skipHidden⟩ ns)).map Visit.entry =
      ((visits .full s (WalkOptions.full.listed ns)).map Visit.entry).filter
        fun e => !skipHidden || e.isVisibleBelow p := by
  cases skipHidden with
  | false => exact (List.filter_eq_self.2 fun _ _ => rfl).symm
  | true =>
    have hnames : ∀ r ∈ ([] : List Segment), IsEntryName r := fun _ hr => (nomatch hr)
    rw [WalkOptions.listed_eq_filter _ hns]
    exact entries_visible hs hnames rfl (WalkOptions.wellFormed_listed hns)

namespace Walk

/-- A walk visits what its options keep of the walk through the whole tree. -/
theorem toList_start_filter (o : WalkOptions) (p : Path) (hd : Node.WellFormed d.entries) :
    (start o p d).toList.map Visit.entry =
      ((start .full p d).toList.map Visit.entry).filter (o.keeps p) := by
  obtain ⟨recursive, skipHidden⟩ := o
  have hrecursive := entries_recursive (s := d.site p) skipHidden rfl hd
  rw [toList_start, toList_start]
  cases recursive with
  | true => exact hrecursive
  | false =>
    calc (visits ⟨false, skipHidden⟩ (d.site p)
            (WalkOptions.listed ⟨false, skipHidden⟩ d.entries)).map Visit.entry
        = ((visits ⟨true, skipHidden⟩ (d.site p)
            (WalkOptions.listed ⟨true, skipHidden⟩ d.entries)).map Visit.entry).filter
              fun e => e.depth == 1 := entries_flat skipHidden (d.site p) _
      _ = ((visits .full (d.site p) (WalkOptions.full.listed d.entries)).map Visit.entry).filter
            (WalkOptions.keeps ⟨false, skipHidden⟩ p) := by
        rw [hrecursive, List.filter_filter]
        rfl

/-- A hidden directory with a file that is not hidden, and the other way round. -/
def hiddenTree : List Node :=
  [.directory (Text.encode ".a") ⟨0o755, 0, 0, none, none, none⟩ 0
      [.file (Text.encode "f") ⟨0o644, 0, 0, none, none, none⟩ 1],
    .directory (Text.encode "b") ⟨0o755, 0, 0, none, none, none⟩ 0
      [.file (Text.encode ".f") ⟨0o644, 0, 0, none, none, none⟩ 2]]

theorem toList_start_filter_hiddenTree :
    Node.WellFormed hiddenTree ∧
      (start ⟨true, true⟩ (.ofText "../.d") ⟨.full, hiddenTree⟩).toList.map Visit.entry =
        ((start .full (.ofText "../.d") ⟨.full, hiddenTree⟩).toList.map Visit.entry).filter
          (WalkOptions.keeps ⟨true, true⟩ (.ofText "../.d")) := by
  have htree : Node.WellFormed hiddenTree := by decide +kernel
  exact ⟨htree, toList_start_filter ⟨true, true⟩ (.ofText "../.d") (d := ⟨.full, hiddenTree⟩) htree⟩

end Walk

end FileQuery
