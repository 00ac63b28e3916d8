import Mathlib.Data.List.Pairwise
import FileQuery.Tree.Walk
import FileQuery.Proofs.Tree.Joining

/-!
# Where nodes lie

A node lies in a directory that is reached from the root of a tree by the names of the directories
on the way. The path of the node is the path of the root with these names and its own behind it, and
if all of them are names that entries can have, they are the last components of that path. So nodes
that lie in different places have different paths as long as no directory has two entries of one
name.

## Main definitions

* `FileQuery.IsEntryName`: the names that entries can have.
* `FileQuery.Path.descend`: a path with names behind it.
* `FileQuery.Node.WellFormed`: trees in which siblings have different names.
* `FileQuery.Node.Lies`: the nodes of a tree with the directories above them.

## Main results

* `FileQuery.Path.components_descend`: the components of a path with names behind it.
* `FileQuery.Node.WellFormed.checkAll_iff`: one pass over a tree decides whether it is well-formed.
* `FileQuery.Node.Lies.eq_of_name`: a place and a name belong to one node.
-/

namespace FileQuery

/-- A name that an entry of a directory can have. -/
structure IsEntryName (s : Segment) : Prop where
  ne_nil : s ≠ []
  slash_not_mem : slash ∉ s
  ne_current : s ≠ [dot]
  ne_parent : s ≠ [dot, dot]

instance (s : Segment) : Decidable (IsEntryName s) :=
  decidable_of_iff (s ≠ [] ∧ slash ∉ s ∧ s ≠ [dot] ∧ s ≠ [dot, dot])
    ⟨fun h => ⟨h.1, h.2.1, h.2.2.1, h.2.2.2⟩, fun h => ⟨h.1, h.2, h.3, h.4⟩⟩

namespace IsEntryName

variable {s : Segment}

theorem ofSegment (h : IsEntryName s) : Component.ofSegment s = .name s := by
  rw [Component.ofSegment, if_neg h.ne_current, if_neg h.ne_parent]

theorem isRooted (h : IsEntryName s) : Path.isRooted ⟨s⟩ = false := by
  cases s with
  | nil => rfl
  | cons b s =>
    have hb : b ≠ slash := fun hb => h.slash_not_mem (hb ▸ List.mem_cons_self)
    simpa [Path.isRooted] using hb

end IsEntryName

namespace Path

/-! ### Components of joined paths -/

theorem pieces_of_not_mem {s : Segment} (hs : slash ∉ s) : pieces s = (s, []) := by
  induction s with
  | nil => rfl
  | cons b s ih =>
    have hb : b ≠ slash := fun hb => hs (hb ▸ List.mem_cons_self)
    rw [pieces, ih fun h => hs (List.mem_cons_of_mem b h), if_neg hb]

theorem components_of_isEntryName {s : Segment} (hs : IsEntryName s) :
    components ⟨s⟩ = [.name s] := by
  rw [components, segments]
  simp only [pieces_of_not_mem hs.slash_not_mem, firstComponents, if_neg hs.ne_nil, hs.ofSegment]
  rfl

theorem join_of_isEntryName {p : Path} {s : Segment} (hs : IsEntryName s) :
    p.join ⟨s⟩ = match p.bytes.getLast? with
      | none => ⟨s⟩
      | some b => ⟨if b = slash then p.bytes ++ s else p.bytes ++ slash :: s⟩ := by
  rw [join, hs.isRooted]
  rfl

theorem relative_of_isEntryName {s : Segment} (hs : IsEntryName s) :
    relative ⟨s⟩ = [.name s] := by
  rw [relative, components_of_isEntryName hs]
  rfl

/-- A name becomes the last component. -/
theorem components_join_name (p : Path) {s : Segment} (hs : IsEntryName s) :
    (p.join ⟨s⟩).components = p.components ++ [.name s] := by
  by_cases hp : p.bytes = []
  · obtain ⟨bs⟩ := p
    obtain rfl : bs = [] := hp
    exact (congrArg components (join_of_isEntryName hs)).trans (components_of_isEntryName hs)
  · rw [components_join hp hs.isRooted, relative_of_isEntryName hs]

/-! ### Paths with names behind them -/

/-- A path with names behind it. -/
def descend (p : Path) (names : List Segment) : Path := names.foldl (fun q s => q.join ⟨s⟩) p

variable {p : Path} {names : List Segment} {s : Segment}

theorem descend_append (p : Path) (xs ys : List Segment) :
    p.descend (xs ++ ys) = (p.descend xs).descend ys := List.foldl_append

theorem descend_concat (p : Path) (names : List Segment) (s : Segment) :
    p.descend (names ++ [s]) = (p.descend names).join ⟨s⟩ := descend_append p names [s]

theorem components_descend (p : Path) (h : ∀ s ∈ names, IsEntryName s) :
    (p.descend names).components = p.components ++ names.map Component.name := by
  induction names generalizing p with
  | nil => exact (List.append_nil _).symm
  | cons s names ih =>
    obtain ⟨hs, hnames⟩ := List.forall_mem_cons.1 h
    calc (p.descend (s :: names)).components
        = (p.join ⟨s⟩).components ++ names.map Component.name := ih (p.join ⟨s⟩) hnames
      _ = p.components ++ (s :: names).map Component.name := by
        rw [components_join_name p hs, List.append_assoc, List.map_cons, List.singleton_append]

end Path

namespace Node

variable {ns ms : List Node} {m n : Node} {above rest : List Segment}

/-! ### Well-formed trees -/

/-- Entries have names that entries can have, and siblings have different ones. -/
inductive WellFormed : List Node → Prop
  | intro {ns : List Node} (names : ∀ n ∈ ns, IsEntryName n.name)
    (distinct : ns.Pairwise fun m n => m.name ≠ n.name)
    (children : ∀ n ∈ ns, WellFormed n.children) : WellFormed ns

namespace WellFormed

theorem isEntryName (h : WellFormed ns) (hn : n ∈ ns) : IsEntryName n.name := by
  cases h with
  | intro names _ _ => exact names n hn

theorem distinct (h : WellFormed ns) : ns.Pairwise fun m n => m.name ≠ n.name := by
  cases h with
  | intro _ distinct _ => exact distinct

theorem children (h : WellFormed ns) (hn : n ∈ ns) : WellFormed n.children := by
  cases h with
  | intro _ _ children => exact children n hn

theorem nil : WellFormed [] := ⟨fun _ h => (nomatch h), .nil, fun _ h => (nomatch h)⟩

theorem cons (hname : IsEntryName n.name) (hdistinct : ∀ m ∈ ns, n.name ≠ m.name)
    (hchildren : WellFormed n.children) (h : WellFormed ns) : WellFormed (n :: ns) :=
  ⟨List.forall_mem_cons.2 ⟨hname, fun _ hm => h.isEntryName hm⟩, .cons hdistinct h.distinct,
    List.forall_mem_cons.2 ⟨hchildren, fun _ hm => h.children hm⟩⟩

theorem cons_iff : WellFormed (n :: ns) ↔ IsEntryName n.name ∧ (∀ m ∈ ns, n.name ≠ m.name) ∧
    WellFormed n.children ∧ WellFormed ns := by
  refine ⟨fun h => ?_, fun ⟨hname, hdistinct, hchildren, h⟩ => cons hname hdistinct hchildren h⟩
  exact ⟨h.isEntryName List.mem_cons_self, (List.pairwise_cons.1 h.distinct).1,
    h.children List.mem_cons_self, ⟨fun m hm => h.isEntryName (List.mem_cons_of_mem n hm),
      h.distinct.of_cons, fun m hm => h.children (List.mem_cons_of_mem n hm)⟩⟩

mutual

/-- Whether the entries of a node are well-formed. -/
def check : Node → Bool
  | .directory _ _ _ children _ => checkAll children
  | _ => true

/-- Whether entries are well-formed. -/
def checkAll : List Node → Bool
  | [] => true
  | n :: ns =>
    decide (IsEntryName n.name) && ns.all (fun m => n.name != m.name) && check n && checkAll ns

end

theorem check_eq (n : Node) : check n = checkAll n.children := by
  cases n <;> rfl

theorem checkAll_iff (ns : List Node) : checkAll ns = true ↔ WellFormed ns := by
  cases ns with
  | nil => exact iff_of_true rfl nil
  | cons n ns =>
    rw [checkAll, check_eq, cons_iff, ← checkAll_iff n.children, ← checkAll_iff ns]
    simp [and_assoc]
termination_by Node.weightAll ns
decreasing_by
  all_goals
    have hn := n.weight_eq
    simp only [Node.weightAll]
    omega

instance (ns : List Node) : Decidable (WellFormed ns) := decidable_of_iff _ (checkAll_iff ns)

theorem sublist (h : WellFormed ns) (hms : ms.Sublist ns) : WellFormed ms :=
  ⟨fun _ hn => h.isEntryName (hms.subset hn), h.distinct.sublist hms,
    fun _ hn => h.children (hms.subset hn)⟩

theorem perm (h : WellFormed ns) (hms : ms.Perm ns) : WellFormed ms :=
  ⟨fun _ hn => h.isEntryName (hms.subset hn), hms.symm.pairwise h.distinct fun hne => hne.symm,
    fun _ hn => h.children (hms.subset hn)⟩

/-- Siblings of one name are one node. -/
theorem eq_of_name (h : WellFormed ns) (hm : m ∈ ns) (hn : n ∈ ns) (hname : m.name = n.name) :
    m = n := by
  have : Std.Symm fun m n : Node => m.name ≠ n.name := ⟨fun _ _ hne => hne.symm⟩
  by_contra hne
  exact h.distinct.forall hm hn hne hname

end WellFormed

/-! ### Places in a tree -/

/-- A node lies in a directory below others, which is reached by its name and theirs. -/
inductive Lies : List Node → List Segment → Node → Prop
  | here {ns : List Node} {n : Node} (h : n ∈ ns) : Lies ns [] n
  | inside {ns : List Node} {m n : Node} {above : List Segment} (h : m ∈ ns)
    (hn : Lies m.children above n) : Lies ns (m.name :: above) n

namespace Lies

theorem isEntryName_above (h : Lies ns above n) (hns : WellFormed ns) :
    ∀ s ∈ above, IsEntryName s := by
  induction h with
  | here _ => exact fun _ hs => (nomatch hs)
  | inside h _ ih => exact List.forall_mem_cons.2 ⟨hns.isEntryName h, ih (hns.children h)⟩

theorem isEntryName (h : Lies ns above n) (hns : WellFormed ns) : IsEntryName n.name := by
  induction h with
  | here h => exact hns.isEntryName h
  | inside h _ ih => exact ih (hns.children h)

theorem isEntryName_place (h : Lies ns above n) (hns : WellFormed ns) :
    ∀ s ∈ above ++ [n.name], IsEntryName s := by
  intro s hs
  rcases List.mem_append.1 hs with hs | hs
  · exact h.isEntryName_above hns s hs
  · exact List.mem_singleton.1 hs ▸ h.isEntryName hns

/-- The first name on the way to a node is that of one of the nodes at the top. -/
theorem exists_head (h : Lies ns above n) :
    ∃ m ∈ ns, ∃ tail, above ++ [n.name] = m.name :: tail := by
  cases h with
  | here h => exact ⟨n, h, [], rfl⟩
  | inside h _ => exact ⟨_, h, _, rfl⟩

/-- What lies in a directory lies below what the directory lies below. -/
theorem append (h : Lies ns above m) (hn : Lies m.children rest n) :
    Lies ns (above ++ m.name :: rest) n := by
  induction h with
  | here h => exact .inside h hn
  | inside h _ ih => exact .inside h (ih hn)

/-- There is one node of a name in a place. -/
theorem eq_of_name (hm : Lies ns above m) (hn : Lies ns above n) (hns : WellFormed ns)
    (hname : m.name = n.name) : m = n := by
  induction above generalizing ns with
  | nil =>
    cases hm with
    | here hm =>
      cases hn with
      | here hn => exact hns.eq_of_name hm hn hname
  | cons r above ih =>
    generalize hr : r :: above = names at hn
    cases hm with
    | @inside _ k _ _ hk hm =>
      cases hn with
      | here _ => cases hr
      | @inside _ l _ _ hl hn =>
        obtain ⟨hkl, rfl⟩ := List.cons.inj hr
        obtain rfl := hns.eq_of_name hk hl hkl
        exact ih hm hn (hns.children hk)

end Lies

end Node

end FileQuery
