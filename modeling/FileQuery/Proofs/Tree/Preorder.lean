import FileQuery.Proofs.Tree.PathOrder

/-!
# The listing of a walk

A walk keeps a stack of open directories. What is still to be visited in them, listed by recursion,
loses its first visit with every step of the walk, so that a walk ends and its visits are those of
the recursion. For a walk that enters every directory that it can list, these are the nodes that lie
below the root and behind no closed directory, in the order of their paths.

## Main definitions

* `FileQuery.WalkOptions.full`: the options of a walk through a whole tree.
* `FileQuery.Walk.Runs`: a walk that comes to its end.
* `FileQuery.Node.Opens`: directories that can be described and listed.
* `FileQuery.Node.Reached`: the nodes behind directories that open.
* `FileQuery.Lists`: the listing of a tree.

## Main results

* `FileQuery.Walk.toList_start`: a walk visits what the recursion visits.
* `FileQuery.exists_reached_of_mem_visits`, `FileQuery.visit_mem_visits`: what is visited.
* `FileQuery.pairwise_before_visits`: paths are visited in their order.
* `FileQuery.Walk.lists_start`: a walk through a whole tree lists it.
* `FileQuery.Walk.not_isAbove_of_not_opens`: nothing is visited below a directory that stays closed.
-/

namespace FileQuery

variable {o : WalkOptions} {p : Path} {d : Directory} {s t : Site} {ns : List Node} {m n : Node}
  {v : Visit} {above rest : List Segment}

/-! ### Directories that open -/

namespace Node

/-- The entries of a node can be visited: it is a directory that can be described and listed. -/
structure Opens (s : Site) (n : Node) : Prop where
  admits : Tree.admits (n.path s) = true
  search : s.search = true
  kind : n.metadata.kind = .directory
  list : n.access.list = true

theorem stat_eq_ok {metadata : Metadata} : n.stat s = .ok metadata ↔
    Tree.admits (n.path s) = true ∧ s.search = true ∧ n.metadata = metadata := by
  rw [stat]
  cases Tree.admits (n.path s) <;> cases s.search <;> simp

theorem Opens.isDirectory_entry (h : n.Opens s) : (n.entry s).isDirectory = true := by
  have hstat : n.stat s = .ok n.metadata := stat_eq_ok.2 ⟨h.admits, h.search, rfl⟩
  rw [entry, hstat]
  exact beq_iff_eq.2 h.kind

end Node

/-! ### Visits of one node -/

namespace WalkOptions

/-- The options of a walk that enters all directories and leaves nothing out. -/
def full : WalkOptions := ⟨true, false⟩

/-- The visits of what is below a node. -/
def below (o : WalkOptions) (s : Site) (n : Node) : List Visit :=
  if (o.visit s n).entered then visits o (n.site s) (o.listed n.children) else []

/-- The visits of a node and of what is below it. -/
def block (o : WalkOptions) (s : Site) (n : Node) : List Visit := o.visit s n :: o.below s n

theorem mem_listed : n ∈ o.listed ns ↔ n ∈ ns ∧ (!(o.skipHidden && isHiddenName n.name)) = true :=
  (List.mergeSort_perm _ _).mem_iff.trans List.mem_filter

theorem mem_listed_full : n ∈ full.listed ns ↔ n ∈ ns := mem_listed.trans (and_iff_left rfl)

theorem nameLE_trans (k m n : Node) (hkm : k.nameLE m = true) (hmn : m.nameLE n = true) :
    k.nameLE n = true :=
  decide_eq_true (List.le_trans (of_decide_eq_true hkm) (of_decide_eq_true hmn))

theorem nameLE_total (m n : Node) : (m.nameLE n || n.nameLE m) = true := by
  rw [Bool.or_eq_true, Node.nameLE, Node.nameLE, decide_eq_true_iff, decide_eq_true_iff]
  exact List.le_total m.name n.name

theorem wellFormed_listed (h : Node.WellFormed ns) : Node.WellFormed (o.listed ns) :=
  (h.sublist List.filter_sublist).perm (List.mergeSort_perm _ _)

/-- Entries are listed in the order of their names. -/
theorem listed_pairwise (h : Node.WellFormed ns) :
    (o.listed ns).Pairwise fun m n => m.name < n.name := by
  have hsorted : (o.listed ns).Pairwise fun m n => m.nameLE n = true :=
    List.pairwise_mergeSort nameLE_trans nameLE_total _
  refine hsorted.imp₂ (fun m n hle hne => ?_) (wellFormed_listed h).distinct
  by_contra hlt
  exact hne (List.le_antisymm (of_decide_eq_true hle) (List.not_lt.1 hlt))

/-- Entries that are in the order of their names, and all that are not left out, are listed. -/
theorem listed_eq_of_perm {ms : List Node} (hns : Node.WellFormed ns)
    (hms : ms.Perm (ns.filter fun n => !(o.skipHidden && isHiddenName n.name)))
    (hsorted : ms.Pairwise fun m n => m.name < n.name) : o.listed ns = ms := by
  refine List.Perm.eq_of_pairwise (fun m n _ _ hmn hnm => absurd hnm (List.lt_asymm hmn))
    (listed_pairwise hns) hsorted ?_
  exact (List.mergeSort_perm _ _).trans hms.symm

/-- What holds of nodes when it holds of what is listed below each of them holds of all nodes. -/
theorem induct (o : WalkOptions) {motive : List Node → Prop}
    (h : ∀ ns, (∀ n ∈ ns, motive (o.listed n.children)) → motive ns) (ns : List Node) :
    motive ns :=
  h ns fun n _hmem => induct o h (o.listed n.children)
termination_by Node.weightAll ns
decreasing_by
  have hlisted := o.weightAll_listed_le n.children
  have hn := n.weight_eq
  have hle : n.weight ≤ Node.weightAll ns := by
    obtain ⟨front, back, rfl⟩ := List.append_of_mem _hmem
    rw [Node.weightAll_perm List.perm_middle, Node.weightAll]
    exact Nat.le_add_right _ _
  omega

theorem list_contents_eq_ok : n.contents.list = .ok d ↔ n.access.list = true ∧ n.contents = d := by
  rw [Directory.list]
  split <;> simp_all [Node.contents]

/-- A recursive walk enters what opens. -/
theorem entered_iff : (o.visit s n).entered = true ↔ o.recursive = true ∧ n.Opens s := by
  rw [Visit.entered, beq_iff_eq, visit]
  constructor
  · intro h
    simp only [descent] at h
    split at h
    · cases h
    · next metadata hstat =>
      obtain ⟨hadmits, hsearch, rfl⟩ := Node.stat_eq_ok.1 hstat
      split at h
      · next hasked =>
        obtain ⟨hrecursive, hkind⟩ := Bool.and_eq_true_iff.1 hasked
        split at h
        · next hlist =>
          exact ⟨hrecursive, hadmits, hsearch, beq_iff_eq.1 hkind, (list_contents_eq_ok.1 hlist).1⟩
        · cases h
      · cases h
  · rintro ⟨hrecursive, hopens⟩
    have hstat : n.stat s = .ok n.metadata := Node.stat_eq_ok.2 ⟨hopens.admits, hopens.search, rfl⟩
    have hlist : n.contents.list = .ok n.contents := list_contents_eq_ok.2 ⟨hopens.list, rfl⟩
    simp only [descent, hstat, hlist, hrecursive, hopens.kind]
    rfl

end WalkOptions

theorem visits_eq_flatMap (o : WalkOptions) (s : Site) (ns : List Node) :
    visits o s ns = ns.flatMap (o.block s) := by
  induction ns with
  | nil => rw [visits, List.flatMap_nil]
  | cons n ns ih =>
    rw [visits, ih, List.flatMap_cons]
    rfl

theorem visits_singleton (o : WalkOptions) (s : Site) (n : Node) :
    visits o s [n] = o.block s n := by
  rw [visits_eq_flatMap, List.flatMap_singleton]

/-! ### Walks -/

namespace Walk

variable {ds ds' : List OpenDirectory} {w : Walk} {vs : List Visit}

/-- What is still to be visited in open directories. -/
def openVisits (o : WalkOptions) (ds : List OpenDirectory) : List Visit :=
  ds.flatMap fun d => visits o d.site d.pending

theorem openVisits_cons (o : WalkOptions) (d : OpenDirectory) (ds : List OpenDirectory) :
    openVisits o (d :: ds) = visits o d.site d.pending ++ openVisits o ds := rfl

theorem openVisits_of_advance_eq_none (h : advance o ds = none) : openVisits o ds = [] := by
  induction ds with
  | nil => rfl
  | cons d ds ih =>
    obtain ⟨s, pending⟩ := d
    cases pending with
    | nil => rw [openVisits_cons, ih h, visits]; rfl
    | cons n ns => cases h

/-- A step takes the first of the visits that are still to come. -/
theorem openVisits_of_advance (h : advance o ds = some (v, ds')) :
    openVisits o ds = v :: openVisits o ds' := by
  induction ds with
  | nil => cases h
  | cons d ds ih =>
    obtain ⟨s, pending⟩ := d
    cases pending with
    | nil => rw [openVisits_cons, ih h, visits]; rfl
    | cons n ns =>
      obtain ⟨rfl, rfl⟩ := Prod.mk.inj (Option.some.inj h)
      rw [openVisits_cons, visits]
      split <;> simp [openVisits_cons]

/-- A walk makes visits until there are none to make. -/
inductive Runs : Walk → List Visit → Prop
  | done {w : Walk} (h : w.next? = none) : Runs w []
  | step {w w' : Walk} {v : Visit} {vs : List Visit} (h : w.next? = some (v, w'))
    (hvs : Runs w' vs) : Runs w (v :: vs)

theorem Runs.eq_openVisits (h : w.Runs vs) : vs = openVisits w.options w.directories := by
  induction h with
  | done h => exact (openVisits_of_advance_eq_none (Option.map_eq_none_iff.1 h)).symm
  | step h _ ih =>
    obtain ⟨⟨v, ds⟩, hadvance, heq⟩ := Option.map_eq_some_iff.1 h
    obtain ⟨rfl, rfl⟩ := Prod.mk.inj heq
    rw [ih, openVisits_of_advance hadvance]

theorem runs_toList (w : Walk) : w.Runs w.toList := by
  induction w using Walk.toList.induct with
  | case1 w h =>
    rw [toList]
    split
    · exact .done h
    · simp_all
  | case2 w v w' h ih =>
    rw [toList]
    split
    · simp_all
    · next h' =>
      obtain ⟨rfl, rfl⟩ := Prod.mk.inj (Option.some.inj (h.symm.trans h'))
      exact .step h ih

/-- A walk visits what the recursion visits. -/
theorem toList_start (o : WalkOptions) (p : Path) (d : Directory) :
    (start o p d).toList = visits o (d.site p) (o.listed d.entries) :=
  (runs_toList _).eq_openVisits.trans (List.append_nil _)

end Walk

/-! ### What is visited -/

namespace Node

/-- A node is reached at a site from nodes at another: it is one of them, or one that is reached
from the entries of a directory among them that opens. -/
inductive Reached : Site → List Node → List Segment → Site → Node → Prop
  | here {s : Site} {ns : List Node} {n : Node} (h : n ∈ ns) : Reached s ns [] s n
  | inside {s t : Site} {ns : List Node} {m n : Node} {above : List Segment} (hm : m ∈ ns)
    (hopens : m.Opens s) (hn : Reached (m.site s) m.children above t n) :
    Reached s ns (m.name :: above) t n

namespace Reached

theorem mono {ms : List Node} (h : Reached s ms above t n) (hms : ∀ m ∈ ms, m ∈ ns) :
    Reached s ns above t n := by
  cases h with
  | here h => exact .here (hms _ h)
  | inside hm hopens hn => exact .inside (hms _ hm) hopens hn

theorem lies (h : Reached s ns above t n) : Lies ns above n := by
  induction h with
  | here h => exact .here h
  | inside hm _ _ ih => exact .inside hm ih

theorem path_eq (h : Reached s ns above t n) : t.path = s.path.descend above := by
  induction h with
  | here _ => rfl
  | inside _ _ _ ih => exact ih

/-- The path of a node consists of the names on the way to it and its own. -/
theorem path_place (h : Reached s ns above t n) :
    n.path t = s.path.descend (above ++ [n.name]) := by
  rw [path, h.path_eq, Path.descend_concat]

theorem depth_eq (h : Reached s ns above t n) : t.depth = s.depth + above.length := by
  induction h with
  | here _ => rfl
  | @inside s _ _ m _ above _ _ _ ih =>
    have hsite : (m.site s).depth = s.depth + 1 := rfl
    rw [ih, hsite, List.length_cons]
    omega

/-- The directories on the way to a node are reached before it, and open. -/
theorem exists_opens {name : Segment} (h : Reached s ns (above ++ name :: rest) t n) :
    ∃ u m, Reached s ns above u m ∧ m.name = name ∧ m.Opens u ∧
      Reached (m.site u) m.children rest t n := by
  induction above generalizing s ns with
  | nil =>
    cases h with
    | inside hm hopens hn => exact ⟨_, _, .here hm, rfl, hopens, hn⟩
  | cons _ above ih =>
    cases h with
    | inside hm hopens hn =>
      obtain ⟨u, m, hreached, hname, hm', hrest⟩ := ih hn
      exact ⟨u, m, .inside hm hopens hreached, hname, hm', hrest⟩

end Reached

end Node

/-- Only nodes behind directories that open are visited. -/
theorem exists_reached_of_mem_visits (h : v ∈ visits o s ns) :
    ∃ above t n, Node.Reached s ns above t n ∧ v = o.visit t n := by
  -- What is visited below a node lies among its children that are listed.
  induction ns using o.induct generalizing s with
  | h ns ih =>
    rw [visits_eq_flatMap, List.mem_flatMap] at h
    obtain ⟨m, hm, hv⟩ := h
    rcases List.mem_cons.1 hv with rfl | hv
    · exact ⟨[], s, m, .here hm, rfl⟩
    · rw [WalkOptions.below] at hv
      split at hv
      · next hentered =>
        obtain ⟨above, t, n, hn, rfl⟩ := ih m hm hv
        have hchildren : Node.Reached (m.site s) m.children above t n :=
          hn.mono fun k hk => (WalkOptions.mem_listed.1 hk).1
        exact ⟨m.name :: above, t, n, .inside hm (WalkOptions.entered_iff.1 hentered).2 hchildren,
          rfl⟩
      · cases hv

theorem mem_visits_listed_full :
    v ∈ visits o s (WalkOptions.full.listed ns) ↔ v ∈ visits o s ns := by
  simp only [visits_eq_flatMap, List.mem_flatMap, WalkOptions.mem_listed_full]

/-- A walk through a whole tree visits all nodes behind directories that open. -/
theorem visit_mem_visits (h : Node.Reached s ns above t n) :
    WalkOptions.full.visit t n ∈ visits .full s ns := by
  induction h with
  | here h =>
    rw [visits_eq_flatMap]
    exact List.mem_flatMap.2 ⟨_, h, List.mem_cons_self⟩
  | inside hm hopens _ ih =>
    rw [visits_eq_flatMap]
    refine List.mem_flatMap.2 ⟨_, hm, List.mem_cons_of_mem _ ?_⟩
    rw [WalkOptions.below, if_pos (WalkOptions.entered_iff.2 ⟨rfl, hopens⟩)]
    exact mem_visits_listed_full.2 ih

/-! ### The order of the visits -/

/-- The path of what is visited has names behind the path where the visits begin, and the first of
them is the name of a node there. -/
theorem exists_path_of_mem_visits (hns : Node.WellFormed ns) (h : v ∈ visits o s ns) :
    ∃ m ∈ ns, ∃ rest, (∀ r ∈ m.name :: rest, IsEntryName r) ∧
      v.entry.path = s.path.descend (m.name :: rest) := by
  obtain ⟨above, t, n, hn, rfl⟩ := exists_reached_of_mem_visits h
  obtain ⟨m, hm, rest, hnames⟩ := hn.lies.exists_head
  refine ⟨m, hm, rest, hnames ▸ hn.lies.isEntryName_place hns, ?_⟩
  rw [← hnames]
  exact hn.path_place

theorem isAbove_of_mem_visits (hns : Node.WellFormed ns) (h : v ∈ visits o s ns) :
    s.path.IsAbove v.entry.path := by
  obtain ⟨m, -, rest, hnames, hpath⟩ := exists_path_of_mem_visits hns h
  exact ⟨m.name, rest, hpath ▸ Path.parts_descend s.path hnames⟩

/-- The names of nodes decide on the order of all that is visited below them. -/
theorem before_of_mem_block (hm : Node.WellFormed [m]) (hn : Node.WellFormed [n])
    (hlt : m.name < n.name) {w : Visit} (hv : v ∈ o.block s m) (hw : w ∈ o.block s n) :
    v.entry.path.Before w.entry.path := by
  rw [← visits_singleton] at hv hw
  obtain ⟨k, hk, rest, hnames, hpath⟩ := exists_path_of_mem_visits hm hv
  obtain ⟨l, hl, rest', hnames', hpath'⟩ := exists_path_of_mem_visits hn hw
  obtain rfl := List.mem_singleton.1 hk
  obtain rfl := List.mem_singleton.1 hl
  rw [hpath, hpath']
  exact Path.before_descend s.path hnames hnames' (.rel hlt)

/-- Paths are visited in their order. -/
theorem pairwise_before_visits (hns : Node.WellFormed ns)
    (hsorted : ns.Pairwise fun m n => m.name < n.name) :
    (visits o s ns).Pairwise fun v w => v.entry.path.Before w.entry.path := by
  induction ns using o.induct generalizing s with
  | h ns ih =>
    rw [visits_eq_flatMap, List.pairwise_flatMap]
    -- First the order within the visits of one node, then between those of two nodes.
    constructor
    · intro n hn
      have hlisted : Node.WellFormed (o.listed n.children) :=
        WalkOptions.wellFormed_listed (hns.children hn)
      rw [WalkOptions.block, List.pairwise_cons, WalkOptions.below]
      split
      · exact ⟨fun w hw => (isAbove_of_mem_visits hlisted hw).before,
          ih n hn hlisted (WalkOptions.listed_pairwise (hns.children hn))⟩
      · exact ⟨fun w hw => (nomatch hw), .nil⟩
    · refine hsorted.imp_of_mem fun hm hn hlt v hv w hw => ?_
      exact before_of_mem_block (hns.sublist (List.singleton_sublist.2 hm))
        (hns.sublist (List.singleton_sublist.2 hn)) hlt hv hw

/-! ### The listing of a tree -/

/-- A list of entries is the listing of a tree in preorder. -/
structure Lists (p : Path) (d : Directory) (es : List Entry) : Prop where
  /-- Exactly the nodes behind directories that open are listed. -/
  mem_iff : ∀ e, e ∈ es ↔ ∃ above s n, Node.Reached (d.site p) d.entries above s n ∧ e = n.entry s
  /-- Nothing is listed twice. -/
  nodup : (es.map Entry.path).Nodup
  increasing : (es.map Entry.path).Pairwise Path.Before
  /-- What is below an entry follows it, with nothing else in between. -/
  adjacent : ∀ front e back, es = front ++ e :: back → ∃ below rest, back = below ++ rest ∧
    (∀ e' ∈ below, e.path.IsAbove e'.path) ∧ ∀ e' ∈ front ++ rest, ¬e.path.IsAbove e'.path
  depth : ∀ e ∈ es, (e.depth = 1 ∧ ∃ r, IsEntryName r ∧ e.path = p.join ⟨r⟩) ∨
    ∃ e' ∈ es, e'.isDirectory = true ∧ e.depth = e'.depth + 1 ∧
      ∃ r, IsEntryName r ∧ e.path = e'.path.join ⟨r⟩
  /-- Nothing is listed below a symbolic link. -/
  link : ∀ above name status target, Node.Lies d.entries above (.symlink name status target) →
    ∀ e ∈ es, ¬(p.descend (above ++ [name])).IsAbove e.path

/-- If a property does not come back after it is lost, it holds of the first elements of a list. -/
theorem exists_append_of_pairwise {α : Type} {P : α → Prop} {l : List α}
    (h : l.Pairwise fun a b => P b → P a) :
    ∃ front back, l = front ++ back ∧ (∀ a ∈ front, P a) ∧ ∀ a ∈ back, ¬P a := by
  induction l with
  | nil => exact ⟨[], [], rfl, fun _ ha => (nomatch ha), fun _ ha => (nomatch ha)⟩
  | cons a l ih =>
    obtain ⟨hhead, htail⟩ := List.pairwise_cons.1 h
    by_cases ha : P a
    · obtain ⟨front, back, rfl, hfront, hback⟩ := ih htail
      exact ⟨a :: front, back, rfl, List.forall_mem_cons.2 ⟨ha, hfront⟩, hback⟩
    · exact ⟨[], a :: l, rfl, fun _ hb => (nomatch hb),
        List.forall_mem_cons.2 ⟨ha, fun b hb hPb => ha (hhead b hb hPb)⟩⟩

namespace Entry

variable {es : List Entry}

/-- In the order of paths what is below an entry follows it without a gap. -/
theorem adjacent_of_pairwise (h : es.Pairwise fun d e => d.path.Before e.path)
    (front : List Entry) (e : Entry) (back : List Entry) (hes : es = front ++ e :: back) :
    ∃ below rest, back = below ++ rest ∧ (∀ d ∈ below, e.path.IsAbove d.path) ∧
      ∀ d ∈ front ++ rest, ¬e.path.IsAbove d.path := by
  subst hes
  obtain ⟨-, htail, hfront⟩ := List.pairwise_append.1 h
  obtain ⟨hafter, hback⟩ := List.pairwise_cons.1 htail
  have hconvex : back.Pairwise fun d d' => e.path.IsAbove d'.path → e.path.IsAbove d.path :=
    hback.imp_of_mem fun hd _ hlt => (hafter _ hd).isAbove hlt
  obtain ⟨below, rest, rfl, hbelow, hrest⟩ := exists_append_of_pairwise hconvex
  refine ⟨below, rest, rfl, hbelow, fun d hd habove => ?_⟩
  rcases List.mem_append.1 hd with hd | hd
  · exact (hfront d hd e List.mem_cons_self).asymm habove.before
  · exact hrest d hd habove

end Entry

/-- What is reached below a place is reached through the node there, which opens. -/
theorem Node.Reached.opens_of_isAbove {others : List Segment} (hns : WellFormed ns)
    (hm : Lies ns above m) (hn : Reached s ns others t n)
    (habove : (s.path.descend (above ++ [m.name])).IsAbove (n.path t)) :
    ∃ u, Reached s ns above u m ∧ m.Opens u := by
  rw [hn.path_place] at habove
  obtain ⟨r, rest, hplace⟩ :=
    (Path.isAbove_descend (hm.isEntryName_place hns) (hn.lies.isEntryName_place hns)).1 habove
  -- The name of the node is followed by others, so it is one of the directories on the way.
  obtain ⟨between, q, hbetween⟩ := List.eq_nil_or_concat (r :: rest) |>.resolve_left nofun
  rw [hbetween, List.concat_eq_append, ← List.append_assoc] at hplace
  obtain ⟨rfl, -⟩ := List.append_inj' hplace rfl
  rw [List.append_assoc, List.singleton_append] at hn
  obtain ⟨u, k, hk, hname, hopens, -⟩ := hn.exists_opens
  obtain rfl := hk.lies.eq_of_name hm hns hname
  exact ⟨u, hk, hopens⟩

/-- What is reached in a directory can be looked at if the directory may be searched. -/
theorem Node.Reached.search_eq (hns : WellFormed ns) (hm : Lies ns above m)
    (hn : Reached s ns (above ++ [m.name]) t n) : t.search = m.access.search := by
  obtain ⟨u, k, hk, hname, -, hlast⟩ := hn.exists_opens
  obtain rfl := hk.lies.eq_of_name hm hns hname
  cases hlast with
  | here _ => rfl

namespace Walk

theorem mem_entries_start (p : Path) (d : Directory) (e : Entry) :
    e ∈ (start .full p d).toList.map Visit.entry ↔
      ∃ above s n, Node.Reached (d.site p) d.entries above s n ∧ e = n.entry s := by
  rw [toList_start, List.mem_map]
  constructor
  · rintro ⟨v, hv, rfl⟩
    obtain ⟨above, s, n, hn, rfl⟩ := exists_reached_of_mem_visits (mem_visits_listed_full.1 hv)
    exact ⟨above, s, n, hn, rfl⟩
  · rintro ⟨above, s, n, hn, rfl⟩
    exact ⟨_, mem_visits_listed_full.2 (visit_mem_visits hn), rfl⟩

/-- Nothing is visited below a node that does not open where it is reached. -/
theorem not_isAbove_of_not_opens (hd : Node.WellFormed d.entries) (hm : Node.Lies d.entries above m)
    (hclosed : ∀ s, Node.Reached (d.site p) d.entries above s m → ¬m.Opens s) :
    ∀ e ∈ (start .full p d).toList.map Visit.entry,
      ¬(p.descend (above ++ [m.name])).IsAbove e.path := by
  intro e he habove
  obtain ⟨others, t, n, hn, rfl⟩ := (mem_entries_start p d e).1 he
  obtain ⟨s, hs, hopens⟩ := hn.opens_of_isAbove hd hm habove
  exact hclosed s hs hopens

/-- A walk through a whole tree comes to its end and lists the tree. -/
theorem lists_start (p : Path) (hd : Node.WellFormed d.entries) :
    (start .full p d).Runs (start .full p d).toList ∧
      (start .full p d).toList = visits .full (d.site p) (WalkOptions.full.listed d.entries) ∧
      Lists p d ((start .full p d).toList.map Visit.entry) := by
  have hbefore : ((start .full p d).toList.map Visit.entry).Pairwise fun e e' =>
      e.path.Before e'.path := by
    rw [toList_start, List.pairwise_map]
    exact pairwise_before_visits (WalkOptions.wellFormed_listed hd)
      (WalkOptions.listed_pairwise hd)
  have hmem := mem_entries_start p d
  refine ⟨runs_toList _, toList_start _ _ _, hmem, ?nodup, ?increasing,
    Entry.adjacent_of_pairwise hbefore, ?depth, ?link⟩
  case increasing => exact List.pairwise_map.2 hbefore
  case nodup => exact List.pairwise_map.2 (hbefore.imp Path.Before.ne)
  case depth =>
    intro e he
    obtain ⟨above, s, n, hn, rfl⟩ := (hmem e).1 he
    have hname : IsEntryName n.name := hn.lies.isEntryName hd
    rcases List.eq_nil_or_concat above with rfl | ⟨above, name, rfl⟩
    · cases hn with
      | here _ => exact .inl ⟨rfl, n.name, hname, rfl⟩
    · rw [List.concat_eq_append] at hn
      obtain ⟨t, m, hm, rfl, hopens, hlast⟩ := hn.exists_opens
      cases hlast with
      | here _ =>
        exact .inr ⟨m.entry t, (hmem _).2 ⟨above, t, m, hm, rfl⟩, hopens.isDirectory_entry, rfl,
          n.name, hname, rfl⟩
  case link =>
    intro above name status target hlink
    exact not_isAbove_of_not_opens hd hlink fun s _ hopens => nomatch hopens.kind

/-- A pipe, a directory with a file and a link that leads back to where the walk begins, and a
directory with a file that cannot be listed. -/
def loopTree : List Node :=
  [.other (Text.encode "pipe") ⟨0o644, 0, 0, none, none, none⟩,
    .directory (Text.encode "sub") ⟨0o755, 0, 0, none, none, none⟩ 0
      [.symlink (Text.encode "up") ⟨0o777, 0, 0, none, none, none⟩ (.ofText ".."),
        .file (Text.encode "file") ⟨0o644, 0, 0, none, none, none⟩ 1],
    .directory (Text.encode "private") ⟨0o700, 0, 0, none, none, none⟩ 0
      [.file (Text.encode "file") ⟨0o644, 0, 0, none, none, none⟩ 1] ⟨false, false⟩]

theorem lists_start_loop :
    Node.WellFormed loopTree ∧
      (start .full (.ofText ".") ⟨.full, loopTree⟩).Runs
        (start .full (.ofText ".") ⟨.full, loopTree⟩).toList ∧
      (start .full (.ofText ".") ⟨.full, loopTree⟩).toList =
        visits .full ⟨.ofText ".", 1, true⟩ (WalkOptions.full.listed loopTree) ∧
      Lists (.ofText ".") ⟨.full, loopTree⟩
        ((start .full (.ofText ".") ⟨.full, loopTree⟩).toList.map Visit.entry) := by
  have hloop : Node.WellFormed loopTree := by decide +kernel
  exact ⟨hloop, lists_start (d := ⟨.full, loopTree⟩) (.ofText ".") hloop⟩

/-- A node lies below a directory, but a walk from there does not visit it. -/
def Misses (p : Path) (d : Directory) (names : List Segment) : Prop :=
  (∃ above n, Node.Lies d.entries above n ∧ above ++ [n.name] = names) ∧
    ∀ e ∈ (start .full p d).toList.map Visit.entry, e.path ≠ p.descend names

/-- What lies below a node that does not open where it is reached is missed. -/
theorem misses_of_not_opens (hd : Node.WellFormed d.entries) (hm : Node.Lies d.entries above m)
    (hclosed : ∀ s, Node.Reached (d.site p) d.entries above s m → ¬m.Opens s)
    (hn : Node.Lies m.children rest n) : Misses p d (above ++ m.name :: (rest ++ [n.name])) := by
  have hlies : Node.Lies d.entries (above ++ m.name :: rest) n := hm.append hn
  refine ⟨⟨_, n, hlies, by simp⟩, fun e he hpath => not_isAbove_of_not_opens hd hm hclosed e he ?_⟩
  have hplace : ∀ r ∈ above ++ m.name :: (rest ++ [n.name]), IsEntryName r := by
    simpa using hlies.isEntryName_place hd
  obtain ⟨r, tail, htail⟩ := List.exists_cons_of_ne_nil (List.concat_ne_nil n.name rest)
  rw [hpath, Path.isAbove_descend (hm.isEntryName_place hd) hplace]
  exact ⟨r, tail, by simp [← htail]⟩

/-- A path of 4095 bytes. -/
def farRoot : Path := ⟨(List.replicate 2047 (Text.encode "./")).flatten ++ Text.encode "d"⟩

/-- A directory that cannot be listed, one whose entries can be listed but not reached, and one that
is open. In each lies a file, in the second not at once. -/
def sealedTree : List Node :=
  [.directory (Text.encode "a") ⟨0o300, 0, 0, none, none, none⟩ 0
      [.file (Text.encode "f") ⟨0o644, 0, 0, none, none, none⟩ 0] ⟨false, true⟩,
    .directory (Text.encode "b") ⟨0o600, 0, 0, none, none, none⟩ 0
      [.directory (Text.encode "c") ⟨0o755, 0, 0, none, none, none⟩ 0
        [.file (Text.encode "f") ⟨0o644, 0, 0, none, none, none⟩ 0]] ⟨true, false⟩,
    .directory (Text.encode "e") ⟨0o755, 0, 0, none, none, none⟩ 0
      [.file (Text.encode "f") ⟨0o644, 0, 0, none, none, none⟩ 0]]

/-- Files are missed that lie in a directory that cannot be listed, in one that cannot be reached,
and in one with a path of 4097 bytes. -/
theorem misses_sealedTree :
    Node.WellFormed sealedTree ∧
      Misses (.ofText ".") ⟨.full, sealedTree⟩ [Text.encode "a", Text.encode "f"] ∧
      Misses (.ofText ".") ⟨.full, sealedTree⟩
        [Text.encode "b", Text.encode "c", Text.encode "f"] ∧
      Tree.admits farRoot = true ∧
      Misses farRoot ⟨.full, sealedTree⟩ [Text.encode "e", Text.encode "f"] := by
  have htree : Node.WellFormed sealedTree := by decide +kernel
  refine ⟨htree, ?unlistable, ?unreachable, by decide +kernel, ?far⟩
  case unlistable =>
    exact misses_of_not_opens (d := ⟨.full, sealedTree⟩) htree (.here List.mem_cons_self)
      (fun _ _ hopens => nomatch hopens.list) (.here List.mem_cons_self)
  case unreachable =>
    have hb : Node.Lies sealedTree [] _ := .here (List.mem_cons_of_mem _ List.mem_cons_self)
    refine misses_of_not_opens (d := ⟨.full, sealedTree⟩) htree
      (.inside (List.mem_cons_of_mem _ List.mem_cons_self) (.here List.mem_cons_self))
      (fun s hs hopens => ?_) (.here List.mem_cons_self)
    have hsearch : s.search = false := hs.search_eq htree hb
    exact Bool.false_ne_true (hsearch.symm.trans hopens.search)
  case far =>
    have hlong : Tree.admits (farRoot.join ⟨Text.encode "e"⟩) = false := by decide +kernel
    refine misses_of_not_opens (d := ⟨.full, sealedTree⟩) htree
      (.here (List.mem_cons_of_mem _ (List.mem_cons_of_mem _ List.mem_cons_self)))
      (fun s hs hopens => ?_) (.here List.mem_cons_self)
    cases hs with
    | here _ => exact Bool.false_ne_true (hlong.symm.trans hopens.admits)

end Walk

end FileQuery
