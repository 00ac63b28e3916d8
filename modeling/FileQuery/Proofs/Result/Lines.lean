import FileQuery.Result.Table

/-!
# Lines and cells of a table's text

The text of a table can be taken apart again: at line feeds into lines, and each line at tabs into
cells. The values of rows are escaped, so every row has one line, and the cells of the line are the
texts of its values. Headers are written as they are. A line feed in a header begins a further line
and a tab in it a further cell, so the text has the shape of the table just if no header has either.

## Main definitions

* `FileQuery.ResultTable.tabbed`: cells with tabs between them.
* `FileQuery.ResultTable.ShowsShape`: lines and cells are those of the table.

## Main results

* `FileQuery.splitOn_intercalate_eq_flatMap`, `FileQuery.length_splitOn`: pieces of joined lists.
* `FileQuery.ResultTable.textLines_eq`: the lines of a table's text.
* `FileQuery.ResultTable.splitOn_tabbed_shownCells`: the cells of a row's line.
* `FileQuery.ResultTable.showsShape_iff`: headers decide about the shape.
-/

namespace FileQuery

/-! ### Pieces of a list -/

section Pieces

variable {α : Type} [BEq α] [LawfulBEq α] {x : α}

omit [LawfulBEq α] in
/-- A list splits into one piece more than it has separators. -/
theorem length_splitOn (x : α) (xs : List α) : (xs.splitOn x).length = xs.count x + 1 := by
  induction xs with
  | nil => rfl
  | cons y xs ih =>
    rw [List.splitOn_cons_eq_if_modifyHead, List.count_cons]
    cases y == x with
    | true => simpa using ih
    | false => simpa using ih

theorem splitOn_eq_singleton_iff {xs : List α} : xs.splitOn x = [xs] ↔ x ∉ xs := by
  refine ⟨fun h => ?_, List.splitOn_eq_singleton⟩
  have hlength := length_splitOn x xs
  rw [h, List.length_singleton] at hlength
  exact List.count_eq_zero.1 (by omega)

/-- Joined pieces split into the pieces of each of them. -/
theorem splitOn_intercalate_eq_flatMap (x : α) {ls : List (List α)} (h : ls ≠ []) :
    ([x].intercalate ls).splitOn x = ls.flatMap (·.splitOn x) := by
  induction ls with
  | nil => exact absurd rfl h
  | cons l ls ih =>
    cases ls with
    | nil => simp
    | cons m ls =>
      have hjoin : [x].intercalate (l :: m :: ls) = l ++ x :: [x].intercalate (m :: ls) := by simp
      rw [hjoin, List.splitOn_append_cons_self, ih (List.cons_ne_nil m ls)]
      rfl

/-- Joined lists have as many pieces as there are lists only if none of them has a separator. -/
theorem length_splitOn_intercalate_iff {ls : List (List α)} (h : ls ≠ []) :
    (([x].intercalate ls).splitOn x).length = ls.length ↔ ∀ l ∈ ls, x ∉ l := by
  have hcount (ls : List (List α)) : (ls.flatMap (·.splitOn x)).length =
      ls.length + (ls.flatMap (·.filter (· == x))).length := by
    induction ls with
    | nil => rfl
    | cons l ls ih =>
      rw [List.flatMap_cons, List.flatMap_cons, List.length_append, List.length_append, ih,
        length_splitOn, List.count_eq_length_filter, List.length_cons]
      omega
  rw [splitOn_intercalate_eq_flatMap x h, hcount, Nat.add_eq_left, List.length_eq_zero_iff,
    List.flatMap_eq_nil_iff]
  refine forall₂_congr fun l _ => ?_
  rw [← List.length_eq_zero_iff, ← List.count_eq_length_filter, List.count_eq_zero]

end Pieces

namespace ResultTable

/-! ### Lines -/

/-- Cells with tabs between them. -/
def tabbed (cells : List (List Char)) : List Char := ['\t'].intercalate cells

def headerCells (t : ResultTable) : List (List Char) := t.headers.map String.toList

/-- The cells of a row: the texts of its values, escaped. -/
def shownCells (row : List Value) : List (List Char) := row.map fun v => (cell v.toText).toList

/-- The lines of a table's text: what lies between line feeds. -/
def textLines (t : ResultTable) : List (List Char) := t.toText.toList.splitOn '\n'

theorem not_mem_cell (s : String) : '\t' ∉ (cell s).toList ∧ '\n' ∉ (cell s).toList := by
  have hescape (c : Char) : '\t' ∉ escapeCell c ∧ '\n' ∉ escapeCell c := by
    unfold escapeCell
    split
    · decide
    · decide
    · next htab hfeed =>
      simp only [List.mem_singleton]
      exact ⟨fun h => htab h.symm, fun h => hfeed h.symm⟩
  rw [cell, String.toList_ofList]
  refine ⟨fun hmem => ?_, fun hmem => ?_⟩
  · obtain ⟨c, -, hc⟩ := List.mem_flatMap.1 hmem
    exact (hescape c).1 hc
  · obtain ⟨c, -, hc⟩ := List.mem_flatMap.1 hmem
    exact (hescape c).2 hc

theorem not_mem_shownCells {row : List Value} {cs : List Char} (h : cs ∈ shownCells row) :
    '\t' ∉ cs ∧ '\n' ∉ cs := by
  obtain ⟨v, -, rfl⟩ := List.mem_map.1 h
  exact not_mem_cell v.toText

/-- A line feed among cells lies in one of them. -/
theorem mem_tabbed_iff {cells : List (List Char)} :
    '\n' ∈ tabbed cells ↔ ∃ cs ∈ cells, '\n' ∈ cs := by
  induction cells with
  | nil => simp [tabbed]
  | cons cs cells ih =>
    cases cells with
    | nil => simp [tabbed]
    | cons ds cells =>
      have hjoin : tabbed (cs :: ds :: cells) = cs ++ '\t' :: tabbed (ds :: cells) := by
        simp [tabbed]
      rw [hjoin, List.mem_append, List.mem_cons, ih]
      simp

theorem toList_line (cells : List String) :
    (line cells).toList = tabbed (cells.map String.toList) ++ ['\n'] := by
  simp [line, tabbed]

/-- The text of a table has the lines of its headers, a line for each row in their order, and an
empty piece. -/
theorem textLines_eq (t : ResultTable) : t.textLines = (tabbed t.headerCells).splitOn '\n' ++
    (t.rows.map fun row => tabbed (shownCells row)) ++ [[]] := by
  have hrow (row : List Value) : '\n' ∉ tabbed (shownCells row) := fun hmem => by
    obtain ⟨cs, hcs, hmem⟩ := mem_tabbed_iff.1 hmem
    exact (not_mem_shownCells hcs).2 hmem
  have hrows (rows : List (List Value)) : (rows.flatMap fun row =>
      tabbed (shownCells row) ++ ['\n']).splitOn '\n' =
        (rows.map fun row => tabbed (shownCells row)) ++ [[]] := by
    induction rows with
    | nil => rfl
    | cons row rows ih =>
      rw [List.flatMap_cons, List.append_assoc, List.singleton_append,
        List.splitOn_append_cons_self_of_not_mem (hrow row), ih]
      rfl
  have htext : t.toText.toList = tabbed t.headerCells ++ '\n' ::
      t.rows.flatMap fun row => tabbed (shownCells row) ++ ['\n'] := by
    simp [toText, toList_line, String.toList_join, List.flatMap_map, shownCells, headerCells,
      Function.comp_def]
  rw [textLines, htext, List.splitOn_append_cons_self, hrows, List.append_assoc]

/-! ### Cells -/

/-- The cells of a row's line are the texts of its values. -/
theorem splitOn_tabbed_shownCells {row : List Value} (h : row ≠ []) :
    (tabbed (shownCells row)).splitOn '\t' = shownCells row :=
  List.splitOn_intercalate '\t' (fun _ hcs => (not_mem_shownCells hcs).1)
    fun hnil => h (List.map_eq_nil_iff.1 hnil)

/-- The text of a table shows its shape. At line feeds it splits into the line of the headers, a
line for each row in their order and an empty piece, and at tabs each of these lines splits into a
cell for each column. -/
structure ShowsShape (t : ResultTable) : Prop where
  lines : t.textLines =
    tabbed t.headerCells :: (t.rows.map fun row => tabbed (shownCells row)) ++ [[]]
  cells : ∀ l ∈ tabbed t.headerCells :: t.rows.map fun row => tabbed (shownCells row),
    (l.splitOn '\t').length = t.columns.length

/-- A table with columns and full rows shows its shape just if its headers have neither tabs nor
line feeds. -/
theorem showsShape_iff {t : ResultTable} (hcolumns : t.columns ≠ [])
    (hrows : ∀ row ∈ t.rows, row.length = t.columns.length) :
    t.ShowsShape ↔ ∀ h ∈ t.headers, '\t' ∉ h.toList ∧ '\n' ∉ h.toList := by
  have hheaders : t.headerCells ≠ [] := by simpa [headerCells, headers] using hcolumns
  have hlength : t.headerCells.length = t.columns.length := by simp [headerCells, headers]
  have hmem {x : Char} : (∀ cs ∈ t.headerCells, x ∉ cs) ↔ ∀ h ∈ t.headers, x ∉ h.toList :=
    List.forall_mem_map
  have hline : t.textLines = tabbed t.headerCells ::
      (t.rows.map fun row => tabbed (shownCells row)) ++ [[]] ↔
        ∀ h ∈ t.headers, '\n' ∉ h.toList := by
    rw [textLines_eq, List.append_cancel_right_eq, ← List.singleton_append,
      List.append_cancel_right_eq, splitOn_eq_singleton_iff, mem_tabbed_iff, ← hmem]
    simp
  have hcells : ((tabbed t.headerCells).splitOn '\t').length = t.columns.length ↔
      ∀ h ∈ t.headers, '\t' ∉ h.toList := by
    rw [← hlength, ← hmem]
    exact length_splitOn_intercalate_iff hheaders
  have hrow : ∀ l ∈ t.rows.map fun row => tabbed (shownCells row),
      (l.splitOn '\t').length = t.columns.length := by
    refine List.forall_mem_map.2 fun row hmem => ?_
    have hne : row ≠ [] := by
      rintro rfl
      exact hcolumns (List.length_eq_zero_iff.1 (hrows _ hmem).symm)
    rw [splitOn_tabbed_shownCells hne, shownCells, List.length_map, hrows row hmem]
  constructor
  · intro h header hheader
    exact ⟨hcells.1 (h.cells _ List.mem_cons_self) header hheader,
      hline.1 h.lines header hheader⟩
  · intro h
    refine ⟨hline.2 fun header hheader => (h header hheader).2, List.forall_mem_cons.2
      ⟨hcells.2 fun header hheader => (h header hheader).1, hrow⟩⟩

end ResultTable

end FileQuery
