import FileQuery.Proofs.Tree.Location

/-!
# The order of paths

Paths are ordered component by component, and components by their bytes. A path comes before all
that are below it, and they follow it without another one in between.

## Main definitions

* `FileQuery.Path.parts`: the segments that the components of a path are written with.
* `FileQuery.Path.Before`, `FileQuery.Path.IsAbove`.

## Main results

* `FileQuery.Path.parts_descend`: the parts of a path with names behind it.
* `FileQuery.Path.Before.isAbove`: what lies between a path and one below it is below it too.
-/

namespace FileQuery.Path

variable {p q r : Path} {names others : List Segment}

/-- The segments that the components of a path are written with. -/
def parts (p : Path) : List Segment := p.components.map Component.segment

theorem parts_descend (p : Path) (h : ∀ s ∈ names, IsEntryName s) :
    (p.descend names).parts = p.parts ++ names := by
  have hsegment : names.map (Component.segment ∘ Component.name) = names := List.map_id names
  rw [parts, components_descend p h, List.map_append, List.map_map, hsegment, parts]

/-! ### Paths above others -/

/-- A path leads to a directory on the way of another. -/
def IsAbove (p q : Path) : Prop := ∃ s rest, q.parts = p.parts ++ s :: rest

theorem isAbove_descend (hnames : ∀ s ∈ names, IsEntryName s)
    (hothers : ∀ s ∈ others, IsEntryName s) :
    (p.descend names).IsAbove (p.descend others) ↔ ∃ s rest, others = names ++ s :: rest := by
  rw [IsAbove, parts_descend p hnames, parts_descend p hothers]
  simp only [List.append_assoc, List.append_cancel_left_eq]

/-! ### Before and after -/

/-- The order of paths, component by component. -/
def Before (p q : Path) : Prop := List.Lex (fun s t : Segment => s < t) p.parts q.parts

theorem lex_append {ss ts : List Segment} (rs : List Segment)
    (h : List.Lex (fun s t : Segment => s < t) ss ts) :
    List.Lex (fun s t : Segment => s < t) (rs ++ ss) (rs ++ ts) := by
  induction rs with
  | nil => exact h
  | cons r rs ih => exact .cons ih

theorem before_descend (p : Path) (hnames : ∀ s ∈ names, IsEntryName s)
    (hothers : ∀ s ∈ others, IsEntryName s)
    (h : List.Lex (fun s t : Segment => s < t) names others) :
    (p.descend names).Before (p.descend others) := by
  rw [Before, parts_descend p hnames, parts_descend p hothers]
  exact lex_append p.parts h

theorem IsAbove.before (h : p.IsAbove q) : p.Before q := by
  obtain ⟨s, rest, hq⟩ := h
  have hlex := lex_append p.parts (List.Lex.nil (a := s) (l := rest))
  rwa [List.append_nil, ← hq] at hlex

theorem Before.ne (h : p.Before q) : p ≠ q := by
  rintro rfl
  exact List.lex_irrefl List.lt_irrefl _ h

theorem Before.trans (h : p.Before q) (h' : q.Before r) : p.Before r :=
  List.lex_trans List.lt_trans h h'

theorem Before.asymm (h : p.Before q) : ¬q.Before p := fun h' => (h.trans h').ne rfl

/-- Between a list and one that continues it there are only lists that continue it. -/
theorem exists_of_lex_of_lex {ss ts rest : List Segment} {s : Segment}
    (h : List.Lex (fun s t : Segment => s < t) ss ts)
    (h' : List.Lex (fun s t : Segment => s < t) ts (ss ++ s :: rest)) :
    ∃ t rest', ts = ss ++ t :: rest' := by
  induction h with
  | nil => exact ⟨_, _, rfl⟩
  | rel hlt =>
    -- The heads differ, so the second list could only come first.
    cases h' with
    | rel hlt' => exact absurd hlt' (List.lt_asymm hlt)
    | cons _ => exact absurd hlt (List.lt_irrefl _)
  | cons _ ih =>
    cases h' with
    | rel hlt => exact absurd hlt (List.lt_irrefl _)
    | cons h' =>
      obtain ⟨t, rest', rfl⟩ := ih h'
      exact ⟨t, rest', rfl⟩

/-- What lies between a path and one below it is below it too. -/
theorem Before.isAbove (h : p.Before q) (h' : q.Before r) (hr : p.IsAbove r) : p.IsAbove q := by
  obtain ⟨s, rest, hparts⟩ := hr
  rw [Before, hparts] at h'
  exact exists_of_lex_of_lex h h'

end FileQuery.Path
