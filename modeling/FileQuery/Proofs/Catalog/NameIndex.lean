import Mathlib.Data.List.Nodup
import FileQuery.Catalog.Index
import FileQuery.Proofs.Catalog.Standard

/-!
# Catalogs are found by their names

A catalog can be made of definitions exactly if all their names differ, case aside. A name then
leads to the one definition that has it, whether the definitions are searched or looked up in an
index that was filled name by name. Otherwise the error is about the first name that occurred
before, and says who had it and who repeats it.

## Main definitions

* `FileQuery.FirstRepeat`: the first name of a list that agrees with one before it.
* `FileQuery.NameIndex.Leads`, `FileQuery.NameIndex.Holds`: an index of the names entered so far.
* `FileQuery.NameIndex.Enters`: what entering names comes to.

## Main results

* `FileQuery.firstClash?_eq_some`, `FileQuery.firstClash?_eq_none_iff`: what the search for a clash
  finds.
* `FileQuery.NameIndex.Holds.enters_name`, `FileQuery.NameIndex.enters_build`: one name and all
  definitions.
* `FileQuery.NameIndex.Holds.find?_eq`: searching and looking up are the same.
* `FileQuery.Catalog.ofEntries?_exact`: catalogs, look-up and errors.
-/

namespace FileQuery

/-! ### The first repetition -/

/-- The first name of a list that agrees with one before it: all names before it differ. -/
def FirstRepeat (names : List OwnedName) (d : DuplicateName) : Prop :=
  ∃ before c after, names = before ++ c :: after ∧ (before.map OwnedName.key).Nodup ∧
    ∃ b ∈ before, b.key = c.key ∧ d = ⟨c.name, b.owner, c.owner⟩

variable {names : List OwnedName} {d d' : DuplicateName}

theorem FirstRepeat.append_right (h : FirstRepeat names d) (more : List OwnedName) :
    FirstRepeat (names ++ more) d := by
  obtain ⟨before, c, after, rfl, hbefore, hb⟩ := h
  exact ⟨before, c, after ++ more, by simp, hbefore, hb⟩

theorem FirstRepeat.not_nodup (h : FirstRepeat names d) : ¬(names.map OwnedName.key).Nodup := by
  obtain ⟨before, c, after, rfl, -, b, hb, hkey, -⟩ := h
  rw [List.map_append, List.map_cons, ← hkey]
  exact fun hnodup => (List.nodup_append.1 hnodup).2.2 _ (List.mem_map_of_mem hb) _
    List.mem_cons_self rfl

/-- A name that no other one agrees with is one more of names that differ. -/
theorem nodup_key_concat {c : OwnedName} (h : (names.map OwnedName.key).Nodup)
    (hc : c.key ∉ names.map OwnedName.key) : ((names ++ [c]).map OwnedName.key).Nodup := by
  rw [List.map_append, List.map_singleton, ← List.concat_eq_append]
  exact h.concat hc

/-- Behind names that differ there is no clash, or one with the first name that is repeated. -/
theorem firstClash?_cases (seen names : List OwnedName) (hseen : (seen.map OwnedName.key).Nodup) :
    firstClash? seen.reverse names = none ∧ ((seen ++ names).map OwnedName.key).Nodup ∨
      ∃ d, firstClash? seen.reverse names = some d ∧ FirstRepeat (seen ++ names) d := by
  induction names generalizing seen with
  | nil => exact Or.inl ⟨rfl, by rwa [List.append_nil]⟩
  | cons c cs ih =>
    rw [firstClash?]
    cases hfind : seen.reverse.find? (·.key == c.key) with
    | some b =>
      have hb : b ∈ seen := List.mem_reverse.1 (List.mem_of_find?_eq_some hfind)
      have hkey := List.find?_some hfind
      exact Or.inr ⟨_, rfl, seen, c, cs, rfl, hseen, b, hb, beq_iff_eq.1 hkey, rfl⟩
    | none =>
      have hc : c.key ∉ seen.map OwnedName.key := by
        intro hmem
        obtain ⟨b, hb, hkey⟩ := List.mem_map.1 hmem
        exact List.find?_eq_none.1 hfind b (List.mem_reverse.2 hb) (beq_iff_eq.2 hkey)
      have hrest := ih (seen ++ [c]) (nodup_key_concat hseen hc)
      rwa [List.reverse_append, List.append_assoc] at hrest

theorem firstClash?_eq_none_iff :
    firstClash? [] names = none ↔ (names.map OwnedName.key).Nodup := by
  rcases firstClash?_cases [] names List.nodup_nil with ⟨hnone, hnodup⟩ | ⟨d, hsome, hfirst⟩
  · exact iff_of_true hnone hnodup
  · refine iff_of_false (fun hnone => ?_) hfirst.not_nodup
    cases hnone.symm.trans hsome

/-- Names that differ end no later than the first repetition. -/
theorem length_le_of_nodup_key {before before' after after' : List OwnedName} {b c : OwnedName}
    (hb : b ∈ before) (hkey : b.key = c.key) (h : before ++ c :: after = before' ++ after')
    (hbefore' : (before'.map OwnedName.key).Nodup) : before'.length ≤ before.length := by
  by_contra hlt
  have hprefix : before ++ [c] <+: before' ++ after' := ⟨after, by rw [← h]; simp⟩
  obtain ⟨rest, rfl⟩ := List.prefix_of_prefix_length_le hprefix (List.prefix_append _ _)
    (by rw [List.length_append, List.length_singleton]; omega)
  rw [List.append_assoc, List.map_append, List.nodup_append] at hbefore'
  exact hbefore'.2.2 _ (List.mem_map_of_mem hb) _ (List.mem_cons_self) hkey

/-- A list has one first repetition at most. -/
theorem FirstRepeat.eq (h : FirstRepeat names d) (h' : FirstRepeat names d') : d = d' := by
  obtain ⟨before, c, after, rfl, hbefore, b, hb, hkey, rfl⟩ := h
  obtain ⟨before', c', after', hnames, hbefore', b', hb', hkey', rfl⟩ := h'
  have hlength : before.length = before'.length :=
    Nat.le_antisymm (length_le_of_nodup_key hb' hkey' hnames.symm hbefore)
      (length_le_of_nodup_key hb hkey hnames hbefore')
  obtain ⟨rfl, hcons⟩ := List.append_inj hnames hlength
  obtain ⟨rfl, -⟩ := List.cons.inj hcons
  rw [List.inj_on_of_nodup_map hbefore hb hb' (hkey.trans hkey'.symm)]

theorem firstClash?_eq_some : firstClash? [] names = some d ↔ FirstRepeat names d := by
  rcases firstClash?_cases [] names List.nodup_nil with ⟨hnone, hnodup⟩ | ⟨d', hsome, hfirst⟩
  · refine iff_of_false (fun hsome => ?_) fun hfirst => hfirst.not_nodup hnodup
    cases hnone.symm.trans hsome
  · constructor
    · intro h
      obtain rfl := Option.some.inj (h.symm.trans hsome)
      exact hfirst
    · intro h
      rw [h.eq hfirst]
      exact hsome

/-! ### Filling an index -/

namespace NameIndex

/-- The names of definitions, each given by its canonical name and all names it has so far. -/
def namesOf (es : List (String × List String)) : List OwnedName :=
  es.flatMap fun e => e.2.map (⟨·, e.1⟩)

/-- A name is one of the definition at a place, in any case. -/
def Leads (es : List (String × List String)) (name : String) (i : Nat) : Prop :=
  ∃ e, es[i]? = some e ∧ ∃ n ∈ e.2, Text.toLower n = Text.toLower name

/-- An index of the names entered so far, no two of which agree: a name leads to the definition that
has it. -/
structure Holds (x : NameIndex) (es : List (String × List String)) : Prop where
  place?_eq_some : ∀ name i, x.place? name = some i ↔ Leads es name i
  distinct : ((namesOf es).map OwnedName.key).Nodup

/-- What entering names comes to: an index of all names of the definitions, or the first one that is
repeated. -/
inductive Enters (es : List (String × List String)) : Except DuplicateName NameIndex → Prop
  | ok {x : NameIndex} (h : x.Holds es) : Enters es (.ok x)
  | error {d : DuplicateName} (h : FirstRepeat (namesOf es) d) : Enters es (.error d)

variable {x : NameIndex} {es : List (String × List String)} {owner name n : String}
  {ns : List String} {i : Nat}

theorem enters_ok : Enters es (.ok x) ↔ x.Holds es :=
  ⟨fun h => by cases h; assumption, .ok⟩

theorem enters_error : Enters es (.error d) ↔ FirstRepeat (namesOf es) d :=
  ⟨fun h => by cases h; assumption, .error⟩

theorem namesOf_concat : namesOf (es ++ [(owner, ns ++ [name])]) =
    namesOf (es ++ [(owner, ns)]) ++ [⟨name, owner⟩] := by
  simp [namesOf]

theorem leads_concat : Leads (es ++ [(owner, ns)]) n i ↔
    Leads es n i ∨ i = es.length ∧ ∃ m ∈ ns, Text.toLower m = Text.toLower n := by
  rw [Leads, Leads]
  rcases Nat.lt_trichotomy i es.length with hi | rfl | hi
  · rw [List.getElem?_append_left hi]
    simp [Nat.ne_of_lt hi]
  · simp
  · have hbehind : (es ++ [(owner, ns)])[i]? = none :=
      List.getElem?_eq_none (by rw [List.length_append]; exact hi)
    simp [hbehind, List.getElem?_eq_none (Nat.le_of_lt hi), Nat.ne_of_gt hi]

/-- A name is the one entered last or one of those before it. -/
theorem leads_enter : Leads (es ++ [(owner, ns ++ [name])]) n i ↔
    Leads (es ++ [(owner, ns)]) n i ∨ i = es.length ∧ Text.toLower name = Text.toLower n := by
  rw [leads_concat, leads_concat, or_assoc, ← and_or_left]
  simp [or_and_right, exists_or]

theorem mem_namesOf {b : OwnedName} :
    b ∈ namesOf es ↔ ∃ e ∈ es, b.owner = e.1 ∧ b.name ∈ e.2 := by
  obtain ⟨name, owner⟩ := b
  rw [namesOf, List.mem_flatMap]
  refine exists_congr fun e => and_congr_right fun _ => ?_
  simp [and_comm, eq_comm]

/-- A name leads somewhere if it agrees with one of the names. -/
theorem exists_leads_iff :
    (∃ i, Leads es name i) ↔ Text.toLower name ∈ (namesOf es).map OwnedName.key := by
  rw [List.mem_map]
  constructor
  · rintro ⟨i, e, he, n, hn, hkey⟩
    exact ⟨⟨n, e.1⟩, mem_namesOf.2 ⟨e, List.mem_of_getElem? he, rfl, hn⟩, hkey⟩
  · rintro ⟨b, hb, hkey⟩
    obtain ⟨e, he, -, hn⟩ := mem_namesOf.1 hb
    obtain ⟨i, hi⟩ := List.mem_iff_getElem?.1 he
    exact ⟨i, e, hi, b.name, hn, hkey⟩

/-- The owner of a name stands at its place in front of the last definition, or is the last one. -/
theorem Leads.exists_owned (h : Leads (es ++ [(owner, ns)]) name i) :
    ∃ b ∈ namesOf (es ++ [(owner, ns)]), b.key = Text.toLower name ∧
      b.owner = (es.map Prod.fst).getD i owner := by
  obtain ⟨e, he, n, hn, hkey⟩ := h
  refine ⟨⟨n, e.1⟩, mem_namesOf.2 ⟨e, List.mem_of_getElem? he, rfl, hn⟩, hkey, ?_⟩
  change e.1 = _
  rw [List.getD_eq_getElem?_getD, List.getElem?_map]
  by_cases hi : i < es.length
  · rw [List.getElem?_append_left hi] at he
    rw [he]
    rfl
  · have hlast := List.getElem?_eq_none (Nat.le_of_not_lt hi)
    rw [List.getElem?_append_right (Nat.le_of_not_lt hi)] at he
    obtain rfl := List.mem_singleton.1 (List.mem_of_getElem? he)
    rw [hlast]
    rfl

theorem place?_insert (x : NameIndex) (name : String) (i : Nat) (n : String) :
    NameIndex.place? (x.insert (Text.toLower name) i) n =
      if Text.toLower name = Text.toLower n then some i else x.place? n := by
  rw [place?, Std.HashMap.getElem?_insert]
  simp only [beq_iff_eq]
  rfl

/-- One more name of the last definition. -/
theorem Holds.enters_name (h : x.Holds (es ++ [(owner, ns)])) (name : String) :
    Enters (es ++ [(owner, ns ++ [name])]) (enterName (es.map Prod.fst) owner x name) := by
  rw [enterName]
  cases hplace : x.place? name with
  | some i =>
    obtain ⟨b, hb, hkey, howner⟩ := ((h.place?_eq_some name i).1 hplace).exists_owned
    refine .error ⟨_, ⟨name, owner⟩, [], namesOf_concat, h.distinct, b, hb, hkey, ?_⟩
    rw [howner]
  | none =>
    refine .ok ⟨fun n i => ?_, ?_⟩
    · rw [place?_insert, leads_enter, ← h.place?_eq_some]
      split
      · next heq =>
        have hn : x.place? n = none := by rwa [place?, ← heq]
        simp [hn, heq, eq_comm]
      · next hne => simp [hne]
    · rw [namesOf_concat]
      refine nodup_key_concat h.distinct fun hmem => ?_
      obtain ⟨i, hi⟩ := exists_leads_iff.2 hmem
      cases hplace.symm.trans ((h.place?_eq_some name i).2 hi)

/-- A definition of which nothing is entered yet. -/
theorem Holds.concat (h : x.Holds es) (owner : String) : x.Holds (es ++ [(owner, [])]) where
  place?_eq_some name i := by
    rw [h.place?_eq_some, leads_concat]
    simp
  distinct := by
    have hnames : namesOf (es ++ [(owner, [])]) = namesOf es := by simp [namesOf]
    rw [hnames]
    exact h.distinct

/-- More names of the last definition. -/
theorem Holds.enters_names (h : x.Holds (es ++ [(owner, ns)])) (names : List String) :
    Enters (es ++ [(owner, ns ++ names)])
      (names.foldlM (enterName (es.map Prod.fst) owner) x) := by
  induction names generalizing x ns with
  | nil => exact .ok (by rwa [List.append_nil])
  | cons name names ih =>
    have hname := h.enters_name name
    rw [List.foldlM_cons]
    cases hx : enterName (es.map Prod.fst) owner x name with
    | ok x' =>
      rw [hx] at hname
      have hrest := ih (enters_ok.1 hname)
      rwa [List.append_assoc] at hrest
    | error d =>
      rw [hx] at hname
      have hnames : namesOf (es ++ [(owner, ns ++ name :: names)]) =
          namesOf (es ++ [(owner, ns ++ [name])]) ++ names.map (⟨·, owner⟩) := by
        simp [namesOf]
      refine .error ?_
      rw [hnames]
      exact (enters_error.1 hname).append_right _

/-- A definition with its canonical name among its names. -/
def withCanonical (e : String × List String) : String × List String := (e.1, e.1 :: e.2)

/-- More definitions. -/
theorem Holds.enters_all (h : x.Holds es) (more : List (String × List String)) :
    Enters (es ++ more.map withCanonical) (enterAll (es.map Prod.fst) x more) := by
  induction more generalizing x es with
  | nil => exact .ok (by rwa [List.map_nil, List.append_nil])
  | cons e more ih =>
    obtain ⟨owner, aliases⟩ := e
    have hfirst := (h.concat owner).enters_names (owner :: aliases)
    rw [enterAll, List.map_cons, List.append_cons]
    cases hx : (owner :: aliases).foldlM (enterName (es.map Prod.fst) owner) x with
    | ok x' =>
      rw [hx] at hfirst
      have hrest := ih (enters_ok.1 hfirst)
      rwa [List.map_append] at hrest
    | error d =>
      rw [hx] at hfirst
      refine .error ?_
      rw [namesOf, List.flatMap_append]
      exact (enters_error.1 hfirst).append_right _

/-- All definitions. -/
theorem enters_build (es : List (String × List String)) :
    Enters (es.map withCanonical) (build es) := by
  have hempty : Holds ∅ [] := ⟨fun name i => by simp [place?, Leads], List.nodup_nil⟩
  exact hempty.enters_all es

end NameIndex

/-! ### Looking up names -/

theorem Catalog.answersTo_iff {names : List String} {name : String} :
    answersTo names name = true ↔ ∃ n ∈ names, Text.toLower n = Text.toLower name := by
  simp [answersTo]

namespace NameIndex

variable {α : Type} {owner : α → String} {names : α → List String} {entries : List α}
  {x : NameIndex} {name : String}

theorem leads_map {i : Nat} : Leads (entries.map fun e => (owner e, names e)) name i ↔
    ∃ e, entries[i]? = some e ∧ ∃ n ∈ names e, Text.toLower n = Text.toLower name := by
  simp [Leads, List.getElem?_map, Option.map_eq_some_iff]

/-- In an index of all names, searching for a definition and looking it up are the same. -/
theorem Holds.find?_eq (h : x.Holds (entries.map fun e => (owner e, names e))) (name : String) :
    entries.find? (fun e => Catalog.answersTo (names e) name) =
      (x.place? name).bind (entries[·]?) := by
  have hplace (i : Nat) (e : α) (he : entries[i]? = some e)
      (hname : Catalog.answersTo (names e) name = true) : x.place? name = some i :=
    (h.place?_eq_some name i).2 (leads_map.2 ⟨e, he, Catalog.answersTo_iff.1 hname⟩)
  cases hsome : x.place? name with
  | none =>
    refine List.find?_eq_none.2 fun e he hname => ?_
    obtain ⟨i, hi⟩ := List.mem_iff_getElem?.1 he
    cases hsome.symm.trans (hplace i e hi hname)
  | some i =>
    obtain ⟨e, he, hname⟩ := leads_map.1 ((h.place?_eq_some name i).1 hsome)
    obtain ⟨hi, hei⟩ := List.getElem?_eq_some_iff.1 he
    rw [Option.bind_some, he]
    refine List.find?_eq_some_iff_getElem.2
      ⟨Catalog.answersTo_iff.2 hname, i, hi, hei, fun j hj => ?_⟩
    -- a definition before that place with the name would be the one it leads to
    rw [Bool.not_eq_true', ← Bool.not_eq_true]
    intro hbefore
    have hsome' := hplace j _ (List.getElem?_eq_getElem (Nat.lt_trans hj hi)) hbefore
    exact Nat.ne_of_lt hj (Option.some.inj (hsome'.symm.trans hsome))

/-- A definition is found by a name exactly if it has the name. -/
theorem Holds.find?_eq_some (h : x.Holds (entries.map fun e => (owner e, names e))) {e : α} :
    entries.find? (fun e => Catalog.answersTo (names e) name) = some e ↔
      e ∈ entries ∧ ∃ n ∈ names e, Text.toLower n = Text.toLower name := by
  rw [← Catalog.answersTo_iff]
  constructor
  · intro hfind
    have hname := List.find?_some hfind
    exact ⟨List.mem_of_find?_eq_some hfind, hname⟩
  · rintro ⟨he, hname⟩
    obtain ⟨i, hi⟩ := List.mem_iff_getElem?.1 he
    have hplace : x.place? name = some i :=
      (h.place?_eq_some name i).2 (leads_map.2 ⟨e, hi, Catalog.answersTo_iff.1 hname⟩)
    rw [h.find?_eq, hplace]
    exact hi

theorem namesOf_map : namesOf (entries.map fun e => (owner e, names e)) =
    entries.flatMap fun e => (names e).map (⟨·, owner e⟩) := by
  rw [namesOf, List.flatMap_map]

/-- Definitions of any kind with their canonical names and aliases. -/
theorem enters_build_map (owner : α → String) (aliases : α → List String) (entries : List α) :
    Enters (entries.map fun e => (owner e, owner e :: aliases e))
      (build (entries.map fun e => (owner e, aliases e))) := by
  have hbuild := enters_build (entries.map fun e => (owner e, aliases e))
  rwa [List.map_map] at hbuild

end NameIndex

/-! ### Catalogs -/

variable {attributes : List AttributeEntry} {functions : List FunctionEntry}

theorem Catalog.ofEntries?_eq_ok_iff {c : Catalog} : ofEntries? attributes functions = .ok c ↔
    firstClash? [] (attributeNames attributes) = none ∧
      firstClash? [] (functionNames functions) = none ∧ c.attributes = attributes ∧
      c.functions = functions := by
  constructor
  · intro h
    rw [ofEntries?] at h
    split at h
    · cases h
    · next ha =>
      split at h
      · cases h
      · next hf =>
        obtain rfl := Except.ok.inj h
        exact ⟨ha, hf, rfl, rfl⟩
  · rintro ⟨ha, hf, rfl, rfl⟩
    exact ofEntries?_eq_ok ha hf

/-- Definitions of which all names differ are a catalog. -/
theorem Catalog.exists_ofEntries?_eq_ok : (∃ c, ofEntries? attributes functions = .ok c) ↔
    ((attributeNames attributes).map OwnedName.key).Nodup ∧
      ((functionNames functions).map OwnedName.key).Nodup := by
  rw [← firstClash?_eq_none_iff, ← firstClash?_eq_none_iff]
  constructor
  · rintro ⟨c, hc⟩
    obtain ⟨ha, hf, -, -⟩ := ofEntries?_eq_ok_iff.1 hc
    exact ⟨ha, hf⟩
  · rintro ⟨ha, hf⟩
    exact ⟨_, ofEntries?_eq_ok ha hf⟩

/-- Why definitions are no catalog: a name of an attribute is repeated, or, if those all differ, one
of a function. -/
theorem Catalog.ofEntries?_eq_error : ofEntries? attributes functions = .error d ↔
    FirstRepeat (attributeNames attributes) d ∨
      ((attributeNames attributes).map OwnedName.key).Nodup ∧
        FirstRepeat (functionNames functions) d := by
  rw [← firstClash?_eq_some, ← firstClash?_eq_none_iff, ← firstClash?_eq_some, ofEntries?]
  split
  · next d' ha => simp [ha]
  · next ha =>
    split
    · next d' hf => simp [ha, hf]
    · next hf => simp [ha, hf]

/-- Catalogs with an index come of the same definitions as catalogs without, with indices of all the
names, or they fail on the same name. -/
theorem IndexedCatalog.ofEntries?_cases (attributes : List AttributeEntry)
    (functions : List FunctionEntry) :
    (∃ x c, ofEntries? attributes functions = .ok x ∧
      Catalog.ofEntries? attributes functions = .ok c ∧
      x.attributes = attributes ∧ x.functions = functions ∧
      x.attributeIndex.Holds (attributes.map fun e => (e.subject.canonicalName, e.names)) ∧
      x.functionIndex.Holds (functions.map fun e => (e.function.canonicalName, e.names))) ∨
    ∃ d, ofEntries? attributes functions = .error d ∧
      Catalog.ofEntries? attributes functions = .error d := by
  have hbuild := NameIndex.enters_build_map (fun e : AttributeEntry => e.subject.canonicalName)
    AttributeEntry.aliases attributes
  have hbuild' := NameIndex.enters_build_map (fun e : FunctionEntry => e.function.canonicalName)
    FunctionEntry.aliases functions
  rw [ofEntries?]
  generalize NameIndex.build (attributes.map _) = u at hbuild ⊢
  generalize NameIndex.build (functions.map _) = v at hbuild' ⊢
  cases hbuild with
  | error hfirst =>
    rw [NameIndex.namesOf_map] at hfirst
    exact Or.inr ⟨_, rfl, Catalog.ofEntries?_eq_error.2 (Or.inl hfirst)⟩
  | ok ha =>
    have hattributes := ha.distinct
    rw [NameIndex.namesOf_map] at hattributes
    cases hbuild' with
    | error hfirst =>
      rw [NameIndex.namesOf_map] at hfirst
      exact Or.inr ⟨_, rfl, Catalog.ofEntries?_eq_error.2 (Or.inr ⟨hattributes, hfirst⟩)⟩
    | ok hf =>
      have hfunctions := hf.distinct
      rw [NameIndex.namesOf_map] at hfunctions
      exact Or.inl ⟨_, _, rfl, Catalog.ofEntries?_eq_ok (firstClash?_eq_none_iff.2 hattributes)
        (firstClash?_eq_none_iff.2 hfunctions), rfl, rfl, ha, hf⟩

/-- With an index or without, definitions fail on the same name. -/
theorem IndexedCatalog.ofEntries?_eq_error : ofEntries? attributes functions = .error d ↔
    Catalog.ofEntries? attributes functions = .error d := by
  rcases ofEntries?_cases attributes functions with ⟨x, c, hx, hc, -⟩ | ⟨d', hd', hd⟩
  · rw [hx, hc]
    exact iff_of_false (fun h => by cases h) fun h => by cases h
  · rw [hd', hd, Except.error.injEq, Except.error.injEq]

/-- Definitions are a catalog exactly if the names of the attributes differ, case aside, and those
of the functions do. Then a name leads to the one definition that has it, whether the definitions
are searched or looked up in an index. Otherwise the error is about the first name that agrees with
one before it, the attributes coming first, and names the definitions that have the two. -/
theorem Catalog.ofEntries?_exact (attributes : List AttributeEntry)
    (functions : List FunctionEntry) :
    ((∃ c, ofEntries? attributes functions = .ok c) ↔
      ((attributeNames attributes).map OwnedName.key).Nodup ∧
        ((functionNames functions).map OwnedName.key).Nodup) ∧
    (∀ c, ofEntries? attributes functions = .ok c →
      ∃ x, IndexedCatalog.ofEntries? attributes functions = .ok x ∧ ∀ name,
        (∀ e, c.findAttribute? name = some e ↔
          e ∈ attributes ∧ ∃ n ∈ e.names, Text.toLower n = Text.toLower name) ∧
        (∀ e, c.findFunction? name = some e ↔
          e ∈ functions ∧ ∃ n ∈ e.names, Text.toLower n = Text.toLower name) ∧
        (∀ i, x.attributeIndex.place? name = some i ↔
          ∃ e, attributes[i]? = some e ∧ ∃ n ∈ e.names, Text.toLower n = Text.toLower name) ∧
        (∀ i, x.functionIndex.place? name = some i ↔
          ∃ e, functions[i]? = some e ∧ ∃ n ∈ e.names, Text.toLower n = Text.toLower name) ∧
        x.findAttribute? name = c.findAttribute? name ∧
        x.findFunction? name = c.findFunction? name) ∧
    ∀ d, (ofEntries? attributes functions = .error d ↔
        FirstRepeat (attributeNames attributes) d ∨
          ((attributeNames attributes).map OwnedName.key).Nodup ∧
            FirstRepeat (functionNames functions) d) ∧
      (IndexedCatalog.ofEntries? attributes functions = .error d ↔
        ofEntries? attributes functions = .error d) := by
  refine ⟨exists_ofEntries?_eq_ok, fun c hc => ?_, fun d =>
    ⟨ofEntries?_eq_error, IndexedCatalog.ofEntries?_eq_error⟩⟩
  obtain ⟨-, -, rfl, rfl⟩ := ofEntries?_eq_ok_iff.1 hc
  rcases IndexedCatalog.ofEntries?_cases c.attributes c.functions with
    ⟨x, -, hx, -, hattributes, hfunctions, ha, hf⟩ | ⟨d, -, hd⟩
  · refine ⟨x, hx, fun name => ⟨fun e => ha.find?_eq_some, fun e => hf.find?_eq_some, fun i => ?_,
      fun i => ?_, ?_, ?_⟩⟩
    · exact (ha.place?_eq_some name i).trans NameIndex.leads_map
    · exact (hf.place?_eq_some name i).trans NameIndex.leads_map
    · rw [IndexedCatalog.findAttribute?, hattributes]
      exact (ha.find?_eq name).symm
    · rw [IndexedCatalog.findFunction?, hfunctions]
      exact (hf.find?_eq name).symm
  · cases hc.symm.trans hd

/-- The size with an alias. -/
def sizeEntry : AttributeEntry := ⟨.size, ["bytes"], .integer, "", true⟩

/-- The depth with an alias of the size. -/
def depthEntry : AttributeEntry := ⟨.depth, ["level", "Bytes"], .integer, "", false⟩

/-- The size is found by its alias in capitals, and another attribute with that alias is refused. -/
theorem Catalog.ofEntries?_exact_size :
    (∃ c x, ofEntries? [sizeEntry] [] = .ok c ∧ IndexedCatalog.ofEntries? [sizeEntry] [] = .ok x ∧
      x.findAttribute? "BYTES" = some sizeEntry) ∧
    IndexedCatalog.ofEntries? [sizeEntry, depthEntry] [] = .error ⟨"Bytes", "size", "depth"⟩ := by
  constructor
  · obtain ⟨hok, hfind, -⟩ := ofEntries?_exact [sizeEntry] []
    obtain ⟨c, hc⟩ := hok.2 ⟨by decide, by decide⟩
    obtain ⟨x, hx, hnames⟩ := hfind c hc
    obtain ⟨hattribute, -, -, -, hsame, -⟩ := hnames "BYTES"
    have hbytes : c.findAttribute? "BYTES" = some sizeEntry :=
      (hattribute _).2 ⟨List.mem_singleton_self _, "bytes", by decide, by decide⟩
    exact ⟨c, x, hc, hx, hsame.trans hbytes⟩
  · obtain ⟨-, -, herror⟩ := ofEntries?_exact [sizeEntry, depthEntry] []
    obtain ⟨hfirst, hsame⟩ := herror ⟨"Bytes", "size", "depth"⟩
    have hrepeat : FirstRepeat (attributeNames [sizeEntry, depthEntry])
        ⟨"Bytes", "size", "depth"⟩ :=
      ⟨[⟨"size", "size"⟩, ⟨"bytes", "size"⟩, ⟨"depth", "depth"⟩, ⟨"level", "depth"⟩],
        ⟨"Bytes", "depth"⟩, [], rfl, by decide, ⟨"bytes", "size"⟩, by decide, by decide, rfl⟩
    exact hsame.2 (hfirst.2 (Or.inl hrepeat))

end FileQuery
