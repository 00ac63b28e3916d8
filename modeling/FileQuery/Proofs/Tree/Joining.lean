import FileQuery.Tree.Path

/-!
# Joined paths and the home directory

A path that does not start at the root is joined to another one by putting its components behind
those of the other. It brings neither a root of its own nor the directory itself. A path that
starts at the root replaces the other one.

A tilde and a slash before a source join what follows them to the home directory. So the components
of the home directory come first, except for what begins with one more slash: this is a path from
the root, and the home directory is lost.

## Main definitions

* `FileQuery.Path.relative`: the components that a path has below another one.

## Main results

* `FileQuery.Path.isRooted_ofText`: the texts that are paths from the root.
* `FileQuery.Path.components_join`: the components of a joined path.
* `FileQuery.Path.ofSource_home`: what a source means, given the home directory.
-/

namespace FileQuery

namespace Text

/-! ### The bytes of a text -/

theorem toList_loop (bs : ByteArray) (i : Nat) (read : List UInt8) :
    ByteArray.toList.loop bs i read = read.reverse ++ bs.data.toList.drop i := by
  rw [ByteArray.toList.loop]
  split
  · next h =>
    have hi : i < bs.data.toList.length := h
    have hget : bs.get! i = bs.data.toList[i] := getElem!_pos bs.data i h
    rw [toList_loop bs (i + 1), List.reverse_cons, List.append_assoc, List.drop_eq_getElem_cons hi,
      hget, List.singleton_append]
  · next h =>
    rw [List.drop_eq_nil_of_le (Nat.le_of_not_lt h), List.append_nil]
termination_by bs.size - i

/-- The bytes of the characters in turn. -/
theorem encode_ofList (cs : List Char) :
    encode (String.ofList cs) = cs.flatMap String.utf8EncodeChar := by
  rw [encode, String.toUTF8, ByteArray.toList, toList_loop]
  exact List.toList_data_toByteArray

/-- The first byte of a character is that of a slash for a slash only. -/
theorem head?_utf8EncodeChar (c : Char) :
    (String.utf8EncodeChar c).head? = some slash ↔ c = '/' := by
  have hbyte (n : Nat) : UInt8.ofNat n = slash ↔ n % 256 = 47 := by
    rw [← UInt8.toNat_inj, UInt8.toNat_ofNat']
    rfl
  have hslash : c = '/' ↔ c.val.toNat = 47 := by
    rw [← Char.toNat_inj]
    rfl
  rw [hslash, String.utf8EncodeChar]
  split
  · rw [List.head?_cons, Option.some_inj, hbyte]
    omega
  · split
    · rw [List.head?_cons, Option.some_inj, hbyte]
      omega
    · split <;> rw [List.head?_cons, Option.some_inj, hbyte] <;> omega

end Text

namespace Path

variable {p q : Path} {bs cs : List UInt8}

theorem isRooted_iff : p.isRooted = true ↔ p.bytes.head? = some slash := by
  rw [isRooted, beq_iff_eq]

/-- A text is a path from the root if it begins with a slash. -/
theorem isRooted_ofText (s : String) :
    (ofText s).isRooted = true ↔ s.toList.head? = some '/' := by
  rw [isRooted_iff, ofText, ← String.ofList_toList (s := s), Text.encode_ofList,
    String.toList_ofList]
  cases s.toList with
  | nil => simp
  | cons c cs =>
    obtain ⟨b, bs, hc⟩ := List.exists_cons_of_ne_nil (String.utf8EncodeChar_ne_nil (c := c))
    have hhead := Text.head?_utf8EncodeChar c
    rw [hc, List.head?_cons] at hhead
    rw [List.flatMap_cons, hc, List.cons_append, List.head?_cons, hhead, List.head?_cons,
      Option.some_inj]

/-! ### Components of joined paths -/

/-- The components that a path has below another one: it does not start at the root there, and the
directory itself is no component. -/
def relative (p : Path) : List Component :=
  p.components.filter fun c => c != .root && c != .current

theorem ofSegment_ne_root (s : Segment) : Component.ofSegment s ≠ .root := by
  unfold Component.ofSegment
  split
  · exact fun h => by cases h
  · split <;> exact fun h => by cases h

theorem ofSegment_eq_current_iff {s : Segment} : Component.ofSegment s = .current ↔ s = [dot] := by
  unfold Component.ofSegment
  split
  · next h => exact iff_of_true rfl h
  · next h =>
    refine iff_of_false ?_ h
    split <;> exact fun h => by cases h

/-- Whether the component of a segment is one below another path. -/
theorem keeps_ofSegment {s : Segment} (hs : s ≠ []) :
    (Component.ofSegment s != .root && Component.ofSegment s != .current) = counts s := by
  rw [Bool.eq_iff_iff]
  simp [counts, hs, ofSegment_ne_root, ofSegment_eq_current_iff]

/-- The pieces that count, the first one included. -/
theorem relative_eq (p : Path) : p.relative =
    (((pieces p.bytes).1 :: (pieces p.bytes).2).filter counts).map .ofSegment := by
  have hothers (ss : List Segment) : ((ss.filter counts).map Component.ofSegment).filter
      (fun c => c != .root && c != .current) = (ss.filter counts).map .ofSegment := by
    refine List.filter_eq_self.2 fun c hc => ?_
    obtain ⟨s, hs, rfl⟩ := List.mem_map.1 hc
    have hcounts := (List.mem_filter.1 hs).2
    have hne : s ≠ [] := by
      rintro rfl
      exact absurd hcounts (by decide)
    rw [keeps_ofSegment hne, hcounts]
  rw [relative, components, segments]
  dsimp only
  rw [List.filter_append, hothers, firstComponents]
  by_cases hs : (pieces p.bytes).1 = []
  · have hempty : ¬counts [] = true := by decide
    rw [if_pos hs, hs, List.filter_cons_of_neg hempty]
    split <;> rfl
  · rw [if_neg hs, List.filter_cons, List.filter_cons, keeps_ofSegment hs]
    split <;> rfl

/-- A path from the root has the root in front. -/
theorem components_of_isRooted (h : p.isRooted = true) : p.components = .root :: p.relative := by
  obtain ⟨_ | ⟨b, bs⟩⟩ := p
  · cases h
  · have hb : b = slash := Option.some.inj (isRooted_iff.1 h)
    have hpieces : pieces (b :: bs) = ([], (pieces bs).1 :: (pieces bs).2) := by
      rw [pieces, if_pos hb]
    have hempty : ¬counts [] = true := by decide
    rw [relative_eq, components, segments]
    dsimp only
    rw [hpieces, firstComponents, if_pos rfl, if_pos h, List.filter_cons_of_neg hempty]
    rfl

theorem pieces_append_slash (bs cs : List UInt8) : pieces (bs ++ slash :: cs) =
    ((pieces bs).1, (pieces bs).2 ++ (pieces cs).1 :: (pieces cs).2) := by
  induction bs with
  | nil => simp [pieces]
  | cons b bs ih =>
    rw [List.cons_append, pieces, ih, pieces]
    split <;> rfl

theorem components_append_slash (bs cs : List UInt8) :
    components ⟨bs ++ slash :: cs⟩ = components ⟨bs ++ [slash]⟩ ++ relative ⟨cs⟩ := by
  have hrooted : isRooted ⟨bs ++ slash :: cs⟩ = isRooted ⟨bs ++ [slash]⟩ := by
    cases bs <;> rfl
  have hempty : ¬counts [] = true := by decide
  have hend : pieces [] = ([], []) := rfl
  rw [relative_eq, components, components, segments, segments]
  dsimp only
  rw [pieces_append_slash, pieces_append_slash, hend, firstComponents, firstComponents, hrooted,
    List.filter_append, List.filter_append, List.filter_cons_of_neg hempty, List.filter_nil,
    List.append_nil, List.map_append, List.append_assoc]

/-- A slash behind a path does not change its components. -/
theorem components_append_singleton (h : bs ≠ []) :
    components ⟨bs ++ [slash]⟩ = components ⟨bs⟩ := by
  have hrooted : isRooted ⟨bs ++ [slash]⟩ = isRooted ⟨bs⟩ := by
    cases bs with
    | nil => exact absurd rfl h
    | cons => rfl
  have hempty : ¬counts [] = true := by decide
  have hend : pieces [] = ([], []) := rfl
  rw [components, components, segments, segments]
  dsimp only
  rw [pieces_append_slash, hend, firstComponents, firstComponents, hrooted, List.filter_append,
    List.filter_cons_of_neg hempty, List.filter_nil, List.append_nil]

/-- A path that does not start at the root has its components behind those of the path that it is
joined to. -/
theorem components_join (hp : p.bytes ≠ []) (hq : q.isRooted = false) :
    (p.join q).components = p.components ++ q.relative := by
  obtain ⟨bs⟩ := p
  obtain ⟨bs, b, rfl⟩ := (List.eq_nil_or_concat bs).resolve_left hp
  rw [join, hq]
  simp only [List.concat_eq_append, List.getLast?_concat, Bool.false_eq_true, if_false]
  by_cases hb : b = slash
  · rw [if_pos hb, hb, List.append_assoc, List.singleton_append]
    exact components_append_slash bs q.bytes
  · have hne : bs ++ [b] ≠ [] := List.append_ne_nil_of_right_ne_nil bs (List.cons_ne_nil b [])
    rw [if_neg hb, components_append_slash, components_append_singleton hne]

/-- A path from the root stays as it is. -/
theorem join_of_isRooted (p : Path) (hq : q.isRooted = true) : p.join q = q := by
  rw [join, if_pos hq]

/-! ### Sources -/

theorem ofSource_below (home : Path) (r : String) :
    ofSource (some home) ("~/" ++ r) = home.join (ofText r) := by
  have hsource : ("~/" ++ r).toList = '~' :: '/' :: r.toList := by
    rw [String.toList_append]
    rfl
  unfold ofSource
  rw [hsource]
  exact congrArg (fun s => home.join (ofText s)) String.ofList_toList

/-- What does not begin with a tilde before a slash, and is no tilde alone, is taken as it is. -/
theorem ofSource_of_not_home (home : Option Path) {s : String} (hs : s ≠ "~")
    (hslash : ¬['~', '/'] <+: s.toList) : ofSource home s = ofText s := by
  unfold ofSource
  split
  · next h => exact absurd (String.toList_inj.1 h) hs
  · next h =>
    rw [h] at hslash
    exact absurd ⟨_, rfl⟩ hslash
  · rfl

/-- What a source means where the home directory is given by a path from the root. A tilde is the
home directory, and what does not begin with a tilde before a slash is taken as it is. What stands
behind a tilde and a slash has its components below those of the home directory exactly if it does
not begin with a slash itself, or the home directory is the root; with a further slash it is a path
from the root, whatever the home directory is. -/
theorem ofSource_home {home : Path} (hhome : home.isRooted = true) :
    ofSource (some home) "~" = home ∧
    (∀ s : String, s ≠ "~" → ¬['~', '/'] <+: s.toList →
      ofSource (some home) s = ofText s ∧ ofSource none s = ofText s) ∧
    (∀ r : String, (ofSource (some home) ("~/" ++ r)).components =
        home.components ++ (ofText r).relative ↔
      r.toList.head? ≠ some '/' ∨ home.components = [.root]) ∧
    ∀ r : String, r.toList.head? = some '/' → ofSource (some home) ("~/" ++ r) = ofText r := by
  have hne : home.bytes ≠ [] := by
    intro hnil
    rw [isRooted_iff, hnil] at hhome
    cases hhome
  refine ⟨rfl, fun s hs hslash => ⟨ofSource_of_not_home _ hs hslash,
    ofSource_of_not_home _ hs hslash⟩, fun r => ?_, fun r hr => ?_⟩
  · rw [ofSource_below, ne_eq, ← isRooted_ofText, Bool.not_eq_true]
    cases hr : (ofText r).isRooted with
    | false => exact iff_of_true (components_join hne hr) (Or.inl rfl)
    | true =>
      rw [join_of_isRooted home hr, components_of_isRooted hr, ← List.singleton_append,
        List.append_cancel_right_eq]
      simp [eq_comm]
  · rw [ofSource_below, join_of_isRooted home ((isRooted_ofText r).2 hr)]

/-- Directories below `/home/user`, the directory itself left out and its parents kept. -/
theorem ofSource_home_user : (ofText "/home/user").isRooted = true ∧
    (ofSource (some (ofText "/home/user")) ("~/" ++ "./src/../lib")).components =
      (ofText "/home/user").components ++ (ofText "./src/../lib").relative ∧
    (ofText "./src/../lib").relative =
      [.name (Text.encode "src"), .parent, .name (Text.encode "lib")] := by
  have hhome : (ofText "/home/user").isRooted = true := by decide +kernel
  have hbelow := (ofSource_home hhome).2.2.1 "./src/../lib"
  exact ⟨hhome, hbelow.2 (Or.inl (by decide +kernel)), by decide +kernel⟩

/-- With a second slash the source is `/etc`, and nothing of the home directory is left. -/
theorem ofSource_twoSlashes :
    ofSource (some (ofText "/home/user")) "~//etc" = ofText "/etc" ∧
    (ofSource (some (ofText "/home/user")) "~//etc").components ≠
      (ofText "/home/user").components ++ (ofText "/etc").relative := by
  decide +kernel

end Path

end FileQuery
