import FileQuery.Proofs.Query.Scanning
import FileQuery.Proofs.Text.AsciiCase

/-!
# How tokens are written

Which characters at the front of a text are which token, said case by case without the functions
that read them. What comes behind a token matters only as far as it could go on with it. It may be
cut anywhere, its letters may change case, and white space may be put in its place.

## Main definitions

* `FileQuery.Reading.Spells`: some characters are a token in front of a rest.
* `FileQuery.Detached`: a rest that goes on no further than another one.

## Main results

* `FileQuery.Reading.exists_spells`, `FileQuery.Reading.Spells.ofText_eq`: what is read is what is
  written.
* `FileQuery.Reading.Spells.detached`: a token stays one in front of a detached rest.
-/

namespace FileQuery

/-! ### Classes of characters -/

theorem continuesName_toLower (c : Char) :
    Reading.continuesName c.toLower = Reading.continuesName c :=
  apply_toLower (by decide) c

theorem startsName_toLower (c : Char) : Reading.startsName c.toLower = Reading.startsName c :=
  apply_toLower (by decide) c

theorem isQuote_toLower (c : Char) : Reading.isQuote c.toLower = Reading.isQuote c :=
  apply_toLower (by decide) c

theorem isDigit_toLower (c : Char) : c.toLower.isDigit = c.isDigit :=
  apply_toLower (by decide) c

/-- A sign has one case only, so it is not confused with a letter. -/
theorem eq_of_toLower_eq {c d : Char} (h : c.toLower = d.toLower) (hc : c ∈ ['.', '=', '>']) :
    d = c := by
  have hall : ['.', '=', '>'].all (fun s => s.toLower == s &&
      "ABCDEFGHIJKLMNOPQRSTUVWXYZ".toList.all fun u => (u.toLower == s) == (u == s)) = true := by
    decide
  obtain ⟨hlower, hletters⟩ := Bool.and_eq_true_iff.1 (List.all_eq_true.1 hall c hc)
  have hd := apply_toLower (f := (· == c)) (by simpa using hletters) d
  rw [← h, hlower] at hd
  exact beq_iff_eq.1 hd.symm

theorem Text.RangeTable.mem_of_has {t : RangeTable} {n : Nat} (h : t.has n = true) :
    n ∈ t.flatMap fun r => List.range' r.1 (r.2 + 1 - r.1) := by
  obtain ⟨r, hr, hn⟩ := List.any_eq_true.1 h
  simp only [Bool.and_eq_true, decide_eq_true_eq] at hn
  exact List.mem_flatMap.2 ⟨r, hr, List.mem_range'_1.2 ⟨hn.1, by omega⟩⟩

/-- White space goes on with no token. -/
theorem not_continues_of_isWhiteSpace {c : Char} (h : Text.isWhiteSpace c = true) :
    Reading.continuesName c = false ∧ c.isDigit = false ∧ c ∉ ['.', '=', '>'] := by
  have hall : (Text.whiteSpaceRanges.flatMap fun r => List.range' r.1 (r.2 + 1 - r.1)).all
      (fun n => !Reading.continuesName (Char.ofNat n) && !(Char.ofNat n).isDigit &&
        !(['.', '=', '>'].contains (Char.ofNat n))) = true := by
    decide +kernel
  have hc := List.all_eq_true.1 hall _ (Text.RangeTable.mem_of_has h)
  simpa [Char.ofNat_toNat, and_assoc] using hc

namespace Reading

/-! ### Tokens as they are written -/

/-- Characters that are a token in front of a rest. Whether an unquoted source may stand there
decides between the second rule and the ones after it. -/
inductive Spells : Bool → List Char → Token → List Char → Prop
  | string {expectPath : Bool} {quote : Char} {body rest : List Char}
      (hquote : isQuote quote = true) (hbody : quote ∉ body) :
      Spells expectPath (quote :: body ++ [quote]) (.string (String.ofList body)) rest
  | source {c : Char} {cs rest : List Char} (hc : isQuote c = false)
      (hcs : (c :: cs).all (fun d => !Text.isWhiteSpace d) = true)
      (hrest : ∀ d ∈ rest.head?, Text.isWhiteSpace d = true) :
      Spells true (c :: cs) (wordToken .path (String.ofList (c :: cs))) rest
  | word {c : Char} {cs rest : List Char} (hc : startsName c = true)
      (hcs : (c :: cs).all continuesName = true)
      (hrest : ∀ d ∈ rest.head?, continuesName d = false) :
      Spells false (c :: cs) (wordToken .identifier (String.ofList (c :: cs))) rest
  | integer {ds rest : List Char} {t : Token} (hne : ds ≠ []) (hds : ds.all Char.isDigit = true)
      (hrest : ∀ d ∈ rest.head?, d.isDigit = false)
      (hpoint : ∀ d r, rest = '.' :: d :: r → d.isDigit = false) (ht : integerToken ds = .ok t) :
      Spells false ds t rest
  | float {ds fs rest : List Char} (hne : ds ≠ []) (hds : ds.all Char.isDigit = true)
      (hne' : fs ≠ []) (hfs : fs.all Char.isDigit = true)
      (hrest : ∀ d ∈ rest.head?, d.isDigit = false) :
      Spells false (ds ++ '.' :: fs) (.float (.ofNumeral ds fs)) rest
  | sign {c : Char} {cs rest : List Char} {t : Token} (hc : Scanner.IsSign c)
      (h : Reading.sign c (cs ++ rest) = ⟨.ok t, cs.length + 1⟩) : Spells false (c :: cs) t rest

variable {expectPath : Bool} {cs rest : List Char} {t : Token}

/-- Characters in front of the first one without a property, and what comes behind them. -/
theorem exists_takeWhile (p : Char → Bool) (cs : List Char) : ∃ rest,
    cs = cs.takeWhile p ++ rest ∧ cs.dropWhile p = rest ∧ (cs.takeWhile p).all p = true ∧
      ∀ d ∈ rest.head?, p d = false := by
  refine ⟨cs.dropWhile p, List.takeWhile_append_dropWhile.symm, rfl, List.all_takeWhile, ?_⟩
  intro d hd
  have := List.head?_dropWhile_not p cs
  rw [Option.mem_def.1 hd] at this
  simpa using this

theorem spells_of_quoted {quote : Char} {r : List Char} (hquote : isQuote quote = true)
    (h : (quoted quote r).outcome = .ok t) : ∃ cs rest, quote :: r = cs ++ rest ∧
      (quoted quote r).width = cs.length ∧ Spells expectPath cs t rest := by
  obtain ⟨rest, hr, -, hall, hhead⟩ := exists_takeWhile (· != quote) r
  have hbody : quote ∉ r.takeWhile (· != quote) := fun hmem =>
    absurd (List.all_eq_true.1 hall _ hmem) (by simp)
  rw [quoted] at h ⊢
  split at h
  · cases h
  · next hlength =>
    obtain rfl := Except.ok.inj h
    rw [if_neg hlength]
    cases rest with
    | nil => exact absurd (by rw [List.append_nil] at hr; rw [← hr]) hlength
    | cons d rest =>
      obtain rfl : d = quote := by simpa using hhead d rfl
      refine ⟨d :: r.takeWhile (· != d) ++ [d], rest, ?_, by simp, .string hquote hbody⟩
      rw [List.append_assoc, List.cons_append, List.singleton_append, ← hr]

theorem spells_of_source {c : Char} {r : List Char} (hquote : isQuote c = false)
    (hblank : Text.isWhiteSpace c = false) (h : (source (c :: r)).outcome = .ok t) :
    ∃ cs rest, c :: r = cs ++ rest ∧ (source (c :: r)).width = cs.length ∧
      Spells true cs t rest := by
  obtain ⟨rest, hr, -, hall, hhead⟩ := exists_takeWhile (fun d => !Text.isWhiteSpace d) (c :: r)
  obtain rfl := Except.ok.inj h
  have hword : (c :: r).takeWhile (fun d => !Text.isWhiteSpace d) =
      c :: r.takeWhile (fun d => !Text.isWhiteSpace d) := by
    simp [hblank]
  refine ⟨_, rest, hr, rfl, ?_⟩
  rw [hword] at hall ⊢
  exact .source hquote hall fun d hd => by simpa using hhead d hd

theorem spells_of_name {c : Char} {r : List Char} (hstarts : startsName c = true)
    (h : (name (c :: r)).outcome = .ok t) :
    ∃ cs rest, c :: r = cs ++ rest ∧ (name (c :: r)).width = cs.length ∧
      Spells false cs t rest := by
  obtain ⟨rest, hr, -, hall, hhead⟩ := exists_takeWhile continuesName (c :: r)
  obtain rfl := Except.ok.inj h
  have hword : (c :: r).takeWhile continuesName = c :: r.takeWhile continuesName := by
    simp [continuesName_of_startsName hstarts]
  refine ⟨_, rest, hr, rfl, ?_⟩
  rw [hword] at hall ⊢
  exact .word hstarts hall hhead

/-- Digits that no point with a digit follows are an integer. -/
theorem number_integer {ds : List Char} (hds : ds.all Char.isDigit = true)
    (hrest : ∀ d ∈ rest.head?, d.isDigit = false)
    (hpoint : ∀ d r, rest = '.' :: d :: r → d.isDigit = false) :
    number (ds ++ rest) = ⟨integerToken ds, ds.length⟩ := by
  rw [number, Scanner.takeWhile_append_of_head hds hrest,
    Scanner.dropWhile_append_of_head hds hrest]
  cases rest with
  | nil => rfl
  | cons d us =>
    split
    · next vs heq =>
      obtain ⟨rfl, rfl⟩ := List.cons.inj heq
      have hempty : us.takeWhile Char.isDigit = [] := by
        cases us with
        | nil => rfl
        | cons d us => simp [hpoint d us rfl]
      simp [hempty]
    · rfl

/-- Digits, a point and more digits are a floating-point number. -/
theorem number_float {ds fs : List Char} (hds : ds.all Char.isDigit = true) (hne : fs ≠ [])
    (hfs : fs.all Char.isDigit = true) (hrest : ∀ d ∈ rest.head?, d.isDigit = false) :
    number (ds ++ '.' :: (fs ++ rest)) =
      ⟨.ok (.float (.ofNumeral ds fs)), ds.length + 1 + fs.length⟩ := by
  have hpoint : ∀ d ∈ ('.' :: (fs ++ rest)).head?, d.isDigit = false := by simp
  rw [number, Scanner.takeWhile_append_of_head hds hpoint,
    Scanner.dropWhile_append_of_head hds hpoint]
  simp [Scanner.takeWhile_append_of_head hfs hrest, hne]

theorem spells_of_number {c : Char} {r : List Char} (hdigit : c.isDigit = true)
    (h : (number (c :: r)).outcome = .ok t) :
    ∃ cs rest, c :: r = cs ++ rest ∧ (number (c :: r)).width = cs.length ∧
      Spells false cs t rest := by
  obtain ⟨rest, hr, -, hall, hhead⟩ := exists_takeWhile Char.isDigit (c :: r)
  have hne : (c :: r).takeWhile Char.isDigit ≠ [] := by simp [hdigit]
  generalize (c :: r).takeWhile Char.isDigit = ds at hr hall hne
  rw [hr] at h ⊢
  by_cases hpoint : ∀ d us, rest = '.' :: d :: us → d.isDigit = false
  · rw [number_integer hall hhead hpoint] at h ⊢
    exact ⟨ds, rest, rfl, rfl, .integer hne hall hhead hpoint h⟩
  · obtain ⟨d, us, rfl, hd⟩ : ∃ d us, rest = '.' :: d :: us ∧ d.isDigit = true := by
      simpa using hpoint
    obtain ⟨rest, hus, -, hfs, hhead⟩ := exists_takeWhile Char.isDigit (d :: us)
    have hne' : (d :: us).takeWhile Char.isDigit ≠ [] := by simp [hd]
    generalize (d :: us).takeWhile Char.isDigit = fs at hus hfs hne'
    rw [hus, number_float hall hne' hfs hhead] at h ⊢
    obtain rfl := Except.ok.inj h
    refine ⟨ds ++ '.' :: fs, rest, by simp, ?_, .float hne hall hne' hfs hhead⟩
    change ds.length + 1 + fs.length = _
    rw [List.length_append, List.length_cons]
    omega

/-- A sign has one character, or two of which the second one is ahead. -/
theorem sign_width {c : Char} {r : List Char} (h : (sign c r).outcome = .ok t) :
    (sign c r).width = 1 ∨ (sign c r).width = 2 ∧ r ≠ [] := by
  revert h
  unfold sign
  split <;> simp

theorem spells_of_sign {c : Char} {r : List Char} (hc : Scanner.IsSign c)
    (h : (sign c r).outcome = .ok t) :
    ∃ cs rest, c :: r = cs ++ rest ∧ (sign c r).width = cs.length ∧ Spells false cs t rest := by
  have hsign {n : Nat} (hw : (sign c r).width = n) : sign c r = ⟨.ok t, n⟩ := by
    rw [← h, ← hw]
  rcases sign_width h with hw | ⟨hw, hr⟩
  · exact ⟨[c], r, rfl, hw, .sign hc (hsign hw)⟩
  · obtain ⟨d, r, rfl⟩ := List.exists_cons_of_ne_nil hr
    exact ⟨[c, d], r, rfl, hw, .sign hc (hsign hw)⟩

/-- What is read at the front of a text is written there. -/
theorem exists_spells {c : Char} {r : List Char} (hblank : Text.isWhiteSpace c = false)
    (h : (ofText expectPath (c :: r)).outcome = .ok t) : ∃ cs rest, c :: r = cs ++ rest ∧
      (ofText expectPath (c :: r)).width = cs.length ∧ Spells expectPath cs t rest := by
  rw [ofText] at h ⊢
  cases hquote : isQuote c with
  | true =>
    rw [hquote] at h
    exact spells_of_quoted hquote h
  | false =>
    cases expectPath with
    | true =>
      rw [hquote] at h
      exact spells_of_source hquote hblank h
    | false =>
      cases hstarts : startsName c with
      | true =>
        rw [hquote, hstarts] at h
        exact spells_of_name hstarts h
      | false =>
        cases hdigit : c.isDigit with
        | true =>
          rw [hquote, hstarts, hdigit] at h
          exact spells_of_number hdigit h
        | false =>
          rw [hquote, hstarts, hdigit] at h
          exact spells_of_sign ⟨hquote, hstarts, hdigit, hblank⟩ h

theorem ofText_number {ds : List Char} (hne : ds ≠ []) (hds : ds.all Char.isDigit = true) :
    ofText false (ds ++ rest) = number (ds ++ rest) := by
  match ds with
  | [] => exact absurd rfl hne
  | d :: ds =>
    have hd : d.isDigit = true := List.all_eq_true.1 hds d List.mem_cons_self
    obtain ⟨hquote, hstarts, -⟩ := Scanner.digit_class hd
    rw [List.cons_append, ofText, if_neg (Bool.eq_false_iff.1 hquote), if_neg Bool.false_ne_true,
      if_neg (Bool.eq_false_iff.1 hstarts), if_pos hd]

/-- What is written at the front of a text is read there. -/
theorem Spells.ofText_eq (h : Spells expectPath cs t rest) :
    ofText expectPath (cs ++ rest) = ⟨.ok t, cs.length⟩ := by
  cases h with
  | @string _ quote body rest hquote hbody =>
    have htake : (body ++ quote :: rest).takeWhile (· != quote) = body := by
      refine Scanner.takeWhile_append_of_head (List.all_eq_true.2 fun c hc => ?_) (by simp)
      exact bne_iff_ne.2 fun h => hbody (h ▸ hc)
    have htext : quote :: body ++ [quote] ++ rest = quote :: (body ++ quote :: rest) := by simp
    rw [htext, ofText, if_pos hquote, quoted]
    simp [htake]
  | @source c cs rest hc hcs hrest =>
    have hhead : ∀ d ∈ rest.head?, (!Text.isWhiteSpace d) = false := fun d hd => by
      simpa using hrest d hd
    have htake := Scanner.takeWhile_append_of_head hcs hhead
    rw [List.cons_append] at htake ⊢
    rw [ofText, if_neg (Bool.eq_false_iff.1 hc), if_pos rfl, Reading.source, htake]
  | @word c cs rest hc hcs hrest =>
    have htake := Scanner.takeWhile_append_of_head hcs hrest
    have hquote := Scanner.not_isQuote_of_startsName hc
    rw [List.cons_append] at htake ⊢
    rw [ofText, if_neg (Bool.eq_false_iff.1 hquote), if_neg Bool.false_ne_true, if_pos hc,
      name, htake]
  | integer hne hds hrest hpoint ht =>
    rw [ofText_number hne hds, number_integer hds hrest hpoint, ht]
  | @float ds fs rest hne hds hne' hfs hrest =>
    have hlength : (ds ++ '.' :: fs).length = ds.length + 1 + fs.length := by
      rw [List.length_append, List.length_cons]
      omega
    rw [List.append_assoc, List.cons_append, ofText_number hne hds,
      number_float hds hne' hfs hrest, hlength]
  | sign hc h =>
    obtain ⟨hquote, hstarts, hdigit, -⟩ := hc
    rw [List.cons_append, ofText, hquote, hstarts, hdigit]
    exact h

end Reading

/-! ### What comes behind a token -/

/-- A rest that goes on no further than another one: it begins with white space, or it is a
beginning of the other one in any case of ASCII letters. -/
def Detached (rest rest' : List Char) : Prop :=
  (∃ c r, rest' = c :: r ∧ Text.isWhiteSpace c = true) ∨
    rest'.map Char.toLower <+: rest.map Char.toLower

namespace Detached

variable {rest rest' : List Char}

theorem cases_head (h : Detached rest rest') {d : Char} (hd : d ∈ rest'.head?) :
    Text.isWhiteSpace d = true ∨ ∃ c ∈ rest.head?, c.toLower = d.toLower := by
  rcases h with ⟨c, r, rfl, hc⟩ | ⟨us, hus⟩
  · obtain rfl := Option.some.inj hd
    exact Or.inl hc
  · match rest', rest with
    | [], _ => cases hd
    | _ :: _, [] => cases hus
    | c :: r', c' :: r =>
      obtain rfl := Option.some.inj hd
      exact Or.inr ⟨c', rfl, (List.cons.inj hus).1.symm⟩

/-- A property of tokens' characters that the rest does not begin with. -/
theorem head (h : Detached rest rest') {p : Char → Bool} (hlower : ∀ c, p c.toLower = p c)
    (hblank : ∀ c, Text.isWhiteSpace c = true → p c = false)
    (hrest : ∀ d ∈ rest.head?, p d = false) : ∀ d ∈ rest'.head?, p d = false := by
  intro d hd
  rcases h.cases_head hd with hd | ⟨c, hc, hcase⟩
  · exact hblank d hd
  · rw [← hlower, ← hcase, hlower, hrest c hc]

theorem head_isDigit (h : Detached rest rest') (hrest : ∀ d ∈ rest.head?, d.isDigit = false) :
    ∀ d ∈ rest'.head?, d.isDigit = false :=
  h.head isDigit_toLower (fun _ hblank => (not_continues_of_isWhiteSpace hblank).2.1) hrest

theorem head_eq (h : Detached rest rest') {d : Char} (hd : d ∈ rest'.head?)
    (hsign : d ∈ ['.', '=', '>']) : d ∈ rest.head? := by
  rcases h.cases_head hd with hd | ⟨c, hc, hcase⟩
  · exact absurd hsign (not_continues_of_isWhiteSpace hd).2.2
  · exact eq_of_toLower_eq hcase.symm hsign ▸ hc

theorem tail {c d : Char} {r r' : List Char} (h : Detached (c :: r) (d :: r'))
    (hd : Text.isWhiteSpace d = false) : Detached r r' := by
  rcases h with ⟨d', r'', heq, hd'⟩ | ⟨us, hus⟩
  · obtain rfl := (List.cons.inj heq).1
    rw [hd] at hd'
    cases hd'
  · exact Or.inr ⟨us, (List.cons.inj hus).2⟩

end Detached

namespace Reading

variable {expectPath : Bool} {cs rest rest' : List Char} {t : Token}

/-- A sign looks at one character behind its first one. -/
theorem sign_cons (c d : Char) (r r' : List Char) : sign c (d :: r) = sign c (d :: r') := by
  by_cases h : d = '=' ∨ d = '>'
  · rcases h with rfl | rfl
    · unfold sign
      split <;> simp_all
    · unfold sign
      split <;> simp_all
  · have hequal : d ≠ '=' := fun heq => h (Or.inl heq)
    have hgreater : d ≠ '>' := fun heq => h (Or.inr heq)
    unfold sign
    split <;> simp_all

/-- No sign goes on with another character than these two. -/
theorem sign_of_head {c : Char} {r : List Char} (h : ∀ d ∈ ['=', '>'], d ∉ r.head?) :
    sign c r = sign c [] := by
  match r with
  | [] => rfl
  | d :: r =>
    have hequal : d ≠ '=' := fun heq => h '=' (by simp) (by simp [heq])
    have hgreater : d ≠ '>' := fun heq => h '>' (by simp) (by simp [heq])
    unfold sign
    split <;> simp_all

theorem sign_nil_of_width {c : Char} {r : List Char} (h : sign c r = ⟨.ok t, 1⟩) :
    sign c [] = ⟨.ok t, 1⟩ := by
  rw [← h]
  revert h
  unfold sign
  split <;> simp_all

theorem sign_detached {c : Char} (h : sign c (cs ++ rest) = ⟨.ok t, cs.length + 1⟩)
    (hrest : Detached rest rest') : sign c (cs ++ rest') = ⟨.ok t, cs.length + 1⟩ := by
  match cs with
  | d :: cs => exact (sign_cons c d _ _).trans h
  | [] =>
    rw [List.nil_append] at h ⊢
    by_cases hhead : ∃ d ∈ ['=', '>'], d ∈ rest'.head?
    · obtain ⟨d, hd, hmem⟩ := hhead
      obtain ⟨r, rfl⟩ := List.head?_eq_some_iff.1 (hrest.head_eq hmem (List.mem_cons_of_mem _ hd))
      obtain ⟨r', rfl⟩ := List.head?_eq_some_iff.1 hmem
      exact (sign_cons c d _ _).trans h
    · have hnone : ∀ d ∈ ['=', '>'], d ∉ rest'.head? := fun d hd hmem => hhead ⟨d, hd, hmem⟩
      exact (sign_of_head hnone).trans (sign_nil_of_width h)

/-- A token stays one whatever is put behind it that goes on no further. -/
theorem Spells.detached (h : Spells expectPath cs t rest) (hrest : Detached rest rest') :
    Spells expectPath cs t rest' := by
  cases h with
  | string hquote hbody => exact .string hquote hbody
  | source hc hcs hblank =>
    refine .source hc hcs fun d hd => ?_
    rcases hrest.cases_head hd with hd | ⟨c, hc, hcase⟩
    · exact hd
    · rw [← Text.isWhiteSpace_toLower, ← hcase, Text.isWhiteSpace_toLower, hblank c hc]
  | word hc hcs hname =>
    exact .word hc hcs (hrest.head continuesName_toLower
      (fun _ hblank => (not_continues_of_isWhiteSpace hblank).1) hname)
  | @integer ds rest t hne hds hdigit hpoint ht =>
    refine .integer hne hds (hrest.head_isDigit hdigit) ?_ ht
    -- A point at the front of the new rest is one of the old rest, so no digit follows it there.
    intro d r hr
    subst hr
    obtain ⟨us, rfl⟩ := List.head?_eq_some_iff.1
      (hrest.head_eq (d := '.') rfl (List.mem_cons_self ..))
    have htail := hrest.tail (by decide)
    have hus : ∀ d ∈ us.head?, d.isDigit = false := by
      intro d hd
      obtain ⟨us, rfl⟩ := List.head?_eq_some_iff.1 hd
      exact hpoint d us rfl
    exact htail.head_isDigit hus d rfl
  | float hne hds hne' hfs hdigit =>
    exact .float hne hds hne' hfs (hrest.head_isDigit hdigit)
  | sign hc hsign => exact .sign hc (sign_detached hsign hrest)

end Reading

end FileQuery
