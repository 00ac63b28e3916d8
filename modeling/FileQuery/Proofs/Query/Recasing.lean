import FileQuery.Catalog.Standard
import FileQuery.Proofs.Query.Lockstep
import FileQuery.Proofs.Query.Tiling

/-!
# The case of keywords and names

The ASCII letters of keywords, constants and names may be written in either case, except in a name
after `as`, which goes into the query as it is written. The new text has its tokens at the same
places, and they are the same tokens but for names, which lead to the same definitions. So it is the
same query, or it goes wrong at the same place for the same reason.

## Main definitions

* `FileQuery.foldable`: the lexemes whose letters may change case.
* `FileQuery.Recases`: texts that differ in nothing but the case of letters in some lexemes.
* `FileQuery.Blur.folded`: all of an error but the case of its texts.

## Main results

* `FileQuery.Yields.recased`: the lexemes of a text in another case.
* `FileQuery.Query.parse_recased`: queries are the same in any case.
-/

namespace FileQuery

/-- Whether the letters of a token may change case; those of a name after `as` may not. -/
def Token.foldable (afterAs : Bool) : Token → Bool
  | .identifier _ => !afterAs
  | .word _ => true
  | .boolean _ => true
  | .null => true
  | _ => false

/-- The lexemes whose letters may change case. -/
def foldable (afterAs : Bool) : List Lexeme → List Lexeme
  | [] => []
  | l :: ls =>
    let behind := foldable (l.token = .word .asWord) ls
    if l.token.foldable afterAs then l :: behind else behind

/-- The same characters but for the case of ASCII letters, and the same case where none of the given
lexemes stands. The characters are those from an offset on. -/
structure Recases (ls : List Lexeme) (offset : Nat) (cs cs' : List Char) : Prop where
  fold : cs'.map Char.toLower = cs.map Char.toLower
  outside : ∀ i, (∀ l ∈ ls, ¬ l.Covers (offset + i)) → cs'[i]? = cs[i]?

instance (ls : List Lexeme) (offset : Nat) (cs cs' : List Char) :
    Decidable (Recases ls offset cs cs') :=
  decidable_of_iff (cs'.map Char.toLower = cs.map Char.toLower ∧ ∀ i < cs.length,
      (∀ l ∈ ls, ¬ l.Covers (offset + i)) → cs'[i]? = cs[i]?) <| by
    refine ⟨fun ⟨hfold, h⟩ => ⟨hfold, fun i hi => ?_⟩, fun h => ⟨h.fold, fun i _ => h.outside i⟩⟩
    have hlength : cs'.length = cs.length := by simpa using congrArg List.length hfold
    by_cases hlt : i < cs.length
    · exact h i hlt hi
    · rw [List.getElem?_eq_none (by omega), List.getElem?_eq_none (by omega)]

/-- Names in any case of ASCII letters lead to the same definitions. -/
theorem Catalog.find_eq_of_toAsciiLower (c : Catalog) {name name' : String}
    (h : Text.toAsciiLower name = Text.toAsciiLower name') :
    c.findAttribute? name = c.findAttribute? name' ∧
      c.findFunction? name = c.findFunction? name' := by
  have hanswers (names : List String) : answersTo names name = answersTo names name' := by
    rw [answersTo, answersTo, Text.toLower_eq_of_toAsciiLower h]
  constructor
  · rw [findAttribute?, findAttribute?]
    simp only [hanswers]
  · rw [findFunction?, findFunction?]
    simp only [hanswers]

/-- All of an error but the case of the ASCII letters in its texts. -/
def Blur.folded : Blur := ⟨Text.toAsciiLower, id⟩

theorem Blur.fits_folded (c : Catalog) : Blur.folded.Fits c :=
  fun _ _ h => c.find_eq_of_toAsciiLower h

theorem mem_foldable_cons {afterAs : Bool} {l l' : Lexeme} {ls : List Lexeme} :
    l ∈ foldable afterAs (l' :: ls) ↔ (l = l' ∧ l'.token.foldable afterAs = true) ∨
      l ∈ foldable (l'.token = .word .asWord) ls := by
  rw [foldable]
  cases l'.token.foldable afterAs <;> simp

theorem mem_of_mem_foldable {afterAs : Bool} {l : Lexeme} {ls : List Lexeme}
    (h : l ∈ foldable afterAs ls) : l ∈ ls := by
  induction ls generalizing afterAs with
  | nil => exact h
  | cons l' ls ih =>
    rcases mem_foldable_cons.1 h with ⟨rfl, -⟩ | h
    · exact List.mem_cons_self
    · exact List.mem_cons_of_mem _ (ih h)

namespace Recases

variable {ls ls' : List Lexeme} {offset : Nat} {cs cs' ds : List Char}

theorem eq_of_nil (h : Recases [] offset cs cs') : cs' = cs :=
  List.ext_getElem? fun i => h.outside i fun _ hl => nomatch hl

theorem append (h : Recases ls offset (cs ++ ds) cs') : ∃ us vs, cs' = us ++ vs ∧
    Recases ls offset cs us ∧ Recases ls (offset + cs.length) ds vs := by
  obtain ⟨us, vs, rfl, hus, hvs⟩ := List.map_eq_append_iff.1 (h.fold.trans List.map_append)
  have hlength : us.length = cs.length := by simpa using congrArg List.length hus
  refine ⟨us, vs, rfl, ⟨hus, fun i hi => ?_⟩, hvs, fun i hi => ?_⟩
  · have hchar := h.outside i hi
    by_cases hlt : i < cs.length
    · rwa [List.getElem?_append_left (hlength ▸ hlt), List.getElem?_append_left hlt] at hchar
    · rw [List.getElem?_eq_none (by omega), List.getElem?_eq_none (by omega)]
  · rw [Nat.add_assoc] at hi
    have hchar := h.outside (cs.length + i) hi
    rwa [List.getElem?_append_right (by omega), List.getElem?_append_right (by omega), hlength,
      Nat.add_sub_cancel_left] at hchar

/-- Only lexemes that cover some of the characters matter. -/
theorem restrict (h : Recases ls offset cs cs')
    (hls : ∀ l ∈ ls, ∀ i < cs.length, l.Covers (offset + i) → l ∈ ls') :
    Recases ls' offset cs cs' where
  fold := h.fold
  outside i hi := by
    by_cases hlt : i < cs.length
    · exact h.outside i fun l hl hcovers => hi l (hls l hl i hlt hcovers) hcovers
    · have hlength : cs'.length = cs.length := by simpa using congrArg List.length h.fold
      rw [List.getElem?_eq_none (by omega), List.getElem?_eq_none (by omega)]

/-- The first lexeme may be in another case if its token may, and the characters in front of it stay
as they are. -/
theorem cons {afterAs : Bool} {l : Lexeme} {gap rest : List Char}
    (h : Recases (foldable afterAs (l :: ls)) offset (gap ++ (cs ++ rest)) cs')
    (hl : l.position.offset = offset + gap.length) (hlength : l.text.length = cs.length)
    (hls : ∀ l' ∈ ls, offset + gap.length + cs.length ≤ l'.position.offset) :
    ∃ us vs, cs' = gap ++ (us ++ vs) ∧ us.map Char.toLower = cs.map Char.toLower ∧
      (l.token.foldable afterAs = false → us = cs) ∧
      Recases (foldable (l.token = .word .asWord) ls) (offset + gap.length + cs.length) rest
        vs := by
  obtain ⟨gap', _, rfl, hgap, hbehind⟩ := h.append
  obtain ⟨us, vs, rfl, hus, hvs⟩ := hbehind.append
  -- All lexemes begin behind the gap, and all but the first one behind its text.
  have hnone : Recases [] offset gap gap' := by
    refine hgap.restrict fun l' hl' i hi hcovers => ?_
    have hle := hcovers.1
    rcases mem_foldable_cons.1 hl' with ⟨rfl, -⟩ | hl'
    · omega
    · have := hls l' (mem_of_mem_foldable hl')
      omega
  refine ⟨us, vs, by rw [hnone.eq_of_nil], hus.fold, fun hfixed => ?_, ?_⟩
  · have hnone : Recases [] (offset + gap.length) cs us := by
      refine hus.restrict fun l' hl' i hi hcovers => ?_
      have hle := hcovers.1
      rcases mem_foldable_cons.1 hl' with ⟨rfl, hfoldable⟩ | hl'
      · exact absurd hfoldable (Bool.eq_false_iff.1 hfixed)
      · have := hls l' (mem_of_mem_foldable hl')
        omega
    exact hnone.eq_of_nil
  · refine hvs.restrict fun l' hl' i hi hcovers => ?_
    rcases mem_foldable_cons.1 hl' with ⟨rfl, -⟩ | hl'
    · have hlt := hcovers.2
      omega
    · exact hl'

end Recases

/-! ### Tokens in another case -/

theorem all_eq_of_map_toLower {p : Char → Bool} (hp : ∀ c, p c.toLower = p c) {cs cs' : List Char}
    (h : cs'.map Char.toLower = cs.map Char.toLower) : cs'.all p = cs.all p := by
  have hfold (us : List Char) : (us.map Char.toLower).all p = us.all p := by
    rw [List.all_map]
    exact congrArg us.all (funext hp)
  rw [← hfold, h, hfold]

theorem Position.advanceOver_eq_of_map_toLower (p : Position) {cs cs' : List Char}
    (h : cs'.map Char.toLower = cs.map Char.toLower) : p.advanceOver cs' = p.advanceOver cs := by
  have hchar (p : Position) (c : Char) : p.advance c.toLower = p.advance c := by
    have hfeed : c.toLower = '\n' ↔ c = '\n' := by
      have := apply_toLower (f := (· == '\n')) (by decide) c
      rw [← beq_iff_eq, ← beq_iff_eq (a := c), this]
    rw [advance, advance]
    simp only [hfeed]
  have hfold (us : List Char) : p.advanceOver (us.map Char.toLower) = p.advanceOver us := by
    rw [advanceOver, List.foldl_map]
    simp only [hchar]
    rfl
  rw [← hfold, h, hfold]

theorem Text.toAsciiLower_ofList {cs cs' : List Char}
    (h : cs'.map Char.toLower = cs.map Char.toLower) :
    toAsciiLower (String.ofList cs') = toAsciiLower (String.ofList cs) := by
  rw [toAsciiLower, toAsciiLower, String.toList_ofList, String.toList_ofList, h]

namespace Reading

variable {expectPath : Bool} {cs cs' rest : List Char} {t : Token}

/-- A keyword in another case is the same keyword, and another word is another one in that case. -/
theorem wordToken_recased (other : String → Token)
    (h : cs'.map Char.toLower = cs.map Char.toLower) :
    wordToken other (String.ofList cs') = wordToken other (String.ofList cs) ∨
      wordToken other (String.ofList cs) = other (String.ofList cs) ∧
        wordToken other (String.ofList cs') = other (String.ofList cs') := by
  rw [wordToken, wordToken, Text.toAsciiLower_ofList h]
  cases Token.ofKeyword? (Text.toAsciiLower (String.ofList cs)) with
  | none => exact Or.inr ⟨rfl, rfl⟩
  | some t => exact Or.inl rfl

/-- A token whose letters may change case is one in any case. -/
theorem Spells.recased {afterAs : Bool} (h : Spells expectPath cs t rest)
    (ht : t.foldable afterAs = true) (hcase : cs'.map Char.toLower = cs.map Char.toLower) :
    ∃ t', Spells expectPath cs' t' rest ∧ t'.Alike .folded t := by
  cases h with
  | string hquote hbody => cases ht
  | @source c r _ hc hcs hrest =>
    obtain ⟨c', r', rfl, hc', -⟩ := List.map_eq_cons_iff.1 (hcase.trans List.map_cons)
    have hall := all_eq_of_map_toLower (p := fun d => !Text.isWhiteSpace d)
      (fun d => congrArg not (Text.isWhiteSpace_toLower d)) hcase
    have hquote : isQuote c' = false := by rw [← isQuote_toLower, hc', isQuote_toLower, hc]
    refine ⟨_, .source hquote (hall.trans hcs) hrest, ?_⟩
    rcases wordToken_recased .path hcase with h | ⟨h, -⟩
    · rw [h]
      exact .refl _
    · rw [h] at ht
      cases ht
  | @word c r _ hc hcs hrest =>
    obtain ⟨c', r', rfl, hc', -⟩ := List.map_eq_cons_iff.1 (hcase.trans List.map_cons)
    have hall := all_eq_of_map_toLower continuesName_toLower hcase
    have hstarts : startsName c' = true := by rw [← startsName_toLower, hc', startsName_toLower, hc]
    refine ⟨_, .word hstarts (hall.trans hcs) hrest, ?_⟩
    rcases wordToken_recased .identifier hcase with h | ⟨h, h'⟩
    · rw [h]
      exact .refl _
    · rw [h, h']
      exact .identifier (Text.toAsciiLower_ofList hcase)
  | integer hne hds hrest hpoint ht' =>
    rw [integerToken] at ht'
    split at ht' <;> cases ht'
    cases ht
  | float hne hds hne' hfs hrest => cases ht
  | @sign c r _ _ hc h =>
    have hout := congrArg Reading.outcome h
    unfold Reading.sign at hout
    split at hout <;> cases hout <;> cases ht

/-- A token in another case, if its letters may change. Behind `as` it is the same token. -/
theorem Spells.exists_alike {afterAs : Bool} (h : Spells expectPath cs t rest)
    (hcase : cs'.map Char.toLower = cs.map Char.toLower)
    (hfixed : t.foldable afterAs = false → cs' = cs) :
    ∃ t', Spells expectPath cs' t' rest ∧ t'.Alike .folded t ∧ (afterAs = true → t' = t) := by
  cases hfoldable : t.foldable afterAs with
  | false =>
    obtain rfl := hfixed hfoldable
    exact ⟨t, h, .refl t, fun _ => rfl⟩
  | true =>
    obtain ⟨t', ht', halike⟩ := h.recased hfoldable hcase
    refine ⟨t', ht', halike, fun has => ?_⟩
    cases halike with
    | refl => rfl
    | identifier _ =>
      subst has
      cases hfoldable

end Reading

/-! ### Texts in another case -/

/-- The lexemes of a text in another case are at the same places and look alike. -/
theorem Yields.recased {expectPath : Bool} {p : Position} {cs : List Char} {ls : List Lexeme}
    (h : Yields expectPath p cs ls) {afterAs : Bool} {cs' : List Char}
    (hcase : Recases (foldable afterAs ls) p.offset cs cs') :
    ∃ us, Yields expectPath p cs' us ∧ AllAlike .folded us ls ∧
      (afterAs = true → us.head?.map Lexeme.token = ls.head?.map Lexeme.token) := by
  induction h generalizing afterAs cs' with
  | blank hcs =>
    obtain rfl := hcase.eq_of_nil
    exact ⟨[], .blank hcs, .nil, fun _ => rfl⟩
  | @lexeme expectPath p gap cs rest t ls hgap ht hrest ih =>
    have hoffset : ((p.advanceOver gap).advanceOver cs).offset =
        p.offset + gap.length + cs.length := by
      rw [Position.advanceOver_offset, Position.advanceOver_offset]
    obtain ⟨us, vs, rfl, hfold, hfixed, htail⟩ := hcase.cons (Position.advanceOver_offset p gap)
      (String.length_ofList ..) fun l hl => hoffset ▸ hrest.offset_le l hl
    rw [← hoffset] at htail
    obtain ⟨ks, hks, hall, hnext⟩ := ih htail
    obtain ⟨t', ht', halike, hsame⟩ := ht.exists_alike hfold hfixed
    have hfrom : (t' = .word .fromWord) = (t = .word .fromWord) :=
      propext (halike.eq_iff (by simp))
    have hlength : (String.ofList us).length = (String.ofList cs).length := by
      simpa using congrArg List.length hfold
    have hdetached : Detached rest vs := Or.inr (htail.fold ▸ List.prefix_refl _)
    refine ⟨⟨t', String.ofList us, p.advanceOver gap⟩ :: ks, ?_, ?_, fun has => ?_⟩
    · refine .lexeme hgap (ht'.detached hdetached) ?_
      rw [Position.advanceOver_eq_of_map_toLower _ hfold]
      simpa only [hfrom] using hks
    · refine .cons ⟨halike, Text.toAsciiLower_ofList hfold, rfl, ?_⟩ (fun has => ?_) hall
      · rw [Lexeme.endPosition, Lexeme.endPosition, hlength]
      · exact hnext (decide_eq_true ((halike.eq_iff (by simp)).1 has))
    · exact congrArg some (hsame has)

/-- Queries are the same in any case: a text in another case is the same query, or it goes wrong at
the same place for the same reason. -/
theorem Query.parse_recased {text text' : String} {ls : List Lexeme} (h : tokenize text = .ok ls)
    (hcase : Recases (foldable false ls) 0 text.toList text'.toList) (c : Catalog) :
    (Query.parse c text').mapError (SyntaxError.blur .folded) =
      (Query.parse c text).mapError (SyntaxError.blur .folded) := by
  obtain ⟨us, hus, halike, -⟩ := (tokenize_eq_ok.1 h).recased hcase
  exact Query.parse_alike (Blur.fits_folded c) (tokenize_eq_ok.2 hus) h halike

/-- The keywords and the column in another case, the name given to the column as it is. -/
theorem Query.parse_recased_size :
    Recases (foldable false [⟨.word .selectWord, "select", ⟨0, 1, 1⟩⟩,
      ⟨.identifier "Size", "Size", ⟨7, 1, 8⟩⟩, ⟨.word .asWord, "as", ⟨12, 1, 13⟩⟩,
      ⟨.identifier "S", "S", ⟨15, 1, 16⟩⟩, ⟨.word .fromWord, "from", ⟨17, 1, 18⟩⟩,
      ⟨.path ".", ".", ⟨22, 1, 23⟩⟩]) 0
      "select Size as S from .".toList "SELECT size As S From .".toList ∧
    (Query.parse .standard "SELECT size As S From .").mapError (SyntaxError.blur .folded) =
      (Query.parse .standard "select Size as S from .").mapError (SyntaxError.blur .folded) := by
  have hselect : Scanner.next (.ofText "select Size as S from .") =
      (.ok ⟨.word .selectWord, "select", ⟨0, 1, 1⟩⟩,
        ⟨" Size as S from .".toList, ⟨6, 1, 7⟩, false⟩) := rfl
  have hsize : Scanner.next ⟨" Size as S from .".toList, ⟨6, 1, 7⟩, false⟩ =
      (.ok ⟨.identifier "Size", "Size", ⟨7, 1, 8⟩⟩,
        ⟨" as S from .".toList, ⟨11, 1, 12⟩, false⟩) := rfl
  have has : Scanner.next ⟨" as S from .".toList, ⟨11, 1, 12⟩, false⟩ =
      (.ok ⟨.word .asWord, "as", ⟨12, 1, 13⟩⟩, ⟨" S from .".toList, ⟨14, 1, 15⟩, false⟩) := rfl
  have hlabel : Scanner.next ⟨" S from .".toList, ⟨14, 1, 15⟩, false⟩ =
      (.ok ⟨.identifier "S", "S", ⟨15, 1, 16⟩⟩, ⟨" from .".toList, ⟨16, 1, 17⟩, false⟩) := rfl
  have hfrom : Scanner.next ⟨" from .".toList, ⟨16, 1, 17⟩, false⟩ =
      (.ok ⟨.word .fromWord, "from", ⟨17, 1, 18⟩⟩, ⟨" .".toList, ⟨21, 1, 22⟩, true⟩) := rfl
  have hpath : Scanner.next ⟨" .".toList, ⟨21, 1, 22⟩, true⟩ =
      (.ok ⟨.path ".", ".", ⟨22, 1, 23⟩⟩, ⟨[], ⟨23, 1, 24⟩, false⟩) := rfl
  have htext : tokenize "select Size as S from ." = .ok _ :=
    Scanner.lexemes_cons hselect (by simp) <| Scanner.lexemes_cons hsize (by simp) <|
      Scanner.lexemes_cons has (by simp) <| Scanner.lexemes_cons hlabel (by simp) <|
        Scanner.lexemes_cons hfrom (by simp) <|
          Scanner.lexemes_cons hpath (by simp) (Scanner.lexemes_nil _ _)
  refine ⟨by decide, Query.parse_recased htext (by decide) .standard⟩

end FileQuery
