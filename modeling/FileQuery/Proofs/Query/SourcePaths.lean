import FileQuery.Proofs.Catalog.Standard
import FileQuery.Proofs.Query.Recognition
import FileQuery.Proofs.Query.Tiling

/-!
# Sources as they are written

The word behind `from` is the source up to white space, whatever its characters mean elsewhere in a
query, and a string there is the source between its quotes. Only the first character tells them
apart, and only a keyword is no source. Behind the source tokens are read as before, so one source
can stand for another and nothing else of the query changes.

## Main definitions

* `FileQuery.namesFrom`: the text of a query for names, with a source and what comes behind it.

## Main results

* `FileQuery.Grammar.DerivesQuery.withSource`: the source is the token behind `from`.
* `FileQuery.Scanner.scans_from`: a source is one token, and what is behind it is none of a source.
* `FileQuery.Query.parse_namesFrom`: sources reach the query as they are written.
-/

namespace FileQuery

namespace Grammar

variable {c : Catalog} {level : Level} {k : ExprParser.Chain} {ts us : List Token} {t : Token}

/-! ### Where a source stands -/

theorem Operates.ne_from {op : BinaryOp} (h : Operates k t op) : .word .fromWord ≠ t := by
  cases h <;> simp

theorem Denotes.ne_from {v : Value} (h : Denotes t v) : .word .fromWord ≠ t := by
  cases h <;> simp

theorem not_mem_commaSeparated {parts : List (List Token)} (ht : t ≠ .comma)
    (h : ∀ ts ∈ parts, t ∉ ts) : t ∉ commaSeparated parts := by
  induction parts with
  | nil => exact List.not_mem_nil
  | cons ts parts ih =>
    obtain ⟨hts, hparts⟩ := List.forall_mem_cons.1 h
    cases parts with
    | nil => rwa [commaSeparated_singleton]
    | cons us parts =>
      rw [commaSeparated_cons _ (List.cons_ne_nil _ _), List.mem_append, List.mem_cons]
      rintro (hmem | rfl | hmem)
      · exact hts hmem
      · exact ht rfl
      · exact ih hparts hmem

/-- No expression goes beyond the keyword `from`. -/
theorem Derives.from_not_mem {e : Expr} (h : Derives c level ts e) : .word .fromWord ∉ ts := by
  induction h with
  | operand h ih => exact ih
  | chain hl hop hr ihl ihr => simp [ihl, ihr, hop.ne_from]
  | not h ih => simp [ih]
  | comparison h ih => exact ih
  | sum h ih => exact ih
  | relation op hl hr ihl ihr => simp [ihl, ihr]
  | minus h ih => simp [ih]
  | primary h ih => exact ih
  | literal h => simp [h.ne_from]
  | column ha => simp
  | call hf args hargs ih =>
    have hparts : .word .fromWord ∉ commaSeparated (args.map Prod.fst) :=
      not_mem_commaSeparated (by simp) (List.forall_mem_map.2 ih)
    simp [hparts]
  | countStar hf hcount => simp
  | parens h ih => simp [ih]

theorem Item.from_not_mem {ps : List Projection} (h : Item c ts ps) : .word .fromWord ∉ ts := by
  cases h with
  | defaults => simp
  | plain h => exact h.from_not_mem
  | named h ht => rcases ht with rfl | rfl <;> simp [h.from_not_mem]

/-- A list is split in one way only at the first place of a token. -/
theorem eq_of_append_cons {vs ws : List Token} (hts : t ∉ ts) (hus : t ∉ us)
    (h : ts ++ t :: vs = us ++ t :: ws) : ts = us ∧ vs = ws := by
  induction ts generalizing us with
  | nil =>
    cases us with
    | nil => exact ⟨rfl, (List.cons.inj h).2⟩
    | cons u us => exact absurd ((List.cons.inj h).1 ▸ List.mem_cons_self) hus
  | cons s ts ih =>
    cases us with
    | nil => exact absurd ((List.cons.inj h).1 ▸ List.mem_cons_self) hts
    | cons u us =>
      obtain ⟨rfl, htail⟩ := List.cons.inj h
      obtain ⟨rfl, rfl⟩ := ih (List.not_mem_of_not_mem_cons hts) (List.not_mem_of_not_mem_cons hus)
        htail
      exact ⟨rfl, rfl⟩

/-- The token behind the first `from` is the source; with another one the query is the same but for
its source. -/
theorem DerivesQuery.withSource {q : Query} {t' : Token} {source : String}
    (h : DerivesQuery c (ts ++ .word .fromWord :: t :: us) q) (hts : .word .fromWord ∉ ts)
    (ht' : t' = .path source ∨ t' = .string source) :
    DerivesQuery c (ts ++ .word .fromWord :: t' :: us) { q with source := source } := by
  generalize hall : ts ++ .word .fromWord :: t :: us = all at h
  cases h with
  | @query items hne hitems t₀ source₀ ht₀ vs ws xs predicate hwhere keys horder limit hlimit =>
    have hfront : .word .fromWord ∉ .word .selectWord :: commaSeparated (items.map Prod.fst) := by
      have hparts : .word .fromWord ∉ commaSeparated (items.map Prod.fst) :=
        not_mem_commaSeparated (by simp)
          (List.forall_mem_map.2 fun i hi => (hitems i hi).from_not_mem)
      simp [hparts]
    have hsplit : ts ++ .word .fromWord :: (t :: us) =
        (.word .selectWord :: commaSeparated (items.map Prod.fst)) ++
          .word .fromWord :: (t₀ :: (vs ++ (ws ++ xs))) := by simpa using hall
    obtain ⟨rfl, hrest⟩ := eq_of_append_cons hts hfront hsplit
    obtain ⟨rfl, rfl⟩ := List.cons.inj hrest
    have hquery := DerivesQuery.query items hne hitems ht' hwhere horder hlimit
    simpa using hquery

end Grammar

/-! ### How a source is read -/

namespace Scanner

open Reading

variable {source rest : List Char} {t : Token}

/-- Whatever is a token where a source may stand is the token behind `from`, and none behind it is
read as a source. -/
theorem scans_from (ht : Spells true source t rest) :
    Scans ("from ".toList ++ source) [.word .fromWord, t] rest := by
  have hfrom : Spells false "from".toList (.word .fromWord) ([' '] ++ (source ++ rest)) :=
    .word (by decide +kernel) (by decide +kernel) (ends_blank _).not_continuesName
  have hstep {b : Bool} {gap cs r : List Char} {u : Token} (p : Position)
      (hgap : gap.all Text.isWhiteSpace = true) (hu : Spells b cs u r) : ∃ l q, l.token = u ∧
        (Scanner.mk (gap ++ (cs ++ r)) p b).lexemes =
          (Scanner.mk r q (!b && u = .word .fromWord)).lexemes.map (l :: ·) :=
    ⟨_, _, rfl, lexemes_spells hgap hu⟩
  intro p
  obtain ⟨l, q, hl, hlexemes⟩ := hstep p List.all_nil hfrom
  obtain ⟨l', q', hl', hlexemes'⟩ := hstep q (by decide : [' '].all Text.isWhiteSpace = true) ht
  refine ⟨[l, l'], q', ?_, by rw [List.map_cons, List.map_singleton, hl, hl']⟩
  calc (Scanner.mk ("from ".toList ++ source ++ rest) p false).lexemes
      = (Scanner.mk ([' '] ++ (source ++ rest)) q true).lexemes.map (l :: ·) := hlexemes
    _ = ((Scanner.mk rest q' false).lexemes.map (l' :: ·)).map (l :: ·) := by rw [hlexemes']; rfl
    _ = (Scanner.mk rest q' false).lexemes.map ([l, l'] ++ ·) := by
        cases (Scanner.mk rest q' false).lexemes <;> rfl

end Scanner

/-- The tokens of a text do not depend on where it begins. -/
theorem Yields.moved {expectPath : Bool} {p : Position} {cs : List Char} {ls : List Lexeme}
    (h : Yields expectPath p cs ls) (p' : Position) :
    ∃ us, Yields expectPath p' cs us ∧ us.map Lexeme.token = ls.map Lexeme.token := by
  induction h generalizing p' with
  | blank hcs => exact ⟨[], .blank hcs, rfl⟩
  | lexeme hgap ht _ ih =>
    obtain ⟨us, hus, htokens⟩ := ih _
    exact ⟨_, .lexeme hgap ht hus, congrArg (_ :: ·) htokens⟩

/-! ### Queries with another source -/

/-- The text of a query for the names below a source. -/
def namesFrom (source rest : String) : String := "select name from " ++ source ++ " " ++ rest

open Reading Scanner

theorem isWhiteSpace_of_head (rest : List Char) :
    ∀ d ∈ (' ' :: rest).head?, Text.isWhiteSpace d = true :=
  fun _ hd => Option.some.inj hd ▸ (by decide : Text.isWhiteSpace ' ' = true)

/-- A word that begins with no quote and is no keyword is a source, whatever else is in it. -/
theorem spells_path {p : String} (hp : Text.isBlank p = false)
    (hword : ∀ d ∈ p.toList, Text.isWhiteSpace d = false)
    (hhead : ∀ d ∈ p.toList.head?, isQuote d = false)
    (hkeyword : Token.ofKeyword? (Text.toAsciiLower p) = none) (rest : List Char) :
    Spells true p.toList (.path p) (' ' :: rest) := by
  have hpath : wordToken .path p = .path p := by rw [wordToken, hkeyword]; rfl
  cases hchars : p.toList with
  | nil =>
    rw [String.toList_eq_nil_iff.1 hchars] at hp
    cases hp
  | cons d ds =>
    have hquote : isQuote d = false := hhead d (by rw [hchars]; rfl)
    have hsolid : (d :: ds).all (fun e => !Text.isWhiteSpace e) = true :=
      List.all_eq_true.2 fun e he => by rw [hword e (hchars ▸ he)]; rfl
    have hsource := Spells.source hquote hsolid (isWhiteSpace_of_head rest)
    rwa [← hchars, String.ofList_toList, hpath, hchars] at hsource

theorem scans_namesFrom {source rest : List Char} {t : Token} (ht : Spells true source t rest) :
    Scans ("select name from ".toList ++ source)
      [.word .selectWord, .identifier "name", .word .fromWord, t] rest := by
  have hblank (r : List Char) : Scans [' '] [] r := scans_blank (by decide) r
  have hname : Scans "name".toList [.identifier "name"]
      ([' '] ++ ("from ".toList ++ source) ++ rest) :=
    scans_name (by decide +kernel) (ends_blank _).not_continuesName
  have hselect : Scans "select".toList [.word .selectWord]
      ([' '] ++ ("name".toList ++ ([' '] ++ ("from ".toList ++ source))) ++ rest) :=
    scans_word (by decide +kernel) (by decide +kernel) (by simp) (by simp)
      (ends_blank _).not_continuesName
  exact hselect.append ((hblank _).append (hname.append ((hblank _).append (scans_from ht))))

namespace Query

variable {c : Catalog} {p k : String} {q : Query}

/-- The lexemes of a query for names: four of them up to the source, and those of the rest. -/
theorem tokenize_namesFrom {source : String} {t : Token}
    (ht : Spells true source.toList t (' ' :: k.toList)) : ∃ ls place,
      ls.map Lexeme.token = [.word .selectWord, .identifier "name", .word .fromWord, t] ∧
      tokenize (namesFrom source k) =
        (Scanner.mk (' ' :: k.toList) place false).lexemes.map (ls ++ ·) := by
  have hscans := scans_namesFrom ht
  have htext : (namesFrom source k).toList =
      "select name from ".toList ++ source.toList ++ ' ' :: k.toList := by
    unfold namesFrom
    simp
  obtain ⟨ls, place, hlexemes, htokens⟩ := hscans .start
  refine ⟨ls, place, htokens, ?_⟩
  rw [← htext] at hlexemes
  exact hlexemes

/-- A source in place of another one that is a token of its own. -/
theorem parse_namesFrom_of_spells (hp : Text.isBlank p = false)
    (hq : Query.parse c (namesFrom "." k) = .ok q) {source : String} {t : Token}
    (hsource : Spells true source.toList t (' ' :: k.toList)) (ht : t = .path p ∨ t = .string p) :
    Query.parse c (namesFrom source k) = .ok { q with source := p } := by
  have hdot : Spells true ".".toList (.path ".") (' ' :: k.toList) :=
    .source (by decide) (by decide) (isWhiteSpace_of_head _)
  obtain ⟨front, place, hfront, htext⟩ := tokenize_namesFrom hdot
  obtain ⟨front', place', hfront', htext'⟩ := tokenize_namesFrom hsource
  obtain ⟨ls, htokenize, hlexemes⟩ := parse_eq_ok.1 hq
  obtain ⟨hderives, hlegal⟩ := (ofLexemes_eq_ok (token_ne_endOfText _ htokenize)).1 hlexemes
  -- What comes behind the source is read from another place, as the same tokens.
  obtain ⟨ks, hks, rfl⟩ : ∃ ks, (Scanner.mk (' ' :: k.toList) place false).lexemes = .ok ks ∧
      ls = front ++ ks := by
    rw [htext] at htokenize
    cases hks : (Scanner.mk (' ' :: k.toList) place false).lexemes with
    | error e => rw [hks] at htokenize; cases htokenize
    | ok ks => rw [hks] at htokenize; exact ⟨ks, rfl, (Except.ok.inj htokenize).symm⟩
  obtain ⟨us, hus, htokens⟩ := (lexemes_eq_ok.1 hks).moved place'
  have htokenize' : tokenize (namesFrom source k) = .ok (front' ++ us) := by
    rw [htext', lexemes_eq_ok.2 hus]
    rfl
  refine parse_eq_ok.2 ⟨_, htokenize', (ofLexemes_eq_ok (token_ne_endOfText _ htokenize')).2
    ⟨?_, hlegal.projections, hp, hlegal.predicate, hlegal.orderBy⟩⟩
  rw [List.map_append, hfront] at hderives
  rw [List.map_append, hfront', htokens]
  have hname : .word .fromWord ∉ [Token.word .selectWord, .identifier "name"] := by simp
  exact hderives.withSource hname ht

/-- A source reaches the query as it is written: in quotes if it does not have the quote, and as it
is if it has no white space, begins with no quote and is no keyword. All else is as it is with any
other source. -/
theorem parse_namesFrom (hp : Text.isBlank p = false)
    (hq : Query.parse c (namesFrom "." k) = .ok q) :
    (∀ quote, isQuote quote = true → quote ∉ p.toList →
      Query.parse c (namesFrom (String.ofList (quote :: p.toList ++ [quote])) k) =
        .ok { q with source := p }) ∧
    ((∀ d ∈ p.toList, Text.isWhiteSpace d = false) → (∀ d ∈ p.toList.head?, isQuote d = false) →
      Token.ofKeyword? (Text.toAsciiLower p) = none →
        Query.parse c (namesFrom p k) = .ok { q with source := p }) := by
  refine ⟨fun quote hquote hbody => ?_, fun hword hhead hkeyword => ?_⟩
  · refine parse_namesFrom_of_spells hp hq ?_ (Or.inr rfl)
    rw [String.toList_ofList]
    have hstring : Spells true (quote :: p.toList ++ [quote]) (.string (String.ofList p.toList))
        (' ' :: k.toList) := .string hquote hbody
    rwa [String.ofList_toList] at hstring
  · exact parse_namesFrom_of_spells hp hq (spells_path hp hword hhead hkeyword k.toList)
      (Or.inl rfl)

/-- The first three names below a directory. -/
def firstNames (source : String) : Query := ⟨[⟨.column .name, none⟩], source, none, [], some 3⟩

open Grammar in
theorem parse_firstNames :
    Query.parse .standard (namesFrom "." "limit 3") = .ok (firstNames ".") := by
  have hselect : Scanner.next (.ofText "select name from . limit 3") =
      (.ok ⟨.word .selectWord, "select", ⟨0, 1, 1⟩⟩,
        ⟨" name from . limit 3".toList, ⟨6, 1, 7⟩, false⟩) := rfl
  have hname : Scanner.next ⟨" name from . limit 3".toList, ⟨6, 1, 7⟩, false⟩ =
      (.ok ⟨.identifier "name", "name", ⟨7, 1, 8⟩⟩,
        ⟨" from . limit 3".toList, ⟨11, 1, 12⟩, false⟩) := rfl
  have hfrom : Scanner.next ⟨" from . limit 3".toList, ⟨11, 1, 12⟩, false⟩ =
      (.ok ⟨.word .fromWord, "from", ⟨12, 1, 13⟩⟩,
        ⟨" . limit 3".toList, ⟨16, 1, 17⟩, true⟩) := rfl
  have hpath : Scanner.next ⟨" . limit 3".toList, ⟨16, 1, 17⟩, true⟩ =
      (.ok ⟨.path ".", ".", ⟨17, 1, 18⟩⟩, ⟨" limit 3".toList, ⟨18, 1, 19⟩, false⟩) := rfl
  have hlimit : Scanner.next ⟨" limit 3".toList, ⟨18, 1, 19⟩, false⟩ =
      (.ok ⟨.word .limitWord, "limit", ⟨19, 1, 20⟩⟩, ⟨" 3".toList, ⟨24, 1, 25⟩, false⟩) := rfl
  have hthree : Scanner.next ⟨" 3".toList, ⟨24, 1, 25⟩, false⟩ =
      (.ok ⟨.integer 3, "3", ⟨25, 1, 26⟩⟩, ⟨[], ⟨26, 1, 27⟩, false⟩) := rfl
  have htext : tokenize "select name from . limit 3" = .ok _ :=
    Scanner.lexemes_cons hselect (by simp) <| Scanner.lexemes_cons hname (by simp) <|
      Scanner.lexemes_cons hfrom (by simp) <| Scanner.lexemes_cons hpath (by simp) <|
        Scanner.lexemes_cons hlimit (by simp) <|
          Scanner.lexemes_cons hthree (by simp) (Scanner.lexemes_nil _ _)
  obtain ⟨a, ha, hsubject⟩ := Catalog.findAttribute?_canonicalName .name
  have hcolumn : Derives .standard .primary [.identifier "name"] (.column a.subject) := .column ha
  rw [hsubject] at hcolumn
  have hitem := Item.plain (Derives.operand (.operand (.comparison (.sum (.operand (.operand
    (.primary hcolumn)))))))
  have hderives : DerivesQuery .standard [.word .selectWord, .identifier "name", .word .fromWord,
      .path ".", .word .limitWord, .integer 3] (firstNames ".") :=
    .query [(_, _)] (List.cons_ne_nil _ _) (List.forall_mem_singleton.2 hitem) (Or.inl rfl)
      .absent .absent (.present 3 (by decide))
  have hlegal : (firstNames ".").Legal .standard :=
    ⟨List.forall_mem_singleton.2 ⟨fun _ h => (by cases h), fun _ h => (by cases h)⟩, by decide,
      fun _ h => (by cases h), fun _ h => (by cases h)⟩
  exact parse_eq_ok.2 ⟨_, htext,
    (ofLexemes_eq_ok (token_ne_endOfText _ htext)).2 ⟨hderives, hlegal⟩⟩

/-- A file name with a keyword, signs and an apostrophe in it, with and without quotes around. -/
theorem parse_namesFrom_signs :
    Text.isBlank "from,(it\x27s)<=2" = false ∧
    Query.parse .standard (namesFrom "." "limit 3") = .ok (firstNames ".") ∧
    Query.parse .standard (namesFrom "\x22from,(it\x27s)<=2\x22" "limit 3") =
      .ok (firstNames "from,(it\x27s)<=2") ∧
    Query.parse .standard (namesFrom "from,(it\x27s)<=2" "limit 3") =
      .ok (firstNames "from,(it\x27s)<=2") := by
  have hp : Text.isBlank "from,(it\x27s)<=2" = false := by decide
  obtain ⟨hquoted, hplain⟩ := parse_namesFrom hp parse_firstNames
  have hword : "from,(it\x27s)<=2".toList.all (fun d => !Text.isWhiteSpace d) = true := by decide
  have hhead : "from,(it\x27s)<=2".toList.head? = some 'f' := by decide
  refine ⟨hp, parse_firstNames, hquoted '\x22' (by decide) (by decide),
    hplain (fun d hd => ?_) (fun d hd => ?_) (by decide)⟩
  · simpa using List.all_eq_true.1 hword d hd
  · obtain rfl := Option.some.inj (hhead.symm.trans hd)
    decide

end Query

end FileQuery
