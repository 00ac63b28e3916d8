import FileQuery.Proofs.Query.Layout
import FileQuery.Proofs.Query.Resolution

/-!
# Expressions are read back from their text

An expression of a query, written out and put between `select` and `from .`, is read again as the
same expression. It must hold no float, since `1e16` is no number of a query, and no comparison
directly left of another one, since comparisons do not chain.

Nothing else is asked, since what is parsed comes from the tokens of a text: integers without a sign
and strings without the quote they stand in.

## Main definitions

* `FileQuery.Expr.nodes`: the expressions inside an expression.
* `FileQuery.Expr.Plain`: what is asked of an expression.
* `FileQuery.Token.Lexical`: tokens that stand in texts.

## Main results

* `FileQuery.Expr.printable_of_derives`: what is parsed can be written.
* `FileQuery.Query.parse_toText`: what is written is parsed.
-/

namespace FileQuery

open Grammar

/-! ### Tokens of texts -/

/-- What is known of a token that stands in a text. -/
def Token.Lexical : Token → Prop
  | .integer n => 0 ≤ n.toInt
  | .string s => '\x27' ∉ s.toList ∨ '\x22' ∉ s.toList
  | _ => True

namespace Reading

theorem lexical_wordToken {other : String → Token} (hother : ∀ s, (other s).Lexical)
    (word : String) : (wordToken other word).Lexical := by
  rw [wordToken]
  cases h : Token.ofKeyword? (Text.toAsciiLower word) with
  | none => exact hother word
  | some t =>
    unfold Token.ofKeyword? at h
    split at h <;> cases h <;> trivial

/-- A string lacks the quote it stands in. -/
theorem lexical_quoted {quote : Char} (hquote : isQuote quote = true) {r : List Char} {t : Token}
    (h : (quoted quote r).outcome = .ok t) : t.Lexical := by
  have hbody : quote ∉ r.takeWhile (· != quote) := by
    intro hmem
    have hne := List.all_eq_true.1 List.all_takeWhile quote hmem
    simp at hne
  simp only [quoted] at h
  split at h
  · cases h
  · obtain rfl := Except.ok.inj h
    rw [Token.Lexical, String.toList_ofList]
    simp only [isQuote, Bool.or_eq_true, beq_iff_eq] at hquote
    have hcode (n : Nat) (hn : quote.toNat = n) : Char.ofNat n ∉ r.takeWhile (· != quote) := by
      rw [← hn, Char.ofNat_toNat]
      exact hbody
    rcases hquote with hquote | hquote
    · exact Or.inr (hcode 34 hquote)
    · exact Or.inl (hcode 39 hquote)

theorem lexical_integerToken {ds : List Char} {t : Token} (h : integerToken ds = .ok t) :
    t.Lexical := by
  simp only [integerToken] at h
  split at h
  · next hlt =>
    obtain rfl := Except.ok.inj h
    rw [Token.Lexical, Int64.toInt_ofNat_of_lt hlt]
    exact Int.natCast_nonneg _
  · cases h

theorem lexical_number {cs : List Char} {t : Token} (h : (number cs).outcome = .ok t) :
    t.Lexical := by
  simp only [number] at h
  split at h
  · split at h
    · exact lexical_integerToken h
    · obtain rfl := Except.ok.inj h
      trivial
  · exact lexical_integerToken h

theorem lexical_sign {c : Char} {r : List Char} {t : Token} (h : (sign c r).outcome = .ok t) :
    t.Lexical := by
  unfold sign at h
  split at h <;> cases h <;> trivial

/-- Whatever is read at the front of a text is lexical. -/
theorem lexical_ofText {expectPath : Bool} {cs : List Char} {t : Token}
    (h : (ofText expectPath cs).outcome = .ok t) : t.Lexical := by
  cases cs with
  | nil =>
    obtain rfl := Except.ok.inj h
    trivial
  | cons c r =>
    rw [ofText] at h
    split at h
    · next hquote => exact lexical_quoted hquote h
    split at h
    · obtain rfl := Except.ok.inj h
      refine lexical_wordToken ?_ _
      exact fun _ => trivial
    split at h
    · obtain rfl := Except.ok.inj h
      refine lexical_wordToken ?_ _
      exact fun _ => trivial
    split at h
    · exact lexical_number h
    · exact lexical_sign h

end Reading

theorem lexical_of_tokenize {text : String} {ts : List Lexeme} (h : tokenize text = .ok ts) :
    ∀ l ∈ ts, l.token.Lexical :=
  Scanner.forall_lexemes (fun _ _ _ hread _ => Reading.lexical_ofText hread) _ h

/-! ### Expressions of queries -/

namespace Grammar

theorem forall_mem_append_cons {P : Token → Prop} {ts us : List Token} {t : Token} :
    (∀ u ∈ ts ++ t :: us, P u) ↔ (∀ u ∈ ts, P u) ∧ P t ∧ ∀ u ∈ us, P u := by
  rw [List.forall_mem_append, List.forall_mem_cons]

end Grammar

namespace Expr

mutual

/-- An expression and all expressions inside it. -/
def nodes : Expr → List Expr
  | .column a => [.column a]
  | .literal v => [.literal v]
  | .call f args => .call f args :: nodesList args
  | .binary op l r => .binary op l r :: (l.nodes ++ r.nodes)
  | .unary op e => .unary op e :: e.nodes

/-- Several expressions and all expressions inside them. -/
def nodesList : List Expr → List Expr
  | [] => []
  | e :: es => e.nodes ++ nodesList es

end

theorem self_mem_nodes (e : Expr) : e ∈ e.nodes := by
  cases e <;> exact List.mem_cons_self

theorem nodes_subset_nodesList {e : Expr} {es : List Expr} (h : e ∈ es) :
    e.nodes ⊆ nodesList es := by
  induction es with
  | nil => cases h
  | cons e' es ih =>
    rw [nodesList]
    rcases List.mem_cons.1 h with rfl | h
    · exact List.subset_append_left _ _
    · exact List.subset_append_of_subset_right _ (ih h)

/-- No literal inside is a float, and no comparison inside is directly left of another one. -/
structure Plain (e : Expr) : Prop where
  float : ∀ x, .literal (.float x) ∉ e.nodes
  comparison : ∀ op op' l r r',
    .binary (.relation op) (.binary (.relation op') l r) r' ∉ e.nodes

theorem Plain.mono {e e' : Expr} (h : e.Plain) (hsubset : e'.nodes ⊆ e.nodes) : e'.Plain :=
  ⟨fun x hx => h.float x (hsubset hx),
    fun op op' l r r' hmem => h.comparison op op' l r r' (hsubset hmem)⟩

theorem Plain.left {op : BinaryOp} {l r : Expr} (h : (Expr.binary op l r).Plain) : l.Plain :=
  h.mono (List.subset_cons_of_subset _ (List.subset_append_left _ _))

theorem Plain.right {op : BinaryOp} {l r : Expr} (h : (Expr.binary op l r).Plain) : r.Plain :=
  h.mono (List.subset_cons_of_subset _ (List.subset_append_right _ _))

theorem Plain.operand {op : UnaryOp} {e : Expr} (h : (Expr.unary op e).Plain) : e.Plain :=
  h.mono (List.subset_cons_self _ _)

theorem Plain.argument {f : Function} {args : List Expr} (h : (Expr.call f args).Plain) {e : Expr}
    (he : e ∈ args) : e.Plain :=
  h.mono (List.subset_cons_of_subset _ (nodes_subset_nodesList he))

theorem plain_integer (n : Int64) : (Expr.literal (.integer n)).Plain := by
  constructor <;> simp [nodes]

/-- A minus sign changes no part of an expression but a number. -/
theorem plain_of_negated {e : Expr} (h : (ExprParser.negated e).Plain) : e.Plain := by
  unfold ExprParser.negated at h
  split at h
  · exact plain_integer _
  · exact absurd (self_mem_nodes _) (h.float _)
  · exact h.operand

theorem writable_of_denotes {t : Token} {v : Value} (h : Denotes t v) (ht : t.Lexical)
    (hv : ∀ x, v ≠ .float x) : v.Writable := by
  cases h with
  | integer n => exact Int.lt_of_lt_of_le (by decide) ht
  | float x => exact absurd rfl (hv x)
  | string s => exact ht
  | boolean b => trivial
  | null => trivial

/-- A minus sign before what can be written leaves it so. -/
theorem printable_negated {e : Expr} (h : e.Printable) : (ExprParser.negated e).Printable := by
  unfold ExprParser.negated
  split
  · next n =>
    cases h with
    | literal h =>
      have hlt := n.toInt_lt
      refine .literal ?_
      rw [Value.Writable, Int64.toInt_neg_of_lt h]
      omega
  · cases h with
    | literal h => cases h
  · next hinteger hfloat => exact .negate h hinteger

/-- What the tokens of a text derive can be written. -/
theorem printable_of_derives {c : Catalog} {level : Level} {ts : List Token} {e : Expr}
    (h : Derives c level ts e) (hts : ∀ t ∈ ts, t.Lexical) (he : e.Plain) : e.Printable := by
  induction h with
  | operand h ih => exact ih hts he
  | comparison h ih => exact ih hts he
  | sum h ih => exact ih hts he
  | primary h ih => exact ih hts he
  | chain hl hop hr ihl ihr =>
    obtain ⟨hts, -, hus⟩ := forall_mem_append_cons.1 hts
    refine .binary (ihl hts he.left) (ihr hus he.right) ?_
    rintro o o' l' r' rfl
    cases hop
  | relation op hl hr ihl ihr =>
    obtain ⟨hts, -, hus⟩ := forall_mem_append_cons.1 hts
    refine .binary (ihl hts he.left) (ihr hus he.right) ?_
    rintro o o' l' r' - rfl
    exact he.comparison op o' l' r' _ (self_mem_nodes _)
  | not h ih => exact .not (ih (List.forall_mem_cons.1 hts).2 he.operand)
  | minus h ih => exact printable_negated (ih (List.forall_mem_cons.1 hts).2 (plain_of_negated he))
  | literal h =>
    refine .literal (writable_of_denotes h (List.forall_mem_singleton.1 hts) ?_)
    rintro x rfl
    exact he.float x (self_mem_nodes _)
  | column ha => exact .column _
  | call hf args hargs ih =>
    refine .call _ fun e hmem => ?_
    obtain ⟨a, ha, rfl⟩ := List.mem_map.1 hmem
    refine ih a ha (fun t ht => hts t ?_) (he.argument hmem)
    have hmem := (infix_commaSeparated (List.mem_map_of_mem ha)).subset ht
    exact List.mem_append_left _ (List.mem_cons_of_mem _ (List.mem_cons_of_mem _ hmem))
  | countStar hf hcount => exact .call _ (fun _ h => nomatch h)
  | parens h ih =>
    refine ih (fun t ht => hts t ?_) he
    exact List.mem_append_left _ (List.mem_cons_of_mem _ ht)

end Expr

/-! ### Queries -/

namespace Query

variable {c : Catalog} {q : Query} {e : Expr}

/-- An expression of a query is one of the default columns or derived from tokens of a text. -/
theorem exists_derives_lexical {ts : List Token} (h : DerivesQuery c ts q)
    (hts : ∀ t ∈ ts, t.Lexical) (he : e ∈ q.expressions) :
    (∃ a, e = .column a) ∨
      ∃ us, (∀ t ∈ us, t.Lexical) ∧ Derives c (.chain .disjunction) us e :=
  (exists_derives h he).imp (fun ⟨d, _, hd⟩ => ⟨d.subject, hd⟩)
    fun ⟨us, hus, hderives⟩ => ⟨us, fun t ht => hts t (hus.subset ht), hderives⟩

/-- The expressions of a query can be written, the default columns among them. -/
theorem printable_of_mem_expressions {ts : List Token} (h : DerivesQuery c ts q)
    (hts : ∀ t ∈ ts, t.Lexical) (he : e ∈ q.expressions) (hplain : e.Plain) : e.Printable := by
  rcases exists_derives_lexical h hts he with ⟨a, rfl⟩ | ⟨us, hus, hderives⟩
  · exact .column a
  · exact Expr.printable_of_derives hderives hus hplain

/-! ### Round trip -/

/-- The query that projects an expression alone. -/
def projecting (e : Expr) : Query := ⟨[⟨e, none⟩], ".", none, [], none⟩

/-- A text between `select` and `from .` is scanned to its tokens between theirs. -/
theorem tokenize_projecting {text : String} {ts : List Token}
    (htext : Scanner.Scans text.toList ts " from .".toList) :
    ∃ ls, tokenize ("select " ++ text ++ " from .") = .ok ls ∧
      ls.map Lexeme.token = .word .selectWord :: ts ++ [.word .fromWord, .path "."] := by
  have hselect : Scanner.Scans "select".toList [.word .selectWord]
      ([' '] ++ text.toList ++ " from .".toList) :=
    Scanner.scans_word (by decide +kernel) (by decide +kernel) (by simp) (by simp)
      (Scanner.ends_blank _).not_continuesName
  have hblank := (Scanner.scans_blank (c := ' ') (by decide) _).append htext
  obtain ⟨ls, hls, htokens⟩ := (hselect.append hblank).lexemes Scanner.lexemes_from .start
  refine ⟨ls, ?_, by simpa using htokens⟩
  rw [← hls, tokenize, Scanner.ofText]
  simp

/-- A text between `select` and `from .` is parsed to the expression that its tokens derive. -/
theorem parse_projecting {text : String} {ts : List Token}
    (htext : Scanner.Scans text.toList ts " from .".toList)
    (hderives : Derives c (.chain .disjunction) ts e) (hlegal : e.Legal c) :
    Query.parse c ("select " ++ text ++ " from .") = .ok (projecting e) := by
  obtain ⟨ls, htokenize, htokens⟩ := tokenize_projecting htext
  have hquery : DerivesQuery c (ls.map Lexeme.token) (projecting e) := by
    have hitem := Item.plain hderives
    have hquery := DerivesQuery.query [(ts, [⟨e, none⟩])] (by simp)
      (List.forall_mem_singleton.2 hitem) (Or.inl rfl : Token.path "." = .path "." ∨ _) .absent
      .absent .absent
    rw [htokens]
    simpa [projecting, commaSeparated_singleton] using hquery
  have hlegal' : (projecting e).Legal c :=
    ⟨List.forall_mem_singleton.2 hlegal, (by decide : Text.isBlank "." = false),
      fun _ h => (nomatch h), fun _ h => (nomatch h)⟩
  exact parse_eq_ok.2 ⟨ls, htokenize,
    (ofLexemes_eq_ok (Scanner.token_ne_endOfText _ htokenize)).2 ⟨hquery, hlegal'⟩⟩

/-- An expression of a query that is written out is read back. -/
theorem parse_toText {text : String} (hq : Query.parse .standard text = .ok q)
    (he : (∃ p ∈ q.projections, p.expr = e) ∨ q.predicate = some e) (hplain : e.Plain) :
    Query.parse .standard ("select " ++ e.toText ++ " from .") =
      .ok ⟨[⟨e, none⟩], ".", none, [], none⟩ := by
  obtain ⟨ts, htokenize, hts⟩ := parse_eq_ok.1 hq
  obtain ⟨hderives, hlegal⟩ := (ofLexemes_eq_ok (Scanner.token_ne_endOfText _ htokenize)).1 hts
  have hlexical : ∀ t ∈ ts.map Lexeme.token, t.Lexical :=
    List.forall_mem_map.2 (lexical_of_tokenize htokenize)
  have hmem : e ∈ q.expressions := mem_expressions.2 he
  have hprintable : e.Printable := printable_of_mem_expressions hderives hlexical hmem hplain
  exact parse_projecting (hprintable.scannedBack _ (Scanner.ends_blank _)) hprintable.derives
    (hlegal.expression e hmem)

/-- A comparison of nested differences with a negative number in them. -/
def nestedDifference : Expr :=
  .unary .not (.binary (.relation .equal)
    (.binary (.arithmetic .subtract) (.column .size)
      (.binary (.arithmetic .subtract) (.literal (.integer 3)) (.literal (.integer (-1)))))
    (.literal (.integer 2)))

/-- The parentheses around a whole expression are not written again, those inside are. -/
theorem parse_toText_nestedDifference :
    Query.parse .standard "select (not size - (3 - -1) = 2) from ." =
        .ok (projecting nestedDifference) ∧
      Query.parse .standard "select not size - (3 - -1) = 2 from ." =
        .ok (projecting nestedDifference) := by
  have hplain : nestedDifference.Plain := by
    constructor <;> simp [nestedDifference, Expr.nodes]
  have hinteger (n : Int64) (hn : -2 ^ 63 < n.toInt) : (Expr.literal (.integer n)).Printable :=
    .literal hn
  have hprintable : nestedDifference.Printable := by
    refine .not (.binary (.binary (.column _) (.binary (hinteger 3 ?_) (hinteger (-1) ?_) ?_) ?_)
      (hinteger 2 ?_) ?_)
    all_goals simp
  have hlegal : nestedDifference.Legal .standard := ⟨fun _ h => (nomatch h), fun _ h => (nomatch h)⟩
  have htext : nestedDifference.toText = "not size - (3 - -1) = 2" := by decide +kernel
  have hscans := hprintable.scannedBack.parenthesized true (Scanner.ends_blank "from .".toList)
  have hparse := parse_projecting hscans (derives_parens (s := 1) hprintable.derives) hlegal
  have hround := parse_toText hparse (Or.inl ⟨_, List.mem_singleton_self _, rfl⟩) hplain
  rw [htext] at hparse hround
  exact ⟨hparse, hround⟩

end Query

end FileQuery
