import FileQuery.Proofs.Query.Places
import FileQuery.Proofs.Query.RoundTrip

/-!
# Comparisons that are compared

An expression is written without parentheses around a comparison that is the left operand of another
one, since all binary operators are taken to group to the left. But comparisons do not group at all:
in the grammar there is one at a place. So the text of such an expression is scanned to tokens that
are refused wherever they stand. It is no query between `select` and `from .`, and no part of one.

The reason is in the strengths of the operators. The right operand of the first comparison has no
comparison outside of parentheses, so that reading it leads back to where this comparison was read,
and then the second one comes.

## Main definitions

* `FileQuery.Expr.Chained`: a comparison directly left of another one.

## Main results

* `FileQuery.Expr.preserves_tokens`: where a written expression leads.
* `FileQuery.Expr.refused_tokens`: expressions that are refused.
* `FileQuery.Query.scannedBack_of_parse`: texts of expressions are scanned to their tokens.
* `FileQuery.Query.not_parses_toText`: they are not read back if they hold a chained comparison.
-/

namespace FileQuery

/-! ### Places of written expressions -/

namespace Grammar

variable {ts : List Token}

theorem Preserves.parenthesized (h : Preserves Place.outer ts) (needed : Bool) :
    Preserves Place.outer (Expr.parenthesizeTokens needed ts) := by
  cases needed with
  | false => exact h
  | true => exact h.parens.of_id

theorem Preserves.id_parenthesized (h : Preserves Place.outer ts) (needed : Prop)
    [Decidable needed] (hid : ¬needed → Preserves id ts) :
    Preserves id (Expr.parenthesizeTokens (decide needed) ts) := by
  by_cases hneeded : needed
  · rw [decide_eq_true hneeded]
    exact h.parens
  · rw [decide_eq_false hneeded]
    exact hid hneeded

end Grammar

namespace Expr

open Grammar

theorem preserves_operator (op : BinaryOp) : Preserves Place.outer [op.token] := by
  refine preserves_outer fun p p' hp => ?_
  rcases op with _ | _ | r | (_ | _ | _ | _)
  case relation =>
    rw [BinaryOp.token, Place.next?] at hp
    split at hp
    · cases hp
    · rw [← Option.some.inj hp]
  all_goals rw [← Option.some.inj hp]

theorem keeps_operator {op : BinaryOp} (h : 4 < op.strength) : Keeps [op.token] := by
  rcases op with _ | _ | r | (_ | _ | _ | _)
  case or | and | relation => exact absurd h (by simp [BinaryOp.strength])
  all_goals exact fun _ => rfl

theorem keeps_literalTokens (v : Value) : Keeps (literalTokens v) := by
  cases v with
  | integer n =>
    rw [literalTokens]
    split <;> exact fun _ => rfl
  | _ => exact fun _ => rfl

/-- A written expression stays within the parentheses around it, and one without a comparison
outside of parentheses of its own leads back to where it begins. -/
theorem preserves_tokens (e : Expr) :
    Preserves Place.outer e.tokens ∧ (4 < e.strength → Preserves id e.tokens) := by
  induction e using Expr.induct with
  | column a =>
    have hname : Keeps [.identifier a.canonicalName] := fun _ => rfl
    exact ⟨hname.preserves, fun _ => hname.preserves⟩
  | literal v =>
    have hliteral := keeps_literalTokens v
    exact ⟨hliteral.preserves, fun _ => hliteral.preserves⟩
  | call f args ih =>
    have hargs : Preserves Place.outer (argsTokens args) := by
      rw [argsTokens_eq]
      refine preserves_commaSeparated fun ts hts => ?_
      obtain ⟨a, ha, rfl⟩ := List.mem_map.1 hts
      exact (ih a ha).1
    have hname : Keeps [.identifier f.canonicalName] := fun _ => rfl
    have hcall := (hname.preserves (f := id)).append hargs.parens
    exact ⟨hcall.of_id, fun _ => hcall⟩
  | binary op l r ihl ihr =>
    refine ⟨(ihl.1.parenthesized _).append ((preserves_operator op).append
      (ihr.1.parenthesized _)), fun hop => ?_⟩
    have hop : 4 < op.strength := hop
    have hleft := ihl.1.id_parenthesized (l.strength < op.strength) fun h => ihl.2 (by omega)
    have hright := ihr.1.id_parenthesized (r.strength ≤ op.strength) fun h => ihr.2 (by omega)
    exact hleft.append ((keeps_operator hop).preserves.append hright)
  | unary op e ih =>
    cases op with
    | not =>
      have hword : Preserves Place.outer [.word .notWord] :=
        preserves_outer fun p p' hp => by rw [← Option.some.inj hp]
      exact ⟨hword.append (ih.1.parenthesized _), fun h => absurd h (show ¬4 < 3 by decide)⟩
    | negate =>
      have hoperand := ih.1.id_parenthesized (e.strength < UnaryOp.negate.strength)
        fun h => ih.2 (Nat.lt_of_lt_of_le (by decide) (Nat.le_of_not_lt h))
      have hminus : Keeps [.minus] := fun _ => rfl
      have hnegated := (hminus.preserves (f := id)).append hoperand
      exact ⟨hnegated.of_id, fun _ => hnegated⟩

/-! ### Literals inside an expression -/

variable {e l r : Expr} {v : Value}

theorem mem_nodesList {x : Expr} {es : List Expr} :
    x ∈ nodesList es ↔ ∃ e ∈ es, x ∈ e.nodes := by
  induction es with
  | nil => simp [nodesList]
  | cons e es ih => simp [nodesList, ih]

theorem literal_mem_nodes_call {f : Function} {args : List Expr} :
    .literal v ∈ (Expr.call f args).nodes ↔ ∃ a ∈ args, .literal v ∈ a.nodes := by
  rw [nodes, List.mem_cons, mem_nodesList, or_iff_right (fun h => by cases h)]

theorem literal_mem_nodes_binary {op : BinaryOp} : .literal v ∈ (Expr.binary op l r).nodes ↔
    .literal v ∈ l.nodes ∨ .literal v ∈ r.nodes := by
  rw [nodes, List.mem_cons, List.mem_append, or_iff_right (fun h => by cases h)]

theorem literal_mem_nodes_unary {op : UnaryOp} :
    .literal v ∈ (Expr.unary op e).nodes ↔ .literal v ∈ e.nodes := by
  rw [nodes, List.mem_cons, or_iff_right (fun h => by cases h)]

/-! ### Expressions that are refused -/

/-- A comparison directly left of another one. -/
def Chained (e : Expr) : Prop :=
  ∃ op op' l r r', e = .binary (.relation op) (.binary (.relation op') l r) r'

theorem Chained.refused {e : Expr} (h : e.Chained) : Refused e.tokens := by
  obtain ⟨op, op', l, r, r', rfl⟩ := h
  -- only the right operand of the first comparison stands between the two
  have hright := (preserves_tokens r).1.id_parenthesized (r.strength ≤ 4)
    fun h => (preserves_tokens r).2 (Nat.lt_of_not_le h)
  have htokens : (Expr.binary (.relation op) (.binary (.relation op') l r) r').tokens =
      parenthesizeTokens (decide (l.strength < 4)) l.tokens ++
        (.relation op' :: parenthesizeTokens (decide (r.strength ≤ 4)) r.tokens ++ [.relation op]) ++
          parenthesizeTokens (decide (r'.strength ≤ 4)) r'.tokens := by
    rw [← List.append_assoc, List.append_assoc _ [_]]
    rfl
  rw [htokens]
  exact ((refused_relations op op' hright).append_left _).append_right _

/-- An expression with a comparison directly left of another one is refused. -/
theorem refused_tokens {e x : Expr} (h : x.Chained) (hx : x ∈ e.nodes) : Refused e.tokens := by
  have hparens {needed : Bool} {ts : List Token} (h : Refused ts) :
      Refused (parenthesizeTokens needed ts) := by
    cases needed with
    | false => exact h
    | true => exact (h.append_right _).cons _
  induction e using Expr.induct with
  | column a =>
    obtain rfl := List.mem_singleton.1 hx
    exact h.refused
  | literal v =>
    obtain rfl := List.mem_singleton.1 hx
    exact h.refused
  | call f args ih =>
    rcases List.mem_cons.1 hx with rfl | hx
    · exact h.refused
    · obtain ⟨a, ha, hx⟩ := mem_nodesList.1 hx
      have hargs := refused_commaSeparated (ih a ha hx) (List.mem_map_of_mem ha)
      rw [tokens, argsTokens_eq]
      exact ((hargs.cons _).append_right _).cons _
  | binary op l r ihl ihr =>
    rcases List.mem_cons.1 hx with rfl | hx
    · exact h.refused
    · rcases List.mem_append.1 hx with hx | hx
      · exact (hparens (ihl hx)).append_right _
      · exact ((hparens (ihr hx)).cons _).append_left _
  | unary op e ih =>
    rcases List.mem_cons.1 hx with rfl | hx
    · exact h.refused
    · exact (hparens (ih hx)).cons _

/-! ### Texts of expressions -/

/-- The text of an expression is scanned to its tokens if its literals can be written. -/
theorem scannedBack_of_writable (h : ∀ v, .literal v ∈ e.nodes → v.Writable) : e.ScannedBack := by
  induction e using Expr.induct with
  | column a => exact scannedBack_column a
  | literal v => exact fun rest hrest => scans_literalText (h v List.mem_cons_self) hrest
  | call f args ih =>
    refine scannedBack_call f fun a ha => ih a ha fun v hv => h v ?_
    exact literal_mem_nodes_call.2 ⟨a, ha, hv⟩
  | binary op l r ihl ihr =>
    exact scannedBack_binary op (ihl fun v hv => h v (literal_mem_nodes_binary.2 (Or.inl hv)))
      (ihr fun v hv => h v (literal_mem_nodes_binary.2 (Or.inr hv)))
  | unary op e ih =>
    exact scannedBack_unary op (ih fun v hv => h v (literal_mem_nodes_unary.2 hv))

/-- A minus sign changes no literal but a number. -/
theorem literal_of_mem_nodes_negated (h : .literal v ∈ (ExprParser.negated e).nodes) :
    .literal v ∈ e.nodes ∨ (∃ n, e = .literal (.integer n) ∧ v = .integer (-n)) ∨
      ∃ x, v = .float x := by
  unfold ExprParser.negated at h
  split at h
  · next n => exact Or.inr (Or.inl ⟨n, rfl, Expr.literal.inj (List.mem_singleton.1 h)⟩)
  · exact Or.inr (Or.inr ⟨_, Expr.literal.inj (List.mem_singleton.1 h)⟩)
  · exact Or.inl (literal_mem_nodes_unary.1 h)

/-- The literals that the tokens of a text derive can be written, floats apart. -/
theorem writable_of_derives {c : Catalog} {level : Level} {ts : List Token}
    (h : Derives c level ts e) (hts : ∀ t ∈ ts, t.Lexical) (hv : .literal v ∈ e.nodes)
    (hfloat : ∀ x, v ≠ .float x) : v.Writable := by
  induction h generalizing v with
  | operand h ih => exact ih hts hv hfloat
  | comparison h ih => exact ih hts hv hfloat
  | sum h ih => exact ih hts hv hfloat
  | primary h ih => exact ih hts hv hfloat
  | chain hl hop hr ihl ihr =>
    obtain ⟨hts, -, hus⟩ := forall_mem_append_cons.1 hts
    exact (literal_mem_nodes_binary.1 hv).elim (ihl hts · hfloat) (ihr hus · hfloat)
  | relation op hl hr ihl ihr =>
    obtain ⟨hts, -, hus⟩ := forall_mem_append_cons.1 hts
    exact (literal_mem_nodes_binary.1 hv).elim (ihl hts · hfloat) (ihr hus · hfloat)
  | not h ih => exact ih (List.forall_mem_cons.1 hts).2 (literal_mem_nodes_unary.1 hv) hfloat
  | minus h ih =>
    have hts := (List.forall_mem_cons.1 hts).2
    rcases literal_of_mem_nodes_negated hv with hv | ⟨n, rfl, rfl⟩ | ⟨x, rfl⟩
    · exact ih hts hv hfloat
    · -- the number without its sign is a literal of the text
      have hn : (Value.integer n).Writable := ih hts (self_mem_nodes _) fun x h => by cases h
      have hlt := n.toInt_lt
      rw [Value.Writable, Int64.toInt_neg_of_lt hn]
      omega
    · exact absurd rfl (hfloat x)
  | literal h =>
    obtain rfl := Expr.literal.inj (List.mem_singleton.1 hv)
    exact writable_of_denotes h (List.forall_mem_singleton.1 hts) hfloat
  | column ha => cases List.mem_singleton.1 hv
  | call hf args hargs ih =>
    obtain ⟨e, he, hv⟩ := literal_mem_nodes_call.1 hv
    obtain ⟨a, ha, rfl⟩ := List.mem_map.1 he
    refine ih a ha (fun t ht => hts t ?_) hv hfloat
    have hmem := (infix_commaSeparated (List.mem_map_of_mem ha)).subset ht
    exact List.mem_append_left _ (List.mem_cons_of_mem _ (List.mem_cons_of_mem _ hmem))
  | countStar hf hcount => cases List.mem_singleton.1 hv
  | parens h ih =>
    refine ih (fun t ht => hts t ?_) hv hfloat
    exact List.mem_append_left _ (List.mem_cons_of_mem _ ht)

end Expr

namespace Query

open Grammar

variable {c : Catalog} {q : Query} {e : Expr}

/-- The text of an expression of a query is scanned to its tokens, unless it holds a float. -/
theorem scannedBack_of_parse {text : String} (hq : Query.parse c text = .ok q)
    (he : (∃ p ∈ q.projections, p.expr = e) ∨ q.predicate = some e)
    (hfloat : ∀ x, .literal (.float x) ∉ e.nodes) : e.ScannedBack := by
  obtain ⟨ls, htokenize, hls⟩ := parse_eq_ok.1 hq
  obtain ⟨hderives, -⟩ := (ofLexemes_eq_ok (Scanner.token_ne_endOfText _ htokenize)).1 hls
  have hlexical : ∀ t ∈ ls.map Lexeme.token, t.Lexical :=
    List.forall_mem_map.2 (lexical_of_tokenize htokenize)
  rcases exists_derives_lexical hderives hlexical (mem_expressions.2 he) with
    ⟨a, rfl⟩ | ⟨us, hus, hderives⟩
  · exact Expr.scannedBack_column a
  · refine Expr.scannedBack_of_writable fun v hv => Expr.writable_of_derives hderives hus hv ?_
    rintro x rfl
    exact hfloat x hv

/-- A text whose tokens are refused is no expression of a query. -/
theorem exists_error_of_refused {text : String} {ts : List Token}
    (htext : Scanner.Scans text.toList ts " from .".toList) (h : Refused ts) :
    ∃ cause, Query.parse c ("select " ++ text ++ " from .") = .error cause := by
  cases hparse : Query.parse c ("select " ++ text ++ " from .") with
  | error cause => exact ⟨cause, rfl⟩
  | ok q =>
    obtain ⟨ls, htokenize, hls⟩ := parse_eq_ok.1 hparse
    obtain ⟨us, hus, htokens⟩ := tokenize_projecting htext
    obtain rfl := Except.ok.inj (htokenize.symm.trans hus)
    obtain ⟨hderives, -⟩ := (ofLexemes_eq_ok (Scanner.token_ne_endOfText _ htokenize)).1 hls
    rw [htokens] at hderives
    exact absurd hderives (not_derivesQuery_of_refused h [.word .selectWord] _ q)

/-- An expression of a query in which a comparison is directly left of another one is not read back
from its text, whatever the operators and the other operands are: the text between `select` and
`from .` is no query, and no query has the tokens of this text in any place. -/
theorem not_parses_toText {text : String} (hq : Query.parse c text = .ok q)
    (he : (∃ p ∈ q.projections, p.expr = e) ∨ q.predicate = some e)
    (hfloat : ∀ x, .literal (.float x) ∉ e.nodes) {op op' : Relation} {l r r' : Expr}
    (hchain : .binary (.relation op) (.binary (.relation op') l r) r' ∈ e.nodes) :
    (∃ cause, Query.parse c ("select " ++ e.toText ++ " from .") = .error cause) ∧
      ∀ us vs q', ¬DerivesQuery c (us ++ e.tokens ++ vs) q' := by
  have hrefused := Expr.refused_tokens ⟨op, op', l, r, r', rfl⟩ hchain
  have hscanned := scannedBack_of_parse hq he hfloat
  exact ⟨exists_error_of_refused (hscanned _ (Scanner.ends_blank _)) hrefused,
    not_derivesQuery_of_refused hrefused⟩

/-- The comparison `1 = 1`. -/
def onesEqual : Expr :=
  .binary (.relation .equal) (.literal (.integer 1)) (.literal (.integer 1))

/-- The comparison `(1 = 1) = true`. -/
def onesEqualTrue : Expr := .binary (.relation .equal) onesEqual (.literal (.boolean true))

theorem float_not_mem_onesEqualTrue (x : Binary64) :
    .literal (.float x) ∉ onesEqualTrue.nodes := by
  simp [onesEqualTrue, onesEqual, Expr.nodes]

/-- In a query the parentheses are written. -/
theorem parse_onesEqualTrue :
    Query.parse .standard "select (1 = 1) = true from ." = .ok (projecting onesEqualTrue) := by
  have hone : (Expr.literal (.integer 1)).Printable := .literal (by decide : (-2 ^ 63 : Int) < 1)
  have htrue : (Expr.literal (.boolean true)).Printable := .literal trivial
  have hequal : onesEqual.Printable := .binary hone hone (by simp)
  have hright := htrue.scannedBack _ (Scanner.ends_blank "from .".toList)
  have hblank := (Scanner.scans_blank (c := ' ') (by decide) _).append hright
  have hsymbol := (Expr.scans_symbol (.relation .equal) _).append hblank
  have hblank' := (Scanner.scans_blank (c := ' ') (by decide) _).append hsymbol
  have hscans := (hequal.scannedBack.parenthesized true (Scanner.ends_blank _)).append hblank'
  have htext : "(1 = 1) = true".toList = (Expr.parenthesize true onesEqual.toText).toList ++
      ([' '] ++ ("=".toList ++ ([' '] ++ "true".toList))) := by
    decide +kernel
  have hderives := Derives.relation .equal (derives_parens (s := 5) hequal.derives)
    (htrue.derivedBack 5 (by decide) (by decide))
  have hlegal : onesEqualTrue.Legal .standard := ⟨fun _ h => (nomatch h), fun _ h => (nomatch h)⟩
  have hparse : Query.parse .standard ("select " ++ "(1 = 1) = true" ++ " from .") =
      .ok (projecting onesEqualTrue) := by
    refine parse_projecting ?_ (.operand (.operand (.comparison hderives))) hlegal
    rw [htext]
    exact hscans
  exact hparse

/-- Without them the second comparison has no place. -/
theorem not_parses_toText_onesEqualTrue :
    Query.parse .standard "select (1 = 1) = true from ." = .ok (projecting onesEqualTrue) ∧
    (∃ cause, Query.parse .standard "select 1 = 1 = true from ." = .error cause) ∧
    ∀ q, ¬DerivesQuery .standard [.word .selectWord, .integer 1, .relation .equal, .integer 1,
      .relation .equal, .boolean true, .word .fromWord, .path "."] q := by
  obtain ⟨herror, hderives⟩ := not_parses_toText parse_onesEqualTrue
    (Or.inl ⟨_, List.mem_singleton_self _, rfl⟩) float_not_mem_onesEqualTrue
    (Expr.self_mem_nodes onesEqualTrue)
  have htext : onesEqualTrue.toText = "1 = 1 = true" := by decide +kernel
  rw [htext] at herror
  exact ⟨parse_onesEqualTrue, herror,
    hderives [.word .selectWord] [.word .fromWord, .path "."]⟩

/-- The parser returns `(1 = 1) = true`, which holds no float, but not for its text. -/
theorem parse_toText_onesEqualTrue :
    Query.parse .standard "select (1 = 1) = true from ." = .ok (projecting onesEqualTrue) ∧
    (∀ x, .literal (.float x) ∉ onesEqualTrue.nodes) ∧
    Query.parse .standard ("select " ++ onesEqualTrue.toText ++ " from .") ≠
      .ok (projecting onesEqualTrue) := by
  have hrefused : Refused onesEqualTrue.tokens :=
    Expr.refused_tokens ⟨_, _, _, _, _, rfl⟩ (Expr.self_mem_nodes onesEqualTrue)
  have hscanned := scannedBack_of_parse parse_onesEqualTrue
    (Or.inl ⟨_, List.mem_singleton_self _, rfl⟩) float_not_mem_onesEqualTrue
  obtain ⟨cause, hcause⟩ := exists_error_of_refused (c := .standard)
    (hscanned _ (Scanner.ends_blank _)) hrefused
  refine ⟨parse_onesEqualTrue, float_not_mem_onesEqualTrue, ?_⟩
  rw [hcause]
  exact fun h => by cases h

end Query

end FileQuery
