import FileQuery.Proofs.Query.Completeness
import FileQuery.Proofs.Query.Soundness

/-!
# Projections and order keys

The projection list and the keys to order by are lists with commas between their items. What is read
of them is derivable, and what is derivable is read if it is followed by the keyword that may follow
it.

## Main results

* `FileQuery.Parser.derives_of_projections`, `FileQuery.Parser.projections_reads`.
* `FileQuery.Parser.derives_of_orderKeys`, `FileQuery.Parser.orderKeys_reads`.
-/

namespace FileQuery

namespace Parser

open Grammar ExprParser

variable {s : Scope} {ts r : List Lexeme} {l : Lexeme}

/-! ### Names of projections -/

theorem label_nil_reads {name : Option String} :
    (label s []).Reads name r ↔ none = name ∧ [] = r := by
  rw [label, Parsed.reads_done]

theorem label_absent_reads {name : Option String} (hl : l.token ≠ .word .asWord) :
    (label s (l :: ts)).Reads name r ↔ none = name ∧ l :: ts = r := by
  rw [label, if_neg hl, Parsed.reads_done]

theorem label_present_reads {name : Option String} (hl : l.token = .word .asWord) :
    (label s (l :: ts)).Reads name r ↔
      ∃ t n, ts = t :: r ∧ (t.token = .identifier n ∨ t.token = .string n) ∧ some n = name := by
  rw [label, if_pos hl]
  cases ts with
  | nil => simp [Scope.front, Lexeme.endAt]
  | cons t ts =>
    obtain ⟨token, text, p⟩ := t
    cases token <;> simp [Scope.front, and_comm]

/-! ### Items -/

theorem projection_star_reads {ps : List Projection} (hl : l.token = .star) :
    (projection s (l :: ts)).Reads ps r ↔
      s.catalog.defaultColumns.map (fun e => ⟨.column e.subject, none⟩) = ps ∧ ts = r := by
  rw [projection, if_pos hl, Parsed.reads_done]

theorem projection_expr_reads {ps : List Projection} (hstar : l.token ≠ .star) :
    (projection s (l :: ts)).Reads ps r ↔ l.token.startsExpression = true ∧
      ∃ e us name, (chain s .disjunction (l :: ts)).Reads e us ∧ (label s us).Reads name r ∧
        [⟨e, name⟩] = ps := by
  rw [projection, if_neg hstar]
  split
  · next hstart =>
    simp only [hstart, true_and]
    cases chain s .disjunction (l :: ts) with
    | failed err us => simp
    | done e us h => simp [and_assoc]
  · next hstart => simp [hstart]

theorem derives_of_label {name : Option String} (h : (label s ts).Reads name r) :
    (name = none ∧ ts = r) ∨ ∃ l t n, ts = l :: t :: r ∧ l.token = .word .asWord ∧
      (t.token = .identifier n ∨ t.token = .string n) ∧ name = some n := by
  match ts with
  | [] =>
    obtain ⟨rfl, rfl⟩ := label_nil_reads.1 h
    exact Or.inl ⟨rfl, rfl⟩
  | l :: ts =>
    by_cases hl : l.token = .word .asWord
    · obtain ⟨t, n, rfl, ht, rfl⟩ := (label_present_reads hl).1 h
      exact Or.inr ⟨l, t, n, rfl, hl, ht, rfl⟩
    · obtain ⟨rfl, rfl⟩ := (label_absent_reads hl).1 h
      exact Or.inl ⟨rfl, rfl⟩

/-- An item that is read is derivable and legal. -/
theorem derives_of_projection {ps : List Projection} (h : (projection s ts).Reads ps r) :
    ∃ us, ts = us ++ r ∧ Item s.catalog (us.map Lexeme.token) ps ∧
      ∀ p ∈ ps, s.Admits p.expr := by
  match ts with
  | [] =>
    rw [projection] at h
    exact absurd h Parsed.not_reads_failed
  | l :: ts =>
    by_cases hstar : l.token = .star
    · obtain ⟨rfl, rfl⟩ := (projection_star_reads hstar).1 h
      refine ⟨[l], rfl, ?_, ?_⟩
      · rw [List.map_singleton, hstar]
        exact .defaults
      · intro p hp
        obtain ⟨e, -, rfl⟩ := List.mem_map.1 hp
        exact Scope.admits_column _
    · obtain ⟨-, e, vs, name, he, hname, rfl⟩ := (projection_expr_reads hstar).1 h
      obtain ⟨us, hus, hderives, hadmits⟩ := sound _ s (.chain .disjunction) _ e vs
        (Nat.le_refl _) he
      rcases derives_of_label hname with ⟨rfl, rfl⟩ | ⟨a, t, n, rfl, ha, ht, rfl⟩
      · exact ⟨us, hus, .plain hderives, List.forall_mem_singleton.2 hadmits⟩
      · refine ⟨us ++ [a, t], by rw [hus]; simp, ?_, List.forall_mem_singleton.2 hadmits⟩
        rw [List.map_append, List.map_cons, List.map_singleton, ha]
        exact .named hderives ht

/-- A derivable and legal item is read in front of a comma or of the source. -/
theorem projection_reads {us : List Lexeme} {ps : List Projection}
    (h : Item s.catalog (us.map Lexeme.token) ps) (hadmits : ∀ p ∈ ps, s.Admits p.expr)
    (hl : l.token = .comma ∨ l.token = .word .fromWord) :
    (projection s (us ++ l :: r)).Reads ps (l :: r) := by
  have hstop : Stops (.chain .disjunction) (l :: r) := by
    rw [stops_cons]
    rcases hl with hl | hl <;> rw [hl] <;> decide
  have hlabel : l.token ≠ .word .asWord := by
    rcases hl with hl | hl <;> rw [hl] <;> decide
  generalize hvs : us.map Lexeme.token = vs at h
  cases h with
  | defaults =>
    obtain ⟨o, us, rfl, ho, hnil⟩ := List.map_eq_cons_iff.1 hvs
    obtain rfl := List.map_eq_nil_iff.1 hnil
    exact (projection_star_reads ho).2 ⟨rfl, rfl⟩
  | @plain _ e h =>
    subst hvs
    obtain ⟨t, vs, hus, hstart, -⟩ := derives_head h
    obtain ⟨o, us, rfl, rfl, -⟩ := List.map_eq_cons_iff.1 hus
    have hstar : o.token ≠ .star := by
      intro ho
      rw [ho] at hstart
      cases hstart
    exact (projection_expr_reads hstar).2 ⟨hstart, e, l :: r, none,
      reads_of_derives h (hadmits _ (List.mem_singleton.2 rfl)) hstop,
      (label_absent_reads hlabel).2 ⟨rfl, rfl⟩, rfl⟩
  | @named _ e h t name ht =>
    obtain ⟨us, qs, rfl, rfl, hqs⟩ := List.map_eq_append_iff.1 hvs
    obtain ⟨a, qs, rfl, ha, hqs⟩ := List.map_eq_cons_iff.1 hqs
    obtain ⟨o, qs, rfl, rfl, hnil⟩ := List.map_eq_cons_iff.1 hqs
    obtain rfl := List.map_eq_nil_iff.1 hnil
    obtain ⟨t, vs, hus, hstart, -⟩ := derives_head h
    obtain ⟨f, us, rfl, rfl, -⟩ := List.map_eq_cons_iff.1 hus
    have hstar : f.token ≠ .star := by
      intro hf
      rw [hf] at hstart
      cases hstart
    have hstop' : Stops (.chain .disjunction) (a :: o :: l :: r) := by
      rw [stops_cons, ha]
      decide
    rw [List.append_assoc]
    exact (projection_expr_reads hstar).2 ⟨hstart, e, a :: o :: l :: r, some name,
      reads_of_derives h (hadmits _ (List.mem_singleton.2 rfl)) hstop',
      (label_present_reads ha).2 ⟨o, name, rfl, ht, rfl⟩, rfl⟩

/-! ### The projection list -/

theorem projections_law {ps : List Projection} : (projections s ts).Reads ps r ↔
    ∃ qs l us, (projection s ts).Reads qs (l :: us) ∧
      ((l.token = .comma ∧ ∃ rs, (projections s us).Reads rs r ∧ qs ++ rs = ps) ∨
        (l.token = .word .fromWord ∧ qs = ps ∧ l :: us = r)) := by
  rw [projections]
  cases projection s ts with
  | failed err us => simp
  | done qs us h =>
    match us with
    | [] => simp
    | ⟨t, text, p⟩ :: vs =>
      simp only [Parsed.reads_done, List.cons.injEq, and_assoc, exists_and_left, exists_eq_left']
      cases t with
      | word k => cases k <;> simp
      | _ => simp

/-- A projection list that is read is derivable and legal, and `from` is ahead. -/
theorem derives_of_projections {ps : List Projection} (h : (projections s ts).Reads ps r) :
    ∃ (items : List (List Token × List Projection)) (us : List Lexeme) (l : Lexeme)
      (r' : List Lexeme), items ≠ [] ∧ ts = us ++ r ∧
      us.map Lexeme.token = commaSeparated (items.map Prod.fst) ∧ items.flatMap Prod.snd = ps ∧
      (∀ i ∈ items, Item s.catalog i.1 i.2) ∧ (∀ p ∈ ps, s.Admits p.expr) ∧
      r = l :: r' ∧ l.token = .word .fromWord := by
  induction hn : ts.length using Nat.strongRecOn generalizing ts ps with
  | ind n ih =>
    obtain ⟨qs, l, vs, hqs, hrest⟩ := projections_law.1 h
    have hshorter := hqs.shorter
    rw [List.length_cons] at hshorter
    obtain ⟨us, rfl, hitem, hadmits⟩ := derives_of_projection hqs
    rcases hrest with ⟨hl, rs, hrs, rfl⟩ | ⟨hl, rfl, rfl⟩
    · obtain ⟨items, ws, o, r', hne, rfl, hws, rfl, hitems, hlegal, rfl, ho⟩ :=
        ih vs.length (by omega) hrs rfl
      refine ⟨(us.map Lexeme.token, qs) :: items, us ++ l :: ws, o, r', by simp, by simp, ?_, rfl,
        List.forall_mem_cons.2 ⟨hitem, hitems⟩, List.forall_mem_append.2 ⟨hadmits, hlegal⟩, rfl,
        ho⟩
      rw [List.map_append, List.map_cons, hl, hws, List.map_cons,
        commaSeparated_cons _ (by simpa using hne)]
    · refine ⟨[(us.map Lexeme.token, qs)], us, l, vs, by simp, rfl, ?_, by simp,
        List.forall_mem_singleton.2 hitem, hadmits, rfl, hl⟩
      rw [List.map_singleton, commaSeparated_singleton]

/-- A derivable and legal projection list is read in front of the source. -/
theorem projections_reads {items : List (List Token × List Projection)} (hne : items ≠ [])
    (h : ∀ i ∈ items, Item s.catalog i.1 i.2)
    (hadmits : ∀ p ∈ items.flatMap Prod.snd, s.Admits p.expr) {us : List Lexeme}
    (hus : us.map Lexeme.token = commaSeparated (items.map Prod.fst))
    (hl : l.token = .word .fromWord) :
    (projections s (us ++ l :: r)).Reads (items.flatMap Prod.snd) (l :: r) := by
  induction items generalizing us with
  | nil => exact absurd rfl hne
  | cons i items ih =>
    obtain ⟨hi, hitems⟩ := List.forall_mem_cons.1 h
    rw [List.flatMap_cons, List.forall_mem_append] at hadmits
    by_cases hnil : items = []
    · subst hnil
      rw [List.map_singleton, commaSeparated_singleton] at hus
      rw [← hus] at hi
      refine projections_law.2 ⟨i.2, l, r, projection_reads hi hadmits.1 (Or.inr hl),
        Or.inr ⟨hl, by simp, rfl⟩⟩
    · rw [List.map_cons, commaSeparated_cons _ (by simpa using hnil)] at hus
      obtain ⟨us, ps, rfl, hfirst, hps⟩ := List.map_eq_append_iff.1 hus
      obtain ⟨p, ps, rfl, hp, hps⟩ := List.map_eq_cons_iff.1 hps
      rw [← hfirst] at hi
      rw [List.append_assoc]
      exact projections_law.2 ⟨i.2, p, ps ++ l :: r, projection_reads hi hadmits.1 (Or.inl hp),
        Or.inl ⟨hp, _, ih hnil hitems hadmits.2 hps, rfl⟩⟩

/-! ### Order keys -/

/-- A direction is taken off the front if there is one. -/
theorem key_of_direction (n : Int64) (ts : List Lexeme) : ∃ us, ts = us ++ (direction ts).2 ∧
    Key (.integer n :: us.map Lexeme.token) ⟨n.toInt.toNat, (direction ts).1⟩ := by
  match ts with
  | [] => exact ⟨[], rfl, .plain n⟩
  | l :: ts =>
    rw [direction]
    split
    · next hl =>
      refine ⟨[l], rfl, ?_⟩
      rw [List.map_singleton, hl]
      exact .ascending n
    · next hl =>
      refine ⟨[l], rfl, ?_⟩
      rw [List.map_singleton, hl]
      exact .descending n
    · exact ⟨[], rfl, .plain n⟩

/-- Whether no direction is ahead. -/
def NoDirection (r : List Lexeme) : Prop :=
  ∀ l ∈ r.head?, l.token ≠ .word .ascWord ∧ l.token ≠ .word .descWord

theorem direction_of_noDirection (h : NoDirection r) : direction r = (.ascending, r) := by
  match r with
  | [] => rfl
  | l :: r =>
    obtain ⟨hasc, hdesc⟩ := h l rfl
    rw [direction]
    split
    · next hl => exact absurd hl hasc
    · next hl => exact absurd hl hdesc
    · rfl

theorem direction_of_key {us : List Lexeme} {k : OrderKey} (h : Key (us.map Lexeme.token) k)
    (hr : NoDirection r) : ∃ o vs n, us = o :: vs ∧ o.token = .integer n ∧
      k.column = n.toInt.toNat ∧ direction (vs ++ r) = (k.direction, r) := by
  generalize hts : us.map Lexeme.token = ts at h
  cases h with
  | plain n =>
    obtain ⟨o, us, rfl, ho, hnil⟩ := List.map_eq_cons_iff.1 hts
    obtain rfl := List.map_eq_nil_iff.1 hnil
    exact ⟨o, [], n, rfl, ho, rfl, direction_of_noDirection hr⟩
  | ascending n =>
    obtain ⟨o, us, rfl, ho, hus⟩ := List.map_eq_cons_iff.1 hts
    obtain ⟨d, us, rfl, hd, hnil⟩ := List.map_eq_cons_iff.1 hus
    obtain rfl := List.map_eq_nil_iff.1 hnil
    refine ⟨o, [d], n, rfl, ho, rfl, ?_⟩
    rw [List.singleton_append, direction, hd]
  | descending n =>
    obtain ⟨o, us, rfl, ho, hus⟩ := List.map_eq_cons_iff.1 hts
    obtain ⟨d, us, rfl, hd, hnil⟩ := List.map_eq_cons_iff.1 hus
    obtain rfl := List.map_eq_nil_iff.1 hnil
    refine ⟨o, [d], n, rfl, ho, rfl, ?_⟩
    rw [List.singleton_append, direction, hd]

variable {columns : Nat} {keys : List OrderKey}

theorem not_orderKeys_reads (hl : ∀ n, l.token ≠ .integer n) :
    ¬(orderKeys columns s (l :: ts)).Reads keys r := by
  rw [orderKeys]
  split
  · next n hn => exact absurd hn (hl n)
  · exact Parsed.not_reads_failed

theorem orderKeys_law {n : Int64} (hl : l.token = .integer n) :
    (orderKeys columns s (l :: ts)).Reads keys r ↔ (1 ≤ n.toInt ∧ n.toInt ≤ columns) ∧
      ((∃ p us, (direction ts).2 = p :: us ∧ p.token = .comma ∧
          ∃ ks, (orderKeys columns s us).Reads ks r ∧
            ⟨n.toInt.toNat, (direction ts).1⟩ :: ks = keys) ∨
        ((∀ p ∈ (direction ts).2.head?, p.token ≠ .comma ∧ ∀ m, p.token ≠ .integer m) ∧
          [⟨n.toInt.toNat, (direction ts).1⟩] = keys ∧ (direction ts).2 = r)) := by
  rw [orderKeys]
  split
  · next m hm =>
    obtain rfl : m = n := Token.integer.inj (hm.symm.trans hl)
    split
    · next hrange =>
      refine iff_of_false Parsed.not_reads_failed fun h => ?_
      have := h.1
      omega
    · next hrange =>
      rw [and_iff_right (by omega)]
      dsimp only
      split
      · next hnil => simp [hnil]
      · next p us hcons =>
        obtain ⟨t, text, q⟩ := p
        cases t <;> simp [hcons]
  · next hne => exact absurd hl (hne n)

/-- Order keys that are read are derivable and columns. -/
theorem derives_of_orderKeys (h : (orderKeys columns s ts).Reads keys r) :
    ∃ (ks : List (List Token × OrderKey)) (us : List Lexeme), ks ≠ [] ∧ ts = us ++ r ∧
      us.map Lexeme.token = commaSeparated (ks.map Prod.fst) ∧ ks.map Prod.snd = keys ∧
      (∀ k ∈ ks, Key k.1 k.2) ∧ ∀ k ∈ keys, 1 ≤ k.column ∧ k.column ≤ columns := by
  induction hn : ts.length using Nat.strongRecOn generalizing ts keys with
  | ind n ih =>
    match ts with
    | [] =>
      rw [orderKeys] at h
      exact absurd h Parsed.not_reads_failed
    | l :: ts =>
      by_cases hl : ∃ n, l.token = .integer n
      · obtain ⟨m, hl⟩ := hl
        obtain ⟨hrange, hrest⟩ := (orderKeys_law hl).1 h
        have hcolumn : 1 ≤ m.toInt.toNat ∧ m.toInt.toNat ≤ columns := by omega
        obtain ⟨us, hts, hkey⟩ := key_of_direction m ts
        rcases hrest with ⟨p, vs, hvs, hp, ks, hks, rfl⟩ | ⟨-, rfl, rfl⟩
        · have hlength := congrArg List.length hts
          rw [hvs, List.length_append, List.length_cons] at hlength
          rw [List.length_cons] at hn
          obtain ⟨parts, ws, hne, rfl, hws, rfl, hkeys, hcolumns⟩ :=
            ih vs.length (by omega) hks rfl
          refine ⟨(_, _) :: parts, l :: us ++ p :: ws, by simp, ?_, ?_, rfl,
            List.forall_mem_cons.2 ⟨hkey, hkeys⟩, List.forall_mem_cons.2 ⟨hcolumn, hcolumns⟩⟩
          · rw [hts, hvs]
            simp
          · rw [List.map_append, List.map_cons, List.map_cons, hl, hp, hws, List.map_cons,
              commaSeparated_cons _ (by simpa using hne)]
        · refine ⟨[(_, _)], l :: us, by simp, congrArg (l :: ·) hts, ?_, rfl,
            List.forall_mem_singleton.2 hkey, List.forall_mem_singleton.2 hcolumn⟩
          rw [List.map_singleton, commaSeparated_singleton, List.map_cons, hl]
      · exact absurd h (not_orderKeys_reads fun n hn => hl ⟨n, hn⟩)

/-- Derivable order keys that are columns are read in front of what does not go on with them. -/
theorem orderKeys_reads {ks : List (List Token × OrderKey)} (hne : ks ≠ [])
    (h : ∀ k ∈ ks, Key k.1 k.2)
    (hcolumns : ∀ k ∈ ks.map Prod.snd, 1 ≤ k.column ∧ k.column ≤ columns) {us : List Lexeme}
    (hus : us.map Lexeme.token = commaSeparated (ks.map Prod.fst)) (hr : NoDirection r)
    (hstop : ∀ p ∈ r.head?, p.token ≠ .comma ∧ ∀ m, p.token ≠ .integer m) :
    (orderKeys columns s (us ++ r)).Reads (ks.map Prod.snd) r := by
  induction ks generalizing us with
  | nil => exact absurd rfl hne
  | cons k ks ih =>
    obtain ⟨hk, hks⟩ := List.forall_mem_cons.1 h
    rw [List.map_cons] at hcolumns
    obtain ⟨hcolumn, hcolumns⟩ := List.forall_mem_cons.1 hcolumns
    by_cases hnil : ks = []
    · subst hnil
      rw [List.map_singleton, commaSeparated_singleton] at hus
      rw [← hus] at hk
      obtain ⟨o, vs, n, rfl, ho, hn, hdirection⟩ := direction_of_key hk hr
      rw [List.cons_append]
      refine (orderKeys_law ho).2 ⟨by omega, Or.inr ?_⟩
      rw [hdirection, ← hn]
      exact ⟨hstop, rfl, rfl⟩
    · rw [List.map_cons, commaSeparated_cons _ (by simpa using hnil)] at hus
      obtain ⟨us, ps, rfl, hfirst, hps⟩ := List.map_eq_append_iff.1 hus
      obtain ⟨p, ps, rfl, hp, hps⟩ := List.map_eq_cons_iff.1 hps
      rw [← hfirst] at hk
      have hcomma : NoDirection (p :: ps ++ r) := by
        intro l hl
        obtain rfl := Option.some.inj hl
        rw [hp]
        decide
      obtain ⟨o, vs, n, rfl, ho, hn, hdirection⟩ := direction_of_key hk hcomma
      rw [List.append_assoc, List.cons_append]
      refine (orderKeys_law ho).2 ⟨by omega, Or.inl ⟨p, ps ++ r, ?_, hp, _,
        ih hnil hks hcolumns hps, ?_⟩⟩
      · rw [hdirection]
        rfl
      · rw [hdirection, ← hn, List.map_cons]

end Parser

end FileQuery
