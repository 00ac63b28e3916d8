import FileQuery.Proofs.Query.Grammar

/-!
# Comparisons and their places

The grammar allows one comparison at a place: to compare the result of another one, that has to
stand in parentheses. This shows in the tokens alone. Whoever reads them remembers for the present
place whether it has a comparison already. An opening parenthesis begins a new place, a closing one
goes back to the old place, and commas and words begin the present one anew. A second comparison at
a place is refused, and whatever is derived by the grammar is read without a refusal.

## Main definitions

* `FileQuery.Grammar.Place`, `FileQuery.Grammar.Place.read`: reading tokens for comparisons.
* `FileQuery.Grammar.Refused`: tokens that are refused wherever they stand.

## Main results

* `FileQuery.Grammar.Derives.passes`: expressions are read without a refusal.
* `FileQuery.Grammar.DerivesQuery.resumes`: queries are, too.
* `FileQuery.Grammar.refused_relations`: two comparisons at one place are refused.
* `FileQuery.Grammar.not_derivesQuery_of_refused`: no query has refused tokens in any place.
-/

namespace FileQuery

open ExprParser (Chain)

namespace Grammar

/-! ### Reading tokens for comparisons -/

/-- The place that a reader of tokens has reached: whether it has a comparison, and the same for the
places in parentheses around it, the innermost first. -/
structure Place where
  compared : Bool
  outer : List Bool
  deriving DecidableEq

namespace Place

/-- The place behind one more token. -/
def next? (p : Place) : Token → Option Place
  | .leftParen => some ⟨false, p.compared :: p.outer⟩
  | .rightParen => p.outer.head?.map fun compared => ⟨compared, p.outer.tail⟩
  | .relation _ => if p.compared then none else some ⟨true, p.outer⟩
  | .comma => some ⟨false, p.outer⟩
  | .word _ => some ⟨false, p.outer⟩
  | _ => some p

/-- The place behind some tokens. -/
def read (p : Place) (ts : List Token) : Option Place := ts.foldlM next? p

variable {p : Place} {t : Token} {ts us : List Token}

theorem read_cons : p.read (t :: ts) = (p.next? t).bind fun p => p.read ts := List.foldlM_cons

theorem read_append : p.read (ts ++ us) = (p.read ts).bind fun p => p.read us := List.foldlM_append

theorem read_singleton : p.read [t] = p.next? t := by
  rw [read_cons]
  exact Option.bind_fun_some _

end Place

/-! ### Tokens that pass -/

/-- Tokens that lead back to where they begin. -/
def Keeps (ts : List Token) : Prop := ∀ p : Place, p.read ts = some p

/-- Tokens that may follow anything and stay in their place. -/
def Resumes (ts : List Token) : Prop :=
  ∀ b outer, ∃ b', Place.read ⟨b, outer⟩ ts = some ⟨b', outer⟩

/-- Tokens that may stand at the beginning of a place and stay in it. -/
def Fits (ts : List Token) : Prop :=
  ∀ outer, ∃ b, Place.read ⟨false, outer⟩ ts = some ⟨b, outer⟩

variable {ts us : List Token} {t : Token}

theorem Keeps.resumes (h : Keeps ts) : Resumes ts := fun b _ => ⟨b, h _⟩

theorem Resumes.fits (h : Resumes ts) : Fits ts := fun outer => h false outer

theorem keeps_nil : Keeps [] := fun _ => rfl

theorem Keeps.append (hts : Keeps ts) (hus : Keeps us) : Keeps (ts ++ us) := fun p => by
  rw [Place.read_append, hts, Option.bind_some, hus]

theorem Resumes.append (hts : Resumes ts) (hus : Resumes us) : Resumes (ts ++ us) := by
  intro b outer
  obtain ⟨b', hb'⟩ := hts b outer
  rw [Place.read_append, hb']
  exact hus b' outer

theorem Fits.append (hts : Fits ts) (hus : Resumes us) : Fits (ts ++ us) := by
  intro outer
  obtain ⟨b, hb⟩ := hts outer
  rw [Place.read_append, hb]
  exact hus b outer

/-- Behind a word or a comma a place begins anew. -/
theorem Fits.resumes_cons (ht : ∀ p : Place, p.next? t = some ⟨false, p.outer⟩) (h : Fits ts) :
    Resumes (t :: ts) := by
  intro b outer
  rw [Place.read_cons, ht]
  exact h outer

/-- Parentheses begin a place of their own and go back from it. -/
theorem Fits.keeps_parens (h : Fits ts) : Keeps (.leftParen :: ts ++ [.rightParen]) := by
  intro p
  obtain ⟨b, hb⟩ := h (p.compared :: p.outer)
  rw [List.cons_append, Place.read_cons, Place.next?, Option.bind_some, Place.read_append, hb]
  rfl

theorem fits_commaSeparated {parts : List (List Token)} (h : ∀ ts ∈ parts, Fits ts) :
    Fits (commaSeparated parts) := by
  induction parts with
  | nil => exact keeps_nil.resumes.fits
  | cons ts parts ih =>
    obtain ⟨hts, hparts⟩ := List.forall_mem_cons.1 h
    cases parts with
    | nil => rwa [commaSeparated_singleton]
    | cons us parts =>
      rw [commaSeparated_cons _ (List.cons_ne_nil _ _)]
      exact hts.append ((ih hparts).resumes_cons fun _ => rfl)

/-- What tokens of a level do: sums and all that is tighter hold no comparison outside of
parentheses. -/
def Passes : Level → List Token → Prop
  | .chain .disjunction | .chain .conjunction | .negation | .comparison => Fits
  | .chain .sum | .chain .product | .signed | .primary => Keeps

theorem Passes.fits {level : Level} (h : Passes level ts) : Fits ts := by
  rcases level with (_ | _ | _ | _) | _ | _ | _ | _
  case chain.sum | chain.product | signed | primary => exact Keeps.resumes h |>.fits
  all_goals exact h

theorem Passes.operand {k : Chain} (h : Passes (operandLevel k) ts) : Passes (.chain k) ts := by
  cases k with
  | disjunction => exact h
  | conjunction => exact h
  | sum => exact h
  | product => exact h

theorem Passes.chain {k : Chain} {op : BinaryOp} (hl : Passes (.chain k) ts) (hop : Operates k t op)
    (hr : Passes (operandLevel k) us) : Passes (.chain k) (ts ++ t :: us) := by
  cases hop with
  | or => exact Fits.append hl (Fits.resumes_cons (fun _ => rfl) hr)
  | and => exact Fits.append hl (Fits.resumes_cons (fun _ => rfl) hr)
  | _ => exact Keeps.append hl hr

/-- What is derived is read without a refusal. -/
theorem Derives.passes {c : Catalog} {level : Level} {e : Expr} (h : Derives c level ts e) :
    Passes level ts := by
  induction h with
  | operand h ih => exact ih.operand
  | chain hl hop hr ihl ihr => exact ihl.chain hop ihr
  | not h ih => exact (Fits.resumes_cons (fun _ => rfl) ih).fits
  | comparison h ih => exact ih
  | sum h ih => exact Passes.fits ih
  | @relation ts us l r op hl hr ihl ihr =>
    intro outer
    refine ⟨true, ?_⟩
    rw [Place.read_append, ihl, Option.bind_some, Place.read_cons, Place.next?]
    exact ihr ⟨true, outer⟩
  | minus h ih => exact ih
  | primary h ih => exact ih
  | literal h =>
    intro p
    rw [Place.read_singleton]
    cases h <;> rfl
  | column ha => exact fun p => rfl
  | call hf args hargs ih =>
    refine Fits.keeps_parens (fits_commaSeparated fun us hus => ?_)
    obtain ⟨a, ha, rfl⟩ := List.mem_map.1 hus
    exact ih a ha
  | countStar hf hcount => exact fun p => rfl
  | parens h ih => exact Fits.keeps_parens ih

/-! ### Queries pass -/

variable {c : Catalog}

theorem Item.fits {ps : List Projection} (h : Item c ts ps) : Fits ts := by
  cases h with
  | defaults => exact Keeps.resumes (fun _ => rfl) |>.fits
  | plain h => exact h.passes
  | @named ts e h t name ht =>
    have hname : Keeps [t] := by
      rcases ht with rfl | rfl
      · exact fun _ => rfl
      · exact fun _ => rfl
    exact Fits.append h.passes (hname.resumes.fits.resumes_cons fun _ => rfl)

theorem WhereClause.resumes {e? : Option Expr} (h : WhereClause c ts e?) : Resumes ts := by
  cases h with
  | absent => exact keeps_nil.resumes
  | present h => exact Fits.resumes_cons (fun _ => rfl) h.passes

theorem Key.fits {k : OrderKey} (h : Key ts k) : Fits ts := by
  cases h with
  | plain n => exact fun outer => ⟨false, rfl⟩
  | ascending n => exact fun outer => ⟨false, rfl⟩
  | descending n => exact fun outer => ⟨false, rfl⟩

theorem OrderClause.resumes {keys : List OrderKey} (h : OrderClause ts keys) : Resumes ts := by
  cases h with
  | absent => exact keeps_nil.resumes
  | present keys hkeys h =>
    have hparts : Fits (commaSeparated (keys.map Prod.fst)) := by
      refine fits_commaSeparated fun us hus => ?_
      obtain ⟨k, hk, rfl⟩ := List.mem_map.1 hus
      exact (h k hk).fits
    exact Fits.resumes_cons (fun _ => rfl) (hparts.resumes_cons fun _ => rfl).fits

theorem LimitClause.resumes {limit : Option Nat} (h : LimitClause ts limit) : Resumes ts := by
  cases h with
  | absent => exact keeps_nil.resumes
  | present n h => exact fun b outer => ⟨false, rfl⟩

/-- A query is read without a refusal. -/
theorem DerivesQuery.resumes {q : Query} (h : DerivesQuery c ts q) : Resumes ts := by
  obtain ⟨items, hne, hitems, ht, hwhere, horder, hlimit⟩ := h
  rename_i t source ts us vs predicate keys limit
  have hparts : Fits (commaSeparated (items.map Prod.fst)) := by
    refine fits_commaSeparated fun us hus => ?_
    obtain ⟨i, hi, rfl⟩ := List.mem_map.1 hus
    exact (hitems i hi).fits
  have hsource : Keeps [t] := by
    rcases ht with rfl | rfl
    · exact fun _ => rfl
    · exact fun _ => rfl
  have hselect : Resumes (.word .selectWord :: commaSeparated (items.map Prod.fst)) :=
    hparts.resumes_cons fun _ => rfl
  have hfrom : Resumes [.word .fromWord, t] := hsource.resumes.fits.resumes_cons fun _ => rfl
  have hquery := ((hselect.append (hfrom.append hwhere.resumes)).append horder.resumes).append
    hlimit.resumes
  simpa using hquery

/-! ### What is preserved unless tokens are refused -/

/-- Something about the place is the same before and behind some tokens, unless they are refused. -/
def Preserves {α : Type} (f : Place → α) (ts : List Token) : Prop :=
  ∀ p p' : Place, p.read ts = some p' → f p' = f p

section Preserves

variable {α : Type} {f : Place → α}

theorem Preserves.append (hts : Preserves f ts) (hus : Preserves f us) :
    Preserves f (ts ++ us) := by
  intro p p' hp
  rw [Place.read_append, Option.bind_eq_some_iff] at hp
  obtain ⟨m, hm, hp⟩ := hp
  rw [hus m p' hp, hts p m hm]

theorem Preserves.of_id (h : Preserves id ts) : Preserves f ts := fun p p' hp => by
  rw [show p' = p from h p p' hp]

theorem Keeps.preserves (h : Keeps ts) : Preserves f ts := fun p p' hp => by
  rw [Option.some.inj (hp.symm.trans (h p))]

/-- Words, commas and comparisons stay within the parentheses around them. -/
theorem preserves_outer (ht : ∀ p p' : Place, p.next? t = some p' → p'.outer = p.outer) :
    Preserves Place.outer [t] := fun p p' hp => ht p p' (Place.read_singleton.symm.trans hp)

/-- Tokens in parentheses lead back to where they begin. -/
theorem Preserves.parens (h : Preserves Place.outer ts) :
    Preserves id (.leftParen :: ts ++ [.rightParen]) := by
  intro p p' hp
  rw [List.cons_append, Place.read_cons, Place.next?, Option.bind_some, Place.read_append,
    Option.bind_eq_some_iff] at hp
  obtain ⟨m, hm, hp⟩ := hp
  have houter := h _ m hm
  rw [Place.read_singleton, Place.next?, houter] at hp
  exact (Option.some.inj hp).symm

theorem preserves_commaSeparated {parts : List (List Token)}
    (h : ∀ ts ∈ parts, Preserves Place.outer ts) :
    Preserves Place.outer (commaSeparated parts) := by
  induction parts with
  | nil => exact keeps_nil.preserves
  | cons ts parts ih =>
    obtain ⟨hts, hparts⟩ := List.forall_mem_cons.1 h
    cases parts with
    | nil => rwa [commaSeparated_singleton]
    | cons us parts =>
      have hcomma : Preserves Place.outer [.comma] :=
        preserves_outer fun p p' hp => by rw [← Option.some.inj hp]
      rw [commaSeparated_cons _ (List.cons_ne_nil _ _)]
      exact hts.append (hcomma.append (ih hparts))

end Preserves

/-! ### Tokens that are refused -/

/-- Tokens that are refused wherever they stand. -/
def Refused (ts : List Token) : Prop := ∀ p : Place, p.read ts = none

theorem Refused.append_right (h : Refused ts) (us : List Token) : Refused (ts ++ us) := fun p => by
  rw [Place.read_append, h, Option.bind_none]

theorem Refused.append_left (us : List Token) (h : Refused ts) : Refused (us ++ ts) := fun p => by
  rw [Place.read_append, Option.bind_eq_none_iff]
  exact fun _ _ => h _

theorem Refused.cons (t : Token) (h : Refused ts) : Refused (t :: ts) := h.append_left [t]

/-- Two comparisons are refused if what is between them leads back to where it begins. -/
theorem refused_relations (op op' : Relation) (h : Preserves id ts) :
    Refused (.relation op' :: ts ++ [.relation op]) := by
  intro p
  rw [List.cons_append, Place.read_cons, Option.bind_eq_none_iff]
  intro m hm
  have hcompared : m.compared = true := by
    rw [Place.next?] at hm
    split at hm
    · cases hm
    · rw [← Option.some.inj hm]
  rw [Place.read_append, Option.bind_eq_none_iff]
  intro n hn
  rw [show n = m from h m n hn, Place.read_singleton, Place.next?, if_pos hcompared]

theorem refused_commaSeparated {parts : List (List Token)} (h : Refused ts) (hts : ts ∈ parts) :
    Refused (commaSeparated parts) := by
  induction parts with
  | nil => cases hts
  | cons us parts ih =>
    cases parts with
    | nil =>
      rw [commaSeparated_singleton, ← List.mem_singleton.1 hts]
      exact h
    | cons vs parts =>
      rw [commaSeparated_cons _ (List.cons_ne_nil _ _)]
      rcases List.mem_cons.1 hts with rfl | hts
      · exact h.append_right _
      · exact ((ih hts).cons _).append_left _

/-- A query has nothing that is refused in any place. -/
theorem not_derivesQuery_of_refused (h : Refused ts) (us vs : List Token) (q : Query) :
    ¬DerivesQuery c (us ++ ts ++ vs) q := by
  intro hquery
  obtain ⟨b, hb⟩ := hquery.resumes false []
  rw [(h.append_left us).append_right vs] at hb
  cases hb

end Grammar

end FileQuery
