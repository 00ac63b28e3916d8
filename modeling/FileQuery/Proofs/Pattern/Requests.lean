import Mathlib.Data.List.Induction
import FileQuery.Pattern.Cache

/-!
# What a cache holds after requests

A request is answered as if there were no cache. It adds at most its own text, and only one that
compiles, that the cache does not have, and for which there is room. So the contents are known from
the texts that were asked for: after any requests a cache holds the first 64 different texts among
them that compile, each with what it compiles to.

## Main definitions

* `FileQuery.CompileCache.keys`: the texts that are kept, in the order in which they came.
* `FileQuery.CompileCache.validTexts`: the different texts that compile.
* `FileQuery.CompileCache.after`: the cache after requests from the beginning.

## Main results

* `FileQuery.CompileCache.request_cases`: what one request does.
* `FileQuery.CompileCache.keys_after`: the texts that are kept after any requests.
* `FileQuery.CompileCache.request_exact`: answers and contents.
-/

namespace FileQuery

/-- The first `n` different items of a list: one more item is one of them only if it is new and
there is room for it. -/
theorem take_eraseDups_concat {α : Type} [BEq α] [LawfulBEq α] (n : Nat) (xs : List α) (x : α) :
    ((xs ++ [x]).eraseDups.take n = xs.eraseDups.take n ∧
        (x ∈ xs.eraseDups.take n ∨ (xs.eraseDups.take n).length = n)) ∨
      ((xs ++ [x]).eraseDups.take n = xs.eraseDups.take n ++ [x] ∧
        x ∉ xs.eraseDups.take n ∧ (xs.eraseDups.take n).length < n) := by
  rw [List.eraseDups_append]
  by_cases hfull : n ≤ xs.eraseDups.length
  · exact Or.inl ⟨List.take_append_of_le_length hfull, Or.inr (List.length_take_of_le hfull)⟩
  · have htake : xs.eraseDups.take n = xs.eraseDups := List.take_of_length_le (by omega)
    rw [htake]
    by_cases hx : x ∈ xs
    · have hnone : [x].removeAll xs = [] := by simp [List.removeAll, hx]
      rw [hnone, List.eraseDups_nil, List.append_nil, htake]
      exact Or.inl ⟨rfl, Or.inl (List.mem_eraseDups.2 hx)⟩
    · have hnew : [x].removeAll xs = [x] := by simp [List.removeAll, hx]
      have hsingle : [x].eraseDups = [x] := by
        rw [List.eraseDups_cons, List.filter_nil, List.eraseDups_nil]
      rw [hnew, hsingle, List.take_of_length_le]
      · exact Or.inr ⟨rfl, fun hmem => hx (List.mem_eraseDups.1 hmem), by omega⟩
      · rw [List.length_append, List.length_singleton]
        omega

namespace CompileCache

variable {ε α : Type} {compile : String → Except ε α}

/-- The texts that are kept, in the order in which they came. -/
def keys (c : CompileCache compile) : List String := (c.entries.map Prod.fst).reverse

/-- The different texts of a list that compile, each where it comes first. -/
def validTexts (compile : String → Except ε α) (texts : List String) : List String :=
  (texts.filter fun text => (compile text).isOk).eraseDups

theorem length_keys (c : CompileCache compile) : c.keys.length = c.size := by
  rw [keys, List.length_reverse, List.length_map, size]

theorem mem_keys_of_find? {c : CompileCache compile} {text : String} {a : α}
    (h : c.find? text = some a) : text ∈ c.keys := by
  obtain ⟨e, he, -⟩ := Option.map_eq_some_iff.1 h
  have hkey := List.find?_some he
  exact List.mem_reverse.2 (List.mem_map.2 ⟨e, List.mem_of_find?_eq_some he, beq_iff_eq.1 hkey⟩)

/-! ### One request -/

/-- A request is answered by what the text compiles to. The cache stays as it is if it has the text,
if the text does not compile, or if it is full; otherwise the text is added. -/
theorem request_cases (c : CompileCache compile) (text : String) :
    (c.request text).1 = compile text ∧
      (((c.request text).2 = c ∧
          (text ∈ c.keys ∨ (compile text).isOk = false ∨ c.size = 64)) ∨
        ((c.request text).2.keys = c.keys ++ [text] ∧
          text ∉ c.keys ∧ (compile text).isOk = true ∧ c.size < 64)) := by
  unfold request
  split
  · next a hfind =>
    exact ⟨(compile_of_find? hfind).symm, Or.inl ⟨rfl, Or.inl (mem_keys_of_find? hfind)⟩⟩
  · next hfind =>
    split
    · next fault hcompile =>
      refine ⟨hcompile.symm, Or.inl ⟨rfl, Or.inr (Or.inl ?_)⟩⟩
      rw [hcompile]
      rfl
    · next a hcompile =>
      have hok : (compile text).isOk = true := by
        rw [hcompile]
        rfl
      split
      · next hroom =>
        refine ⟨hcompile.symm, Or.inr ⟨?_, ?_, hok, hroom⟩⟩
        · rw [keys, List.map_cons, List.reverse_cons, keys]
        · exact fun hmem => not_mem_of_find?_eq_none hfind (List.mem_reverse.1 hmem)
      · next hroom =>
        exact ⟨hcompile.symm, Or.inl ⟨rfl, Or.inr (Or.inr (Nat.le_antisymm c.size_le
          (Nat.le_of_not_lt hroom)))⟩⟩

/-- A request of a text that does not compile changes nothing. -/
theorem request_of_error {c : CompileCache compile} {text : String} {fault : ε}
    (h : compile text = .error fault) : (c.request text).2 = c := by
  rcases (c.request_cases text).2 with ⟨hsame, -⟩ | ⟨-, -, hok, -⟩
  · exact hsame
  · rw [h] at hok
    cases hok

/-! ### Any number of requests -/

/-- The cache after requests from the beginning. -/
def after (compile : String → Except ε α) (texts : List String) : CompileCache compile :=
  empty.requestAll texts

theorem after_concat (texts : List String) (text : String) :
    after compile (texts ++ [text]) = ((after compile texts).request text).2 :=
  List.foldl_append

theorem validTexts_concat_of_error {text : String} (h : (compile text).isOk = false)
    (texts : List String) : validTexts compile (texts ++ [text]) = validTexts compile texts := by
  rw [validTexts, List.filter_append, List.filter_cons_of_neg (by simp [h]), List.filter_nil,
    List.append_nil, validTexts]

/-- After any requests the first 64 different texts that compile are kept. -/
theorem keys_after (texts : List String) :
    (after compile texts).keys = (validTexts compile texts).take 64 := by
  induction texts using List.reverseRecOn with
  | nil => rfl
  | append_singleton texts text ih =>
    rw [after_concat]
    generalize after compile texts = c at ih ⊢
    have hsize : c.size = ((validTexts compile texts).take 64).length := by rw [← ih, length_keys]
    have hstep := take_eraseDups_concat 64 (texts.filter fun t => (compile t).isOk) text
    rw [← validTexts] at hstep
    have hnext (hok : (compile text).isOk = true) : validTexts compile (texts ++ [text]) =
        ((texts.filter fun t => (compile t).isOk) ++ [text]).eraseDups := by
      rw [validTexts, List.filter_append, List.filter_cons_of_pos (by exact hok), List.filter_nil]
    rcases (c.request_cases text).2 with ⟨hsame, hkept⟩ | ⟨hadded, hnew, hok, hroom⟩
    · rw [hsame, ih]
      cases hok : (compile text).isOk with
      | false => rw [validTexts_concat_of_error hok]
      | true =>
        rw [hnext hok]
        rcases hstep with ⟨heq, -⟩ | ⟨-, hnot, hlt⟩
        · exact heq.symm
        · rw [ih, hsize, hok] at hkept
          rcases hkept with hmem | hfalse | hfull
          · exact absurd hmem hnot
          · cases hfalse
          · omega
    · rw [hadded, ih, hnext hok]
      rcases hstep with ⟨-, hmem | hfull⟩ | ⟨heq, -⟩
      · exact absurd hmem (ih ▸ hnew)
      · omega
      · exact heq.symm

/-- The entries are those of the texts that are kept. -/
theorem map_entries (c : CompileCache compile) :
    (c.entries.reverse.map fun e => (e.1, (Except.ok e.2 : Except ε α))) =
      c.keys.map fun text => (text, compile text) := by
  rw [keys, ← List.map_reverse, List.map_map]
  refine List.map_congr_left fun e he => ?_
  rw [Function.comp_apply, c.compiled e (List.mem_reverse.1 he)]

/-- Whatever was asked for before, a request is answered by what the text compiles to. Afterwards
the cache holds the first 64 different texts so far that compile, as many as there are, each with
what it compiles to; a request that fails changes nothing. -/
theorem request_exact (compile : String → Except ε α) (texts : List String) (text : String) :
    (after compile texts).request text = (compile text, after compile (texts ++ [text])) ∧
      (after compile (texts ++ [text])).size =
        min 64 (validTexts compile (texts ++ [text])).length ∧
      ((after compile (texts ++ [text])).entries.reverse.map
          fun e => (e.1, (Except.ok e.2 : Except ε α))) =
        ((validTexts compile (texts ++ [text])).take 64).map (fun t => (t, compile t)) ∧
      ∀ fault, compile text = .error fault →
        after compile (texts ++ [text]) = after compile texts := by
  refine ⟨Prod.ext (request_cases _ text).1 (after_concat texts text).symm, ?_, ?_, ?_⟩
  · rw [← length_keys, keys_after, List.length_take]
  · rw [map_entries, keys_after]
  · intro fault h
    rw [after_concat, request_of_error h]

/-- The length of a text; the empty text has none. -/
def positiveLength (text : String) : Except Unit Nat :=
  if text = "" then .error () else .ok text.length

/-- The empty text is refused behind two others, of which one was asked for twice. -/
theorem request_exact_emptyText :
    positiveLength "" = .error () ∧
      (after positiveLength ["a", "bc", "a"]).request "" =
        (.error (), after positiveLength ["a", "bc", "a"]) ∧
      (after positiveLength (["a", "bc", "a"] ++ [""])).size = 2 := by
  have hfault : positiveLength "" = .error () := rfl
  obtain ⟨hrequest, hsize, -, hsame⟩ := request_exact positiveLength ["a", "bc", "a"] ""
  refine ⟨hfault, ?_, hsize.trans (by decide)⟩
  rw [hrequest, hfault, hsame () hfault]

end CompileCache

end FileQuery
