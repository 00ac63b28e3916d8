import FileQuery.Pattern.Parser

/-!
# Patterns kept for reuse

A cache remembers what the first 64 different texts compile to, leaving out texts that do not
compile. What it answers is what compiling the text afresh would give, since it keeps nothing else.
The cache of patterns is the one whose texts are read as patterns.

## Main definitions

* `FileQuery.CompileCache`, `FileQuery.CompileCache.find?`, `FileQuery.CompileCache.request`.
* `FileQuery.PatternCache`: the cache of patterns.

## Main results

* `FileQuery.CompileCache.compile_of_find?`: what is kept for a text is what it compiles to.
-/

namespace FileQuery

/-- Texts with what they compile to, at most 64 of them and no text twice. -/
structure CompileCache {ε α : Type} (compile : String → Except ε α) where
  entries : List (String × α)
  compiled : ∀ e ∈ entries, compile e.1 = .ok e.2
  size_le : entries.length ≤ 64
  distinct : (entries.map Prod.fst).Nodup

namespace CompileCache

variable {ε α : Type} {compile : String → Except ε α}

def empty : CompileCache compile := ⟨[], by simp, by simp, by simp⟩

instance : Inhabited (CompileCache compile) := ⟨empty⟩

/-- The number of texts kept. -/
def size (c : CompileCache compile) : Nat := c.entries.length

/-- What is kept for a text. -/
def find? (c : CompileCache compile) (text : String) : Option α :=
  (c.entries.find? fun e => e.1 == text).map Prod.snd

theorem compile_of_find? {c : CompileCache compile} {text : String} {a : α}
    (h : c.find? text = some a) : compile text = .ok a := by
  unfold find? at h
  obtain ⟨e, he, rfl⟩ := Option.map_eq_some_iff.1 h
  have hkey := List.find?_some he
  have := c.compiled e (List.mem_of_find?_eq_some he)
  simp only [beq_iff_eq] at hkey
  rwa [hkey] at this

theorem not_mem_of_find?_eq_none {c : CompileCache compile} {text : String}
    (h : c.find? text = none) : text ∉ c.entries.map Prod.fst := by
  unfold find? at h
  simp only [Option.map_eq_none_iff, List.find?_eq_none, beq_iff_eq] at h
  intro hmem
  obtain ⟨e, he, rfl⟩ := List.mem_map.1 hmem
  exact h e he rfl

/-- What a text compiles to, or why it does not, and the cache after the request. A new text is kept
while there is room. -/
def request (c : CompileCache compile) (text : String) : Except ε α × CompileCache compile :=
  match hfind : c.find? text with
  | some a => (.ok a, c)
  | none =>
    match hcompile : compile text with
    | .error fault => (.error fault, c)
    | .ok a =>
      if hroom : c.entries.length < 64 then
        (.ok a, {
          entries := (text, a) :: c.entries
          compiled := by
            intro e he
            rcases List.mem_cons.1 he with rfl | he
            · exact hcompile
            · exact c.compiled e he
          size_le := hroom
          distinct := List.nodup_cons.2 ⟨not_mem_of_find?_eq_none hfind, c.distinct⟩ })
      else (.ok a, c)

/-- The cache after several requests. -/
def requestAll (c : CompileCache compile) (texts : List String) : CompileCache compile :=
  texts.foldl (fun c text => (c.request text).2) c

end CompileCache

/-- Texts with the patterns that they write. -/
abbrev PatternCache := CompileCache Pattern.parse

def PatternCache.empty : PatternCache := CompileCache.empty

end FileQuery
