import FileQuery.Catalog.Standard
import FileQuery.Proofs.Query.Scanning

/-!
# Names in the standard catalog

Every attribute and every function has an entry in the standard catalog, which is found by its
canonical name; and every canonical name is scanned as a name, since it has the characters of one
and is no keyword.

## Main results

* `FileQuery.Catalog.standard_eq`: the standard catalog has the entries that are listed for it.
* `FileQuery.Catalog.findAttribute?_canonicalName`, `FileQuery.Catalog.findFunction?_canonicalName`.
* `FileQuery.Attribute.isName_canonicalName`, `FileQuery.Function.isName_canonicalName`.
-/

namespace FileQuery

theorem ScalarFunction.mem_all (f : ScalarFunction) : f ∈ ScalarFunction.all := by
  cases f <;> decide

theorem AggregateFunction.mem_all (f : AggregateFunction) : f ∈ AggregateFunction.all := by
  cases f <;> decide

theorem Function.mem_all (f : Function) : f ∈ Function.all := by
  cases f with
  | scalar f =>
    exact List.mem_append_left _ (List.mem_map_of_mem (ScalarFunction.mem_all f))
  | aggregate f =>
    exact List.mem_append_right _ (List.mem_map_of_mem (AggregateFunction.mem_all f))

namespace Catalog

/-- Definitions without a clash of names make a catalog. -/
theorem ofEntries?_eq_ok {attributes : List AttributeEntry} {functions : List FunctionEntry}
    (ha : firstClash? [] (attributeNames attributes) = none)
    (hf : firstClash? [] (functionNames functions) = none) :
    ofEntries? attributes functions = .ok ⟨attributes, functions, ha, hf⟩ := by
  rw [ofEntries?]
  split
  · next d hd => rw [ha] at hd; cases hd
  · split
    · next d hd => rw [hf] at hd; cases hd
    · rfl

theorem standardAttributes_distinct : firstClash? [] (attributeNames standardAttributes) = none := by
  decide +kernel

theorem standardFunctions_distinct : firstClash? [] (functionNames standardFunctions) = none := by
  decide +kernel

/-- No name is taken twice, so the standard catalog is made of the definitions listed. -/
theorem standard_eq : standard = ⟨standardAttributes, standardFunctions,
    standardAttributes_distinct, standardFunctions_distinct⟩ := by
  unfold standard
  rw [ofEntries?_eq_ok standardAttributes_distinct standardFunctions_distinct]

/-- A canonical name leads to the entry of its attribute. -/
theorem findAttribute?_canonicalName (a : Attribute) :
    ∃ e, standard.findAttribute? a.canonicalName = some e ∧ e.subject = a := by
  have hall : ∀ a ∈ Attribute.all, (standardAttributes.find? fun e =>
      answersTo e.names a.canonicalName).map AttributeEntry.subject = some a := by
    decide +kernel
  rw [standard_eq]
  exact Option.map_eq_some_iff.1 (hall a (Attribute.mem_all a))

/-- A canonical name leads to the entry of its function. -/
theorem findFunction?_canonicalName (f : Function) :
    ∃ e, standard.findFunction? f.canonicalName = some e ∧ e.function = f := by
  have hall : ∀ f ∈ Function.all, (standardFunctions.find? fun e =>
      answersTo e.names f.canonicalName).map FunctionEntry.function = some f := by
    decide +kernel
  rw [standard_eq]
  exact Option.map_eq_some_iff.1 (hall f (Function.mem_all f))

/-- Predicates call no aggregates. -/
theorem not_isAggregate_of_inPredicates {f : FunctionEntry} (hf : f ∈ standard.functions)
    (h : f.inPredicates = true) : f.function.isAggregate = false := by
  have hall : ∀ f ∈ standardFunctions, f.inPredicates = true → f.function.isAggregate = false := by
    decide +kernel
  rw [standard_eq] at hf
  exact hall f hf h

end Catalog

theorem Attribute.isName_canonicalName (a : Attribute) : IsName a.canonicalName := by
  have hall : ∀ a ∈ Attribute.all, IsName a.canonicalName := by decide +kernel
  exact hall a (Attribute.mem_all a)

theorem Function.isName_canonicalName (f : Function) : IsName f.canonicalName := by
  have hall : ∀ f ∈ Function.all, IsName f.canonicalName := by decide +kernel
  exact hall f (Function.mem_all f)

end FileQuery
