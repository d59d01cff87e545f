import TreeKeeper.Expression.Reader

/-
  The grammar of expressions without actions, as relations
  between the words of a part, the filters it stands for and
  the sort directives in it.  A relation speaks of the words
  of its part alone and knows nothing of how they are read.

  Key definitions include:
    * `Expression.Offers`
    * `Expression.Joined`
    * `Expression.Factor`
    * `Expression.Items`
    * `Expression.Terms`
    * `Expression.Sentence`

  The words are tied to `Registry.classify` by:
    * `Expression.classify_eq_predicate_iff`
    * `Expression.classify_eq_sort_iff`
-/

------------------------------------------------------------
-- Words
------------------------------------------------------------

namespace TreeKeeper

namespace Expression

/- The words that negate an operand. -/
def IsNegation (word : String) : Prop :=
  word = "!" ∨ word = "-not"

/- The words that may join operands side by side. -/
def IsConjunction (word : String) : Prop :=
  word = "-a" ∨ word = "-and"

/- The words that join terms. -/
def IsDisjunction (word : String) : Prop :=
  word = "-o" ∨ word = "-or"

/- The words of sort directives in a direction. -/
def IsSort (ascending : Bool) (word : String) : Prop :=
  word = if ascending then "-sort" else "-rsort"

/- The words that no predicate can take for itself. -/
def IsReserved (word : String) : Prop :=
  word = "(" ∨ word = ")" ∨ IsNegation word ∨
    IsConjunction word ∨ IsDisjunction word ∨
    IsSort true word ∨ IsSort false word

/- Whether a word stands for a predicate of a registry. -/
def Offers
    (registry : Registry)
    (word : String)
    (p : Predicate) : Prop :=
  ¬ IsReserved word ∧ registry.find? word = some p

------------------------------------------------------------
-- Classification
------------------------------------------------------------

variable {registry : Registry} {word : String}

theorem classify_eq_opening_iff :
    registry.classify word = .opening ↔ word = "(" := by
  unfold Registry.classify
  grind

theorem classify_eq_closing_iff :
    registry.classify word = .closing ↔ word = ")" := by
  unfold Registry.classify
  grind

theorem classify_eq_negation_iff :
    registry.classify word = .negation ↔
      IsNegation word := by
  unfold Registry.classify IsNegation
  grind

theorem classify_eq_conjunction_iff :
    registry.classify word = .conjunction ↔
      IsConjunction word := by
  unfold Registry.classify IsConjunction
  grind

theorem classify_eq_disjunction_iff :
    registry.classify word = .disjunction ↔
      IsDisjunction word := by
  unfold Registry.classify IsDisjunction
  grind

theorem classify_eq_sort_iff {ascending : Bool} :
    registry.classify word = .sort ascending ↔
      IsSort ascending word := by
  unfold Registry.classify IsSort
  cases ascending <;> grind

theorem classify_eq_predicate_iff {p : Predicate} :
    registry.classify word = .predicate p ↔
      Offers registry word p := by
  unfold Registry.classify Offers IsReserved IsNegation
    IsConjunction IsDisjunction IsSort
  grind

------------------------------------------------------------
-- Joining
------------------------------------------------------------

/-
  The tree for filters in order: the only one of them, or a
  node above all of them if there are several.
-/
inductive Joined
    (node : List Filter → Filter) :
    List Filter → Filter → Prop
| one (filter : Filter) : Joined node [filter] filter
| several (first second : Filter) (others : List Filter) :
    Joined node (first :: second :: others)
      (node (first :: second :: others))

theorem all_eq_none_iff
    {filters : List Filter} :
    Filter.all filters = none ↔ filters = [] := by
  match filters with
  | [] => simp [Filter.all]
  | [_] => simp [Filter.all]
  | _ :: _ :: _ => simp [Filter.all]

theorem all_eq_some_iff
    {filters : List Filter}
    {filter : Filter} :
    Filter.all filters = some filter ↔
      Joined .and filters filter := by
  constructor
  · intro h
    match filters, h with
    | [_], rfl => exact .one _
    | _ :: _ :: _, rfl => exact .several _ _ _
  · intro h
    cases h <;> rfl

theorem any_eq_some_iff
    {filters : List Filter}
    {filter : Filter} :
    Filter.any filters = some filter ↔
      Joined .or filters filter := by
  constructor
  · intro h
    match filters, h with
    | [_], rfl => exact .one _
    | _ :: _ :: _, rfl => exact .several _ _ _
  · intro h
    cases h <;> rfl

------------------------------------------------------------
-- Phrases
------------------------------------------------------------

section Phrases

variable (registry : Registry) (now : Int64)

mutual

/-
  Operands: the negation of an operand, terms in parentheses,
  or a predicate with its arguments.
-/
inductive Factor :
    List String → Filter → List SortKey → Prop
| negation
    {word : String}
    {words : List String}
    {filter : Filter}
    {sorts : List SortKey}
    (hWord : IsNegation word)
    (hFactor : Factor words filter sorts) :
    Factor (word :: words) (.not filter) sorts
| group
    {words : List String}
    {filters : List Filter}
    {filter : Filter}
    {sorts : List SortKey}
    (hTerms : Terms words filters sorts)
    (hJoined : Joined .or filters filter) :
    Factor ("(" :: words ++ [")"]) filter sorts
| predicate
    {word : String}
    {p : Predicate}
    {args : List String}
    {filter : Filter}
    (hOffers : Offers registry word p)
    (hArity : args.length = p.arity)
    (hBuild : p.build now args = .ok filter) :
    Factor (word :: args) filter []

/-
  Operands and sort directives side by side.  The flag tells
  whether there is an operand in front, which a conjunction
  asks for as much as for the operand behind it.
-/
inductive Items :
    Bool → List String → List Filter → List SortKey → Prop
| nil {started : Bool} : Items started [] [] []
| sort
    {started ascending : Bool}
    {word : String}
    {field : Field}
    {words : List String}
    {filters : List Filter}
    {sorts : List SortKey}
    (hWord : IsSort ascending word)
    (hField : field ∈ SortKey.fields)
    (hItems : Items started words filters sorts) :
    Items started (word :: field.title :: words) filters
      (⟨field, ascending⟩ :: sorts)
| factor
    {started : Bool}
    {front words : List String}
    {filter : Filter}
    {filters : List Filter}
    {inner sorts : List SortKey}
    (hFactor : Factor front filter inner)
    (hItems : Items true words filters sorts) :
    Items started (front ++ words) (filter :: filters)
      (inner ++ sorts)
| conjunction
    {word : String}
    {front words : List String}
    {filter : Filter}
    {filters : List Filter}
    {inner sorts : List SortKey}
    (hWord : IsConjunction word)
    (hFactor : Factor front filter inner)
    (hItems : Items true words filters sorts) :
    Items true (word :: (front ++ words))
      (filter :: filters) (inner ++ sorts)

/-
  Terms with disjunctions in between.  Every term has an
  operand, since it stands for a filter.
-/
inductive Terms :
    List String → List Filter → List SortKey → Prop
| one
    {words : List String}
    {filters : List Filter}
    {term : Filter}
    {sorts : List SortKey}
    (hItems : Items false words filters sorts)
    (hJoined : Joined .and filters term) :
    Terms words [term] sorts
| more
    {word : String}
    {front words : List String}
    {filters terms : List Filter}
    {term : Filter}
    {inner sorts : List SortKey}
    (hItems : Items false front filters inner)
    (hJoined : Joined .and filters term)
    (hWord : IsDisjunction word)
    (hTerms : Terms words terms sorts) :
    Terms (front ++ word :: words) (term :: terms)
      (inner ++ sorts)

end

/-
  Whole expressions: terms, or nothing but sort directives,
  which stand for no filter.
-/
inductive Sentence :
    List String → Option Filter → List SortKey → Prop
| terms
    {words : List String}
    {filters : List Filter}
    {filter : Filter}
    {sorts : List SortKey}
    (hTerms : Terms registry now words filters sorts)
    (hJoined : Joined .or filters filter) :
    Sentence words (some filter) sorts
| directives
    {words : List String}
    {sorts : List SortKey}
    (hItems : Items registry now false words [] sorts) :
    Sentence words none sorts

end Phrases

end Expression

end TreeKeeper
