import Mathlib.Data.List.Forall2
import TreeKeeper.Policy.Reader
import TreeKeeper.Proofs.Outcome

/-
  What the parts of a policy that was read were read from:
  each filter from its words, each class with the classes in
  front of it, and the rules with all of the classes.

  Key definitions include:
    * `FilterText.words?`
    * `Policy.classNames`
    * `Policy.classText?`

  Main declarations:
    * `Policy.readFilter_eq_ok_iff`
    * `Policy.readClasses_cons_eq_ok_iff`
    * `Policy.exists_of_readClasses`
    * `Policy.map_fst_of_readClasses`
    * `Policy.exists_of_ofDocument`
-/

------------------------------------------------------------
-- Words Of Filters
------------------------------------------------------------

namespace TreeKeeper

/- The words of a filter, whoever it belongs to. -/
def FilterText.words? : FilterText → Option (List String)
| .line text => some (Text.words text)
| .tokens values => values.mapM Yaml.Value.scalarText?

namespace Policy

theorem wordsOf_eq_ok_iff
    {owner : String}
    {values : List Yaml.Value}
    {words : List String} :
    wordsOf owner values = .ok words ↔
      values.mapM Yaml.Value.scalarText? = some words := by
  induction values generalizing words with
  | nil => simp [wordsOf]
  | cons value rest ih =>
      cases hText : value.scalarText? with
      | none => simp [wordsOf, hText]
      | some word =>
          simp [wordsOf, hText, map_eq_ok_iff, ih,
            Option.bind_eq_some_iff]

theorem filterWords_eq_ok_iff
    (owner : String)
    {text : FilterText}
    {words : List String} :
    filterWords owner text = .ok words ↔
      text.words? = some words := by
  cases text with
  | line text => simp [filterWords, FilterText.words?]
  | tokens values => exact wordsOf_eq_ok_iff

/- A filter is read from its words. -/
theorem readFilter_eq_ok_iff
    {context : Context}
    {owner : String}
    {text : FilterText}
    {filter : Option Filter}
    {sorts : List SortKey} :
    readFilter context owner (some text) =
        .ok (filter, sorts) ↔
      ∃ words,
        text.words? = some words ∧
        Expression.compile context.registry context.now
          words = .ok (filter, sorts) := by
  simp only [readFilter]
  cases hWords : filterWords owner text with
  | error fault =>
      simp [← filterWords_eq_ok_iff owner, hWords]
  | ok words =>
      rw [filterWords_eq_ok_iff] at hWords
      simp [hWords, mapError_eq_ok_iff]

/- A filter without sort keys is read like any other. -/
theorem readUnsorted_eq_ok_iff
    {context : Context}
    {owner : String}
    {text : Option FilterText}
    {filter : Option Filter} :
    readUnsorted context owner text = .ok filter ↔
      readFilter context owner text = .ok (filter, []) := by
  unfold readUnsorted
  split <;> simp_all

------------------------------------------------------------
-- Reading Classes
------------------------------------------------------------

/- The names of classes as they are written. -/
def classNames
    (declared : List (Yaml.Value × Yaml.Value)) :
    List String :=
  declared.filterMap fun written => className? written.1

/- The name and the words of a class as it is written. -/
def classText?
    (written : Yaml.Value × Yaml.Value) :
    Option (String × List String) := do
  let name ← className? written.1
  let text ← FilterText.ofValue? written.2
  let words ← text.words?
  return (name, words)

theorem classText?_eq_some_iff
    {written : Yaml.Value × Yaml.Value}
    {name : String}
    {words : List String} :
    classText? written = some (name, words) ↔
      className? written.1 = some name ∧
      ∃ text,
        FilterText.ofValue? written.2 = some text ∧
        text.words? = some words := by
  simp only [classText?, Option.bind_eq_bind,
    Option.bind_eq_some_iff, Option.pure_def,
    Option.some.injEq, Prod.mk.injEq]
  grind

variable {context : Context}
variable {classes all : List (String × Filter)}
variable {written : Yaml.Value × Yaml.Value}
variable {front behind : List (Yaml.Value × Yaml.Value)}

/- The words of a class are a filter and nothing else. -/
theorem readClass_eq_ok_iff
    {name : String}
    {value : Yaml.Value}
    {filter : Filter} :
    readClass context name value = .ok filter ↔
      ∃ text,
        FilterText.ofValue? value = some text ∧
        ∃ words,
          text.words? = some words ∧
          Expression.compile context.registry context.now
            words = .ok (some filter, []) := by
  unfold readClass
  cases FilterText.ofValue? value with
  | none => simp
  | some text =>
      simp only [Option.some.injEq, exists_eq_left']
      constructor
      · intro h
        split at h <;> cases h
        rename_i hRead
        exact readFilter_eq_ok_iff.1 hRead
      · intro h
        rw [readFilter_eq_ok_iff.2 h]

/- Each class is read with those in front of it. -/
theorem readClasses_cons_eq_ok_iff :
    readClasses context classes (written :: behind) =
        .ok all ↔
      ∃ name words filter,
        classText? written = some (name, words) ∧
        Expression.compile
          (context.withClasses classes).registry context.now
          words = .ok (some filter, []) ∧
        readClasses context ((name, filter) :: classes)
          behind = .ok all := by
  rcases written with ⟨key, value⟩
  simp only [classText?_eq_some_iff]
  constructor
  · intro h
    unfold readClasses at h
    split at h
    · exact nomatch h
    · rename_i name hName
      split at h
      · exact nomatch h
      · rename_i filter hClass
        rcases readClass_eq_ok_iff.1 hClass with
          ⟨text, hText, words, hWords, hCompile⟩
        exact ⟨name, words, filter,
          ⟨hName, text, hText, hWords⟩, hCompile, h⟩
  · rintro ⟨name, words, filter, hWritten, hCompile, h⟩
    rcases hWritten with ⟨hName, text, hText, hWords⟩
    have hClass :
        readClass (context.withClasses classes) name value =
          .ok filter :=
      readClass_eq_ok_iff.2
        ⟨text, hText, words, hWords, hCompile⟩
    simp only [readClasses, hName, hClass, h]

/- A class anywhere is read with those in front of it. -/
theorem exists_of_readClasses
    (h :
      readClasses context classes (front ++ written :: behind)
        = .ok all) :
    ∃ inFront name words filter,
      readClasses context classes front = .ok inFront ∧
      classText? written = some (name, words) ∧
      Expression.compile
        (context.withClasses inFront).registry context.now
        words = .ok (some filter, []) := by
  induction front generalizing classes with
  | nil =>
      rcases readClasses_cons_eq_ok_iff.1 h with
        ⟨name, words, filter, hText, hCompile, _⟩
      exact ⟨classes, name, words, filter, rfl, hText,
        hCompile⟩
  | cons first front ih =>
      rcases readClasses_cons_eq_ok_iff.1 h with
        ⟨name, words, filter, hText, hCompile, h⟩
      rcases ih h with
        ⟨inFront, last, others, its, hFront, hWritten⟩
      refine ⟨inFront, last, others, its, ?_, hWritten⟩
      exact readClasses_cons_eq_ok_iff.2
        ⟨name, words, filter, hText, hCompile, hFront⟩

/- The classes that were read have the names as written. -/
theorem map_fst_of_readClasses
    (h : readClasses context classes behind = .ok all) :
    all.map Prod.fst =
      (classNames behind).reverse ++
        classes.map Prod.fst := by
  induction behind generalizing classes with
  | nil =>
      cases h
      rfl
  | cons written behind ih =>
      rcases readClasses_cons_eq_ok_iff.1 h with
        ⟨name, words, filter, hText, _, h⟩
      have hName := (classText?_eq_some_iff.1 hText).1
      rw [ih h]
      simp [classNames, hName]

------------------------------------------------------------
-- Reading Policies
------------------------------------------------------------

/- A rule is read with a filter that has no sort keys. -/
theorem readFilter_of_readRule
    {number : Nat}
    {text : RuleText}
    {rule : Rule}
    (h : readRule context number text = .ok rule) :
    readFilter context rule.name text.filter =
      .ok (rule.filter, []) := by
  simp only [readRule] at h
  split at h
  · exact nomatch h
  · rename_i hFilter
    rcases map_eq_ok_iff.1 h with ⟨action, _, rfl⟩
    exact readUnsorted_eq_ok_iff.1 hFilter

/- Each rule is read from the one in its place. -/
theorem forall₂_of_readRules
    {number : Nat}
    {texts : List RuleText}
    {rules : List Rule}
    (h : readRules context number texts = .ok rules) :
    List.Forall₂
      (fun text rule =>
        ∃ place, readRule context place text = .ok rule)
      texts rules := by
  induction texts generalizing number rules with
  | nil =>
      cases h
      exact .nil
  | cons text rest ih =>
      simp only [readRules] at h
      split at h
      · exact nomatch h
      · rename_i rule hRule
        rcases map_eq_ok_iff.1 h with ⟨others, hOthers, rfl⟩
        exact .cons ⟨number, hRule⟩ (ih hOthers)

theorem exists_readRule_of_mem
    {number : Nat}
    {text : RuleText}
    {texts : List RuleText}
    {rules : List Rule}
    (h : readRules context number texts = .ok rules)
    (hText : text ∈ texts) :
    ∃ place rule, readRule context place text = .ok rule := by
  have hRules := forall₂_of_readRules h
  rcases List.mem_iff_get.1 hText with ⟨index, rfl⟩
  rcases hRules.get index.2 (hRules.length_eq ▸ index.2)
    with ⟨place, hRule⟩
  exact ⟨place, _, hRule⟩

/- The filters of a policy are read with all classes. -/
theorem exists_of_ofDocument
    {document : Document}
    {policy : Policy}
    (h : ofDocument context document = .ok policy) :
    ∃ classes,
      readClasses context [] document.classes =
        .ok classes ∧
      readFilter (context.withClasses classes) document.name
        document.filter = .ok (policy.filter, policy.sorts) ∧
      readAction document.name document.action
        document.parameters = .ok policy.fallback ∧
      readRules (context.withClasses classes) 1
        document.rules = .ok policy.rules := by
  rcases bind_eq_ok_iff.1 h with ⟨classes, hClasses, h⟩
  rcases bind_eq_ok_iff.1 h with
    ⟨⟨filter, sorts⟩, hFilter, h⟩
  rcases bind_eq_ok_iff.1 h with ⟨fallback, hFallback, h⟩
  rcases bind_eq_ok_iff.1 h with ⟨rules, hRules, h⟩
  cases h
  exact ⟨classes, hClasses, hFilter, hFallback, hRules⟩

end Policy

end TreeKeeper
