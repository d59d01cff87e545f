import TreeKeeper.Proofs.Expression.Phrases
import TreeKeeper.Proofs.Policy.Reading

/-
  Classes as shorthands.  Where a policy asks for a class,
  the words of that class in parentheses say the same, down
  to the tree of the filter, and what remains is read with
  no class at all.  A policy that asks for a class that is
  not in front, or that has a class with other things in it
  than a filter, is refused.

  Key definitions include:
    * `Policy.Context.phrases`
    * `Policy.Context.inline`
    * `Policy.Context.inlineClasses`
    * `Policy.Context.Expands`
    * `Policy.Context.Inlines`
    * `Policy.Misuses`

  Main declarations:
    * `Policy.Context.compile_inline`
    * `Policy.exists_expansion`
    * `Policy.not_misuses`
    * `Policy.ofText_inlines`
-/

------------------------------------------------------------
-- Phrases With Classes
------------------------------------------------------------

namespace TreeKeeper

namespace Policy

variable {context : Context}
variable {classes : List (String × Filter)}

namespace Context

variable {word : String}
variable {filter : Option Filter}
variable {sorts : List SortKey}
variable {words phrase : List String}

/- The phrases of an expression that may ask for classes. -/
def phrases
    (context : Context)
    (words : List String) : List (List String) :=
  Expression.phrases (context.withClasses []).registry words

theorem find?_class
    (context : Context)
    (classes : List (String × Filter)) :
    (context.withClasses classes).registry.find? "-class" =
      some (.fileClass classes) := by
  simp [withClasses, Registry.register, Registry.find?,
    Predicate.fileClass, Predicate.unary]

theorem find?_of_ne_class
    (context : Context)
    (classes : List (String × Filter))
    (hWord : word ≠ "-class") :
    (context.withClasses classes).registry.find? word =
      context.registry.find? word := by
  simp [withClasses, Registry.register, Registry.find?,
    Predicate.fileClass, Predicate.unary, hWord.symm]

/- Which classes there are does not change what is split. -/
theorem phrases_withClasses
    (context : Context)
    (classes : List (String × Filter))
    (words : List String) :
    Expression.phrases
        (context.withClasses classes).registry words =
      context.phrases words := by
  apply Expression.phrases_congr
  intro word
  unfold Expression.argumentCount Registry.classify
  by_cases hWord : word = "-class"
  · subst hWord
    simp only [find?_class]
    rfl
  · simp only [find?_of_ne_class _ _ hWord]

/- Which classes there are does not change the actions. -/
theorem classify_withClasses_eq_action_iff
    (context : Context)
    (classes : List (String × Filter))
    (word : String) :
    (context.withClasses classes).registry.classify word =
        .action ↔
      (context.withClasses []).registry.classify word =
        .action := by
  unfold Registry.classify
  by_cases hWord : word = "-class"
  · subst hWord
    simp only [find?_class]
    simp
  · simp only [find?_of_ne_class _ _ hWord]

/- An expression that is read has proper phrases only. -/
theorem phrase_of_compile
    (hCompile :
      Expression.compile
        (context.withClasses classes).registry context.now
        words = .ok (filter, sorts))
    (hPhrase : phrase ∈ context.phrases words) :
    Expression.Phrase (context.withClasses classes).registry
      context.now sorts phrase := by
  rw [← phrases_withClasses context classes] at hPhrase
  exact (Expression.sentence_of_compile hCompile)
    |>.isSpoken.exists_phrases.2 phrase hPhrase

theorem ne_class_of_isSort
    {ascending : Bool}
    (hWord : Expression.IsSort ascending word) :
    word ≠ "-class" := by
  rw [hWord]
  cases ascending <;> simp

/- What stands behind the word is the name of a class. -/
theorem lookup_of_offers_class
    {p : Predicate}
    {args : List String}
    {filter : Filter}
    (hOffers :
      Expression.Offers (context.withClasses classes).registry
        "-class" p)
    (hArity : args.length = p.arity)
    (hBuild : p.build context.now args = .ok filter) :
    ∃ name,
      args = [name] ∧ classes.lookup name = some filter := by
  have hClass := hOffers.2
  rw [find?_class, Option.some.injEq] at hClass
  subst hClass
  rcases List.length_eq_one_iff.1 hArity with ⟨name, rfl⟩
  refine ⟨name, rfl, ?_⟩
  simp only [Predicate.fileClass, Predicate.unary] at hBuild
  split at hBuild
  · cases hBuild
    assumption
  · cases hBuild

/- A phrase can only ask for a class that there is. -/
theorem mem_of_phrase
    {name : String}
    (hPhrase :
      Expression.Phrase
        (context.withClasses classes).registry context.now
        sorts ["-class", name]) :
    name ∈ classes.map Prod.fst := by
  cases hPhrase with
  | directive hWord _ =>
      exact absurd rfl (ne_class_of_isSort hWord)
  | predicate hOffers hArity hBuild =>
      rcases lookup_of_offers_class hOffers hArity hBuild
        with ⟨_, hName, hLookup⟩
      cases hName
      rcases List.lookup_eq_some_iff.1 hLookup with
        ⟨newer, older, rfl, _⟩
      simp

end Context

------------------------------------------------------------
-- Inlining
------------------------------------------------------------

/- The words of the class that a phrase asks for. -/
def namedWords?
    (texts : List (String × List String)) :
    List String → Option (List String)
| [word, name] =>
    if word = "-class" then texts.lookup name else none
| _ => none

/- A phrase, or the words of its class in parentheses. -/
def inlinePhrase
    (texts : List (String × List String))
    (phrase : List String) : List String :=
  match namedWords? texts phrase with
  | some words => "(" :: words ++ [")"]
  | none => phrase

theorem inlinePhrase_class
    {texts : List (String × List String)}
    {name : String}
    {words : List String}
    (hLookup : texts.lookup name = some words) :
    inlinePhrase texts ["-class", name] =
      "(" :: words ++ [")"] := by
  simp only [inlinePhrase, namedWords?, if_true, hLookup]

theorem inlinePhrase_of_ne_class
    {word : String}
    (texts : List (String × List String))
    (args : List String)
    (hWord : word ≠ "-class") :
    inlinePhrase texts (word :: args) = word :: args := by
  have hNone : namedWords? texts (word :: args) = none := by
    match args with
    | [] => rfl
    | [_] => exact if_neg hWord
    | _ :: _ :: _ => rfl
  simp only [inlinePhrase, hNone]

namespace Context

/- The words of classes in the place of their names. -/
def inline
    (context : Context)
    (texts : List (String × List String))
    (words : List String) : List String :=
  (context.phrases words).flatMap (inlinePhrase texts)

/- Only a predicate is replaced, not the name of a file. -/
example :
    inline ⟨.builtin, 0⟩
        [("old", ["-uid", "1", "-o", "-empty"])]
        ["-name", "-class", "!", "-class", "old"] =
      ["-name", "-class", "!", "(", "-uid", "1", "-o",
        "-empty", ")"] := by
  decide

/-
  The words of classes, each with those of the classes in
  front of it in the place of their names.  As with the
  classes, the latest one comes first.
-/
def inlineClasses
    (context : Context)
    (texts : List (String × List String)) :
    List (String × List String) →
      List (String × List String)
| [] => texts
| (name, words) :: rest =>
    context.inlineClasses
      ((name, context.inline texts words) :: texts) rest

/-
  Whether words under the name of a class are read as that
  class without any classes.
-/
def Expands
    (context : Context)
    (class' : String × Filter)
    (text : String × List String) : Prop :=
  text.1 = class'.1 ∧
  Expression.compile context.registry context.now text.2 =
    .ok (some class'.2, [])

variable {word : String}
variable {filter : Option Filter}
variable {sorts : List SortKey}
variable {words : List String}
variable {texts : List (String × List String)}

theorem exists_lookup
    (hTexts : List.Forall₂ context.Expands classes texts)
    {name : String}
    {filter : Filter}
    (hLookup : classes.lookup name = some filter) :
    ∃ words,
      texts.lookup name = some words ∧
      Expression.compile context.registry context.now words =
        .ok (some filter, []) := by
  induction hTexts with
  | nil => exact nomatch hLookup
  | @cons newest text older others hText _ ih =>
      rcases newest with ⟨title, newest⟩
      rcases text with ⟨other, words⟩
      rcases hText with ⟨rfl, hWords⟩
      rw [List.lookup_cons] at hLookup ⊢
      cases hSame : name == other with
      | true =>
          rw [hSame] at hLookup
          cases hLookup
          exact ⟨words, rfl, hWords⟩
      | false =>
          rw [hSame] at hLookup
          exact ih hLookup

/- Classes are exchanged for their words. -/
theorem exchanges_inlinePhrase
    (hTexts : List.Forall₂ context.Expands classes texts) :
    Expression.Exchanges
      (context.withClasses classes).registry
      context.registry context.now (inlinePhrase texts) where
  sign _ := rfl
  directive hWord :=
    inlinePhrase_of_ne_class texts _
      (ne_class_of_isSort hWord)
  predicate := by
    intro word p args filter hOffers hArity hBuild
    by_cases hWord : word = "-class"
    · subst hWord
      rcases lookup_of_offers_class hOffers hArity hBuild
        with ⟨name, rfl, hLookup⟩
      rcases exists_lookup hTexts hLookup with
        ⟨words, hWords, hCompile⟩
      rw [inlinePhrase_class hWords]
      cases Expression.sentence_of_compile hCompile with
      | terms hTerms hJoined => exact .group hTerms hJoined
    · rw [inlinePhrase_of_ne_class texts args hWord]
      have hFind := hOffers.2
      rw [find?_of_ne_class _ _ hWord] at hFind
      exact .predicate ⟨hOffers.1, hFind⟩ hArity hBuild

/- Words are read the same without classes. -/
theorem compile_inline
    (hTexts : List.Forall₂ context.Expands classes texts)
    (hCompile :
      Expression.compile
        (context.withClasses classes).registry context.now
        words = .ok (filter, sorts)) :
    Expression.compile context.registry context.now
      (context.inline texts words) = .ok (filter, sorts) := by
  apply Expression.compile_of_sentence
  unfold inline
  rw [← phrases_withClasses context classes]
  exact (Expression.sentence_of_compile hCompile).exchange
    (exchanges_inlinePhrase hTexts)

end Context

/- Classes that are read expand to words without classes. -/
theorem exists_expansion
    {all : List (String × Filter)}
    {declared : List (Yaml.Value × Yaml.Value)}
    {texts : List (String × List String)}
    (hTexts : List.Forall₂ context.Expands classes texts)
    (h : readClasses context classes declared = .ok all) :
    ∃ others,
      declared.mapM classText? = some others ∧
      List.Forall₂ context.Expands all
        (context.inlineClasses texts others) := by
  induction declared generalizing classes texts with
  | nil =>
      cases h
      exact ⟨[], rfl, hTexts⟩
  | cons written behind ih =>
      rcases readClasses_cons_eq_ok_iff.1 h with
        ⟨name, words, filter, hText, hCompile, h⟩
      have hExpands :
          context.Expands (name, filter)
            (name, context.inline texts words) :=
        ⟨rfl, Context.compile_inline hTexts hCompile⟩
      rcases ih (.cons hExpands hTexts) h with
        ⟨others, hOthers, hAll⟩
      refine ⟨(name, words) :: others, ?_, hAll⟩
      simp [hText, hOthers]

/-
  Whether a filter with sort keys is what an expression says
  with the words of classes in the place of their names.
-/
inductive Context.Inlines
    (context : Context)
    (texts : List (String × List String)) :
    Option FilterText → Option Filter → List SortKey → Prop
| absent : Inlines context texts none none []
| present
    {text : FilterText}
    {words : List String}
    {filter : Option Filter}
    {sorts : List SortKey}
    (hWords : text.words? = some words)
    (hCompile :
      Expression.compile context.registry context.now
        (context.inline texts words) =
        .ok (filter, sorts)) :
    Inlines context texts (some text) filter sorts

theorem inlines_of_readFilter
    {texts : List (String × List String)}
    {owner : String}
    {text : Option FilterText}
    {filter : Option Filter}
    {sorts : List SortKey}
    (hTexts : List.Forall₂ context.Expands classes texts)
    (h :
      readFilter (context.withClasses classes) owner text =
        .ok (filter, sorts)) :
    context.Inlines texts text filter sorts := by
  cases text with
  | none =>
      cases h
      exact .absent
  | some text =>
      rcases readFilter_eq_ok_iff.1 h with
        ⟨words, hWords, hCompile⟩
      exact .present hWords
        (Context.compile_inline hTexts hCompile)

------------------------------------------------------------
-- Misuse
------------------------------------------------------------

/- Whether words ask for a class with none of some names. -/
def Context.AsksBeyond
    (context : Context)
    (names : List String)
    (words : List String) : Prop :=
  ∃ name,
    ["-class", name] ∈ context.phrases words ∧
    name ∉ names

/-
  Why words do not describe a class that only the classes
  with some names are in front of.
-/
inductive Context.Misspeaks
    (context : Context)
    (names : List String) : List String → Prop
| empty : Misspeaks context names []
| unknown
    {words : List String}
    (hAsks : context.AsksBeyond names words) :
    Misspeaks context names words
| sort
    {ascending : Bool}
    {word : String}
    {args words : List String}
    (hPhrase : word :: args ∈ context.phrases words)
    (hWord : Expression.IsSort ascending word) :
    Misspeaks context names words
| action
    {word : String}
    {args words : List String}
    (hPhrase : word :: args ∈ context.phrases words)
    (hWord :
      (context.withClasses []).registry.classify word =
        .action) :
    Misspeaks context names words

/-
  How a policy misuses classes: with a class that has no
  name or no words, with one that its words do not describe,
  or with a filter that asks for a class that there is not.
-/
inductive Misuses
    (context : Context)
    (document : Document) : Prop
| wordless
    {written : Yaml.Value × Yaml.Value}
    (hWritten : written ∈ document.classes)
    (hText : classText? written = none)
| inClass
    {front behind : List (Yaml.Value × Yaml.Value)}
    {written : Yaml.Value × Yaml.Value}
    {name : String}
    {words : List String}
    (hClasses :
      document.classes = front ++ written :: behind)
    (hText : classText? written = some (name, words))
    (hWords : context.Misspeaks (classNames front) words)
| inFilter
    {text : FilterText}
    {words : List String}
    (hText :
      document.filter = some text ∨
      ∃ rule ∈ document.rules, rule.filter = some text)
    (hWords : text.words? = some words)
    (hAsks :
      context.AsksBeyond (classNames document.classes) words)

namespace Context

variable {names words : List String}

theorem not_asksBeyond
    {filter : Option Filter}
    {sorts : List SortKey}
    (hNames : classes.map Prod.fst ⊆ names)
    (hCompile :
      Expression.compile
        (context.withClasses classes).registry context.now
        words = .ok (filter, sorts)) :
    ¬ context.AsksBeyond names words := by
  rintro ⟨name, hPhrase, hName⟩
  have hMem :=
    mem_of_phrase (phrase_of_compile hCompile hPhrase)
  exact hName (hNames hMem)

/- The words of a class that is read are well spoken. -/
theorem not_misspeaks
    {filter : Filter}
    (hNames : classes.map Prod.fst ⊆ names)
    (hCompile :
      Expression.compile
        (context.withClasses classes).registry context.now
        words = .ok (some filter, [])) :
    ¬ context.Misspeaks names words := by
  intro hMisspeaks
  cases hMisspeaks with
  | empty => exact nomatch hCompile
  | unknown hAsks =>
      exact not_asksBeyond hNames hCompile hAsks
  | sort hPhrase hWord =>
      exact (phrase_of_compile hCompile hPhrase).sorts_ne_nil
        hWord rfl
  | action hPhrase hWord =>
      exact (phrase_of_compile hCompile hPhrase)
        |>.classify_ne_action
        ((classify_withClasses_eq_action_iff context classes
          _).2 hWord)

end Context

/- A policy that is read does not misuse classes. -/
theorem not_misuses
    {document : Document}
    {policy : Policy}
    (h : ofDocument context document = .ok policy) :
    ¬ Misuses context document := by
  rcases exists_of_ofDocument h with
    ⟨classes, hClasses, hFilter, _, hRules⟩
  intro hMisuses
  cases hMisuses with
  | wordless hWritten hText =>
      rcases List.append_of_mem hWritten with
        ⟨front, behind, hSplit⟩
      rw [hSplit] at hClasses
      rcases exists_of_readClasses hClasses with
        ⟨_, _, _, _, _, hSame, _⟩
      exact nomatch hText.symm.trans hSame
  | inClass hSplit hText hWords =>
      rw [hSplit] at hClasses
      rcases exists_of_readClasses hClasses with
        ⟨_, _, _, _, hFront, hSame, hCompile⟩
      cases hText.symm.trans hSame
      refine Context.not_misspeaks ?_ hCompile hWords
      rw [map_fst_of_readClasses hFront]
      simp
  | @inFilter text _ hText hWords hAsks =>
      have hRead :
          ∃ owner filter sorts,
            readFilter (context.withClasses classes) owner
              (some text) = .ok (filter, sorts) := by
        rcases hText with hText | ⟨rule, hRule, hText⟩
        · rw [hText] at hFilter
          exact ⟨_, _, _, hFilter⟩
        · rcases exists_readRule_of_mem hRules hRule with
            ⟨place, read, hRead⟩
          have hFilter := readFilter_of_readRule hRead
          rw [hText] at hFilter
          exact ⟨_, _, _, hFilter⟩
      rcases hRead with ⟨owner, filter, sorts, hRead⟩
      rcases readFilter_eq_ok_iff.1 hRead with
        ⟨_, hSame, hCompile⟩
      cases hWords.symm.trans hSame
      refine Context.not_asksBeyond ?_ hCompile hAsks
      rw [map_fst_of_readClasses hClasses]
      simp

------------------------------------------------------------
-- Policies With Classes
------------------------------------------------------------

/-
  Every filter of a policy that is read, and every class, is
  what its words say with each class written out, down to
  the tree and with no class left.  A policy that asks for a
  class that is not declared in front, or with a class that
  is empty or has a sort directive or an action, is refused.
-/
theorem ofText_inlines
    (context : Context)
    (text : String) :
    (∀ policy,
      ofText context text = .ok policy →
      ∃ document classes texts,
        Document.ofText? text = some document ∧
        readClasses context [] document.classes =
          .ok classes ∧
        document.classes.mapM classText? = some texts ∧
        List.Forall₂ context.Expands classes
          (context.inlineClasses [] texts) ∧
        context.Inlines (context.inlineClasses [] texts)
          document.filter policy.filter policy.sorts ∧
        List.Forall₂
          (fun written rule =>
            context.Inlines
              (context.inlineClasses [] texts)
              written.filter rule.filter [])
          document.rules policy.rules) ∧
    ∀ document,
      Document.ofText? text = some document →
      Misuses context document →
      ∃ fault, ofText context text = .error fault := by
  constructor
  · intro policy h
    unfold ofText at h
    split at h
    · exact nomatch h
    · rename_i document hDocument
      rcases exists_of_ofDocument h with
        ⟨classes, hClasses, hFilter, _, hRules⟩
      rcases exists_expansion .nil hClasses with
        ⟨texts, hTexts, hExpand⟩
      refine ⟨document, classes, texts, hDocument, hClasses,
        hTexts, hExpand, ?_, ?_⟩
      · exact inlines_of_readFilter hExpand hFilter
      · refine (forall₂_of_readRules hRules).imp ?_
        rintro written rule ⟨place, hRule⟩
        exact inlines_of_readFilter hExpand
          (readFilter_of_readRule hRule)
  · intro document hDocument hMisuses
    unfold ofText
    rw [hDocument]
    cases hPolicy : ofDocument context document with
    | error fault => exact ⟨fault, hPolicy⟩
    | ok policy => exact absurd hMisuses (not_misuses hPolicy)

/- A class with a class in it, behind a negation. -/
theorem ofText_inlines_nested :
    let context : Context := ⟨.builtin, 0⟩
    let text :=
      "fileclasses:\n  a: -uid 1\n" ++
        "  b: -class a -o -empty\n" ++
          "name: x\nfilter: -not -class b\n"
    ∃ policy,
      ofText context text = .ok policy ∧
      Expression.compile context.registry context.now
        ["-not", "(", "(", "-uid", "1", ")", "-o", "-empty",
          ")"] = .ok (policy.filter, policy.sorts) := by
  intro context text
  have hRead : (ofText context text).toOption.isSome := by
    decide +kernel
  rcases Option.isSome_iff_exists.1 hRead with
    ⟨policy, hPolicy⟩
  rw [toOption_eq_some_iff] at hPolicy
  rcases (ofText_inlines context text).1 policy hPolicy with
    ⟨document, classes, texts, hDocument, _, hTexts, _,
      hFilter, _⟩
  have hWritten :
      (Document.ofText? text).map (fun document =>
          (document.classes.mapM classText?,
            document.filter.bind FilterText.words?)) =
        some
          (some
            [("a", ["-uid", "1"]),
              ("b", ["-class", "a", "-o", "-empty"])],
            some ["-not", "-class", "b"]) := by
    decide +kernel
  rw [hDocument, Option.map_some, hTexts] at hWritten
  rcases Prod.mk.inj (Option.some.inj hWritten) with
    ⟨hClasses, hWords⟩
  cases hClasses
  refine ⟨policy, hPolicy, ?_⟩
  have hInlined :
      context.inline
          (context.inlineClasses []
            [("a", ["-uid", "1"]),
              ("b", ["-class", "a", "-o", "-empty"])])
          ["-not", "-class", "b"] =
        ["-not", "(", "(", "-uid", "1", ")", "-o", "-empty",
          ")"] := by
    decide +kernel
  rw [← hInlined]
  generalize document.filter = written at hFilter hWords
  rcases policy with ⟨name, filter, sorts, rules, fallback⟩
  cases hFilter with
  | absent => exact nomatch hWords
  | present hSame hCompile =>
      cases hSame.symm.trans hWords
      exact hCompile

end Policy

end TreeKeeper
