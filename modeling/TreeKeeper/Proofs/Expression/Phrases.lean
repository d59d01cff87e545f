import TreeKeeper.Proofs.Expression.Reading

/-
  Expressions as phrases.  A phrase is an operator, a sort
  directive with its field, or a predicate with its
  arguments, and each word of an expression that is read
  belongs to one.  Words in the place of phrases that stand
  for the same give another expression with the same filter.

  Key definitions include:
    * `Expression.phrases`
    * `Expression.Phrase`
    * `Expression.IsSpoken`
    * `Expression.exchange`
    * `Expression.Exchanges`

  Main declarations:
    * `Expression.Sentence.isSpoken`
    * `Expression.Sentence.exchange`
-/

------------------------------------------------------------
-- Splitting Words
------------------------------------------------------------

namespace TreeKeeper

namespace Expression

/- How many words behind a word belong to it. -/
def argumentCount
    (registry : Registry)
    (word : String) : Nat :=
  match registry.classify word with
  | .predicate p => p.arity
  | .sort _ => 1
  | _ => 0

/-
  Split words into phrases.  The number tells how many words
  in front belong to a phrase that is already complete.
-/
def phrasesBehind
    (registry : Registry) :
    Nat → List String → List (List String)
| _, [] => []
| 0, word :: rest =>
    (word :: rest.take (argumentCount registry word)) ::
      phrasesBehind registry (argumentCount registry word)
        rest
| taken + 1, _ :: rest => phrasesBehind registry taken rest

/- The phrases of an expression, by its words alone. -/
def phrases
    (registry : Registry)
    (words : List String) : List (List String) :=
  phrasesBehind registry 0 words

theorem phrasesBehind_eq_drop
    (registry : Registry)
    (taken : Nat)
    (words : List String) :
    phrasesBehind registry taken words =
      phrases registry (words.drop taken) := by
  induction words generalizing taken with
  | nil => simp [phrases, phrasesBehind]
  | cons word rest ih =>
      cases taken with
      | zero => rfl
      | succ taken => exact ih taken

/- A phrase is a word with as many as belong to it. -/
theorem phrases_cons
    (registry : Registry)
    (word : String)
    (args rest : List String)
    (hArgs : args.length = argumentCount registry word) :
    phrases registry (word :: (args ++ rest)) =
      (word :: args) :: phrases registry rest := by
  unfold phrases
  rw [phrasesBehind, ← hArgs, phrasesBehind_eq_drop,
    List.take_left' rfl, List.drop_left' rfl]
  rfl

/- Only the numbers of arguments tell phrases apart. -/
theorem phrases_congr
    {registry other : Registry}
    (hCounts :
      ∀ word,
        argumentCount registry word =
          argumentCount other word)
    (words : List String) :
    phrases registry words = phrases other words := by
  unfold phrases
  generalize 0 = taken
  induction words generalizing taken with
  | nil => rfl
  | cons word rest ih =>
      cases taken with
      | zero =>
          rw [phrasesBehind, phrasesBehind, hCounts, ih]
      | succ taken => exact ih taken

------------------------------------------------------------
-- Phrases
------------------------------------------------------------

/- The words that are phrases of their own. -/
def IsSign (word : String) : Prop :=
  word = "(" ∨ word = ")" ∨ IsNegation word ∨
    IsConjunction word ∨ IsDisjunction word

/-
  The phrases of expressions with given sort keys: operators
  and parentheses, sort directives for one of the keys, and
  predicates with arguments that they accept.
-/
inductive Phrase
    (registry : Registry)
    (now : Int64)
    (sorts : List SortKey) : List String → Prop
| sign
    {word : String}
    (hWord : IsSign word) :
    Phrase registry now sorts [word]
| directive
    {ascending : Bool}
    {word : String}
    {field : Field}
    (hWord : IsSort ascending word)
    (hKey : ⟨field, ascending⟩ ∈ sorts) :
    Phrase registry now sorts [word, field.title]
| predicate
    {word : String}
    {p : Predicate}
    {args : List String}
    {filter : Filter}
    (hOffers : Offers registry word p)
    (hArity : args.length = p.arity)
    (hBuild : p.build now args = .ok filter) :
    Phrase registry now sorts (word :: args)

variable {registry : Registry} {now : Int64}
variable {sorts more : List SortKey}
variable {words behind phrase : List String}

/- A sign is no predicate, sort directive or action. -/
theorem classify_of_isSign
    (registry : Registry)
    {word : String}
    (hWord : IsSign word) :
    registry.classify word = .opening ∨
      registry.classify word = .closing ∨
      registry.classify word = .negation ∨
      registry.classify word = .conjunction ∨
      registry.classify word = .disjunction := by
  unfold IsSign at hWord
  rwa [classify_eq_opening_iff, classify_eq_closing_iff,
    classify_eq_negation_iff, classify_eq_conjunction_iff,
    classify_eq_disjunction_iff]

theorem argumentCount_of_isSign
    {word : String}
    (hWord : IsSign word) :
    argumentCount registry word = 0 := by
  unfold argumentCount
  rcases classify_of_isSign registry hWord
    with hWord | hWord | hWord | hWord | hWord <;>
    rw [hWord]

namespace Phrase

theorem mono
    (hPhrase : Phrase registry now sorts phrase)
    (hSorts : sorts ⊆ more) :
    Phrase registry now more phrase := by
  cases hPhrase with
  | sign hWord => exact .sign hWord
  | directive hWord hKey =>
      exact .directive hWord (hSorts hKey)
  | predicate hOffers hArity hBuild =>
      exact .predicate hOffers hArity hBuild

/- A phrase in front of words is split off. -/
theorem phrases_append
    (hPhrase : Phrase registry now sorts phrase)
    (rest : List String) :
    phrases registry (phrase ++ rest) =
      phrase :: phrases registry rest := by
  cases hPhrase with
  | @sign word hWord =>
      exact phrases_cons registry word [] rest
        (argumentCount_of_isSign hWord).symm
  | @directive ascending word field hWord hKey =>
      apply phrases_cons registry word [field.title] rest
      unfold argumentCount
      rw [classify_eq_sort_iff.2 hWord]
      rfl
  | @predicate word p args filter hOffers hArity hBuild =>
      apply phrases_cons registry word args rest
      unfold argumentCount
      rw [classify_eq_predicate_iff.2 hOffers]
      exact hArity

/- A phrase does not begin with an action. -/
theorem classify_ne_action
    {word : String}
    {args : List String}
    (hPhrase : Phrase registry now sorts (word :: args)) :
    registry.classify word ≠ .action := by
  cases hPhrase with
  | sign hWord =>
      rcases classify_of_isSign registry hWord
        with hWord | hWord | hWord | hWord | hWord <;>
        rw [hWord] <;> nofun
  | directive hWord hKey =>
      rw [classify_eq_sort_iff.2 hWord]
      nofun
  | predicate hOffers hArity hBuild =>
      rw [classify_eq_predicate_iff.2 hOffers]
      nofun

/- A phrase that begins with a sort directive has a key. -/
theorem sorts_ne_nil
    {ascending : Bool}
    {word : String}
    {args : List String}
    (hPhrase : Phrase registry now sorts (word :: args))
    (hWord : IsSort ascending word) :
    sorts ≠ [] := by
  have hSort : registry.classify word = .sort ascending :=
    classify_eq_sort_iff.2 hWord
  cases hPhrase with
  | sign hSign =>
      rcases classify_of_isSign registry hSign
        with hSign | hSign | hSign | hSign | hSign <;>
        rw [hSign] at hSort <;> nomatch hSort
  | directive _ hKey => exact List.ne_nil_of_mem hKey
  | predicate hOffers =>
      rw [classify_eq_predicate_iff.2 hOffers] at hSort
      nomatch hSort

end Phrase

/- Whether words are phrases, one behind the other. -/
def IsSpoken
    (registry : Registry)
    (now : Int64)
    (sorts : List SortKey)
    (words : List String) : Prop :=
  ∃ spoken : List (List String),
    words = spoken.flatten ∧
    ∀ phrase ∈ spoken, Phrase registry now sorts phrase

namespace IsSpoken

theorem nil : IsSpoken registry now sorts [] :=
  ⟨[], rfl, nofun⟩

theorem cons
    (hPhrase : Phrase registry now sorts phrase)
    (hWords : IsSpoken registry now sorts words) :
    IsSpoken registry now sorts (phrase ++ words) := by
  rcases hWords with ⟨spoken, rfl, hSpoken⟩
  exact ⟨phrase :: spoken, rfl,
    List.forall_mem_cons.2 ⟨hPhrase, hSpoken⟩⟩

theorem sign
    {word : String}
    (hWord : IsSign word)
    (hWords : IsSpoken registry now sorts words) :
    IsSpoken registry now sorts (word :: words) :=
  hWords.cons (.sign hWord)

theorem append
    (hWords : IsSpoken registry now sorts words)
    (hBehind : IsSpoken registry now sorts behind) :
    IsSpoken registry now sorts (words ++ behind) := by
  rcases hWords with ⟨spoken, rfl, hSpoken⟩
  rcases hBehind with ⟨others, rfl, hOthers⟩
  refine ⟨spoken ++ others, List.flatten_append.symm, ?_⟩
  exact List.forall_mem_append.2 ⟨hSpoken, hOthers⟩

theorem mono
    (hWords : IsSpoken registry now sorts words)
    (hSorts : sorts ⊆ more) :
    IsSpoken registry now more words := by
  rcases hWords with ⟨spoken, hFlatten, hSpoken⟩
  exact ⟨spoken, hFlatten,
    fun phrase hPhrase =>
      (hSpoken phrase hPhrase).mono hSorts⟩

/- Words are split into the phrases that they are made of. -/
theorem exists_phrases
    (hWords : IsSpoken registry now sorts words) :
    (∀ rest,
      phrases registry (words ++ rest) =
        phrases registry words ++ phrases registry rest) ∧
    ∀ phrase ∈ phrases registry words,
      Phrase registry now sorts phrase := by
  have hSplit :
      ∀ spoken : List (List String),
        (∀ phrase ∈ spoken,
          Phrase registry now sorts phrase) →
        ∀ rest,
          phrases registry (spoken.flatten ++ rest) =
            spoken ++ phrases registry rest := by
    intro spoken hSpoken rest
    induction spoken with
    | nil => rfl
    | cons phrase others ih =>
        rcases List.forall_mem_cons.1 hSpoken with
          ⟨hPhrase, hOthers⟩
        rw [List.flatten_cons, List.append_assoc,
          hPhrase.phrases_append, ih hOthers]
        rfl
  rcases hWords with ⟨spoken, rfl, hSpoken⟩
  have hAll : phrases registry spoken.flatten = spoken := by
    have hEnd := hSplit spoken hSpoken []
    rw [List.append_nil] at hEnd
    exact hEnd.trans (List.append_nil spoken)
  rw [hAll]
  exact ⟨hSplit spoken hSpoken, hSpoken⟩

end IsSpoken

theorem Phrase.isSpoken
    (hPhrase : Phrase registry now sorts phrase) :
    IsSpoken registry now sorts phrase := by
  have hWords := IsSpoken.nil.cons hPhrase
  rwa [List.append_nil] at hWords

mutual

/- The words of an operand are phrases. -/
theorem Factor.isSpoken
    {words : List String}
    {filter : Filter}
    {sorts : List SortKey} :
    Factor registry now words filter sorts →
      IsSpoken registry now sorts words
| .negation hWord hFactor =>
    hFactor.isSpoken.sign (.inr (.inr (.inl hWord)))
| .group hTerms _ =>
    (hTerms.isSpoken.append
      (IsSpoken.nil.sign (.inr (.inl rfl)))).sign (.inl rfl)
| .predicate hOffers hArity hBuild =>
    Phrase.isSpoken (.predicate hOffers hArity hBuild)

/- The words of items are phrases. -/
theorem Items.isSpoken
    {started : Bool}
    {words : List String}
    {filters : List Filter}
    {sorts : List SortKey} :
    Items registry now started words filters sorts →
      IsSpoken registry now sorts words
| .nil => .nil
| .sort hWord _ hItems =>
    (hItems.isSpoken.mono (List.subset_cons_self _ _)).cons
      (.directive hWord List.mem_cons_self)
| .factor hFactor hItems =>
    (hFactor.isSpoken.mono
      (List.subset_append_left _ _)).append
        (hItems.isSpoken.mono (List.subset_append_right _ _))
| .conjunction hWord hFactor hItems =>
    ((hFactor.isSpoken.mono
      (List.subset_append_left _ _)).append
        (hItems.isSpoken.mono
          (List.subset_append_right _ _))).sign
            (.inr (.inr (.inr (.inl hWord))))

/- The words of terms are phrases. -/
theorem Terms.isSpoken
    {words : List String}
    {filters : List Filter}
    {sorts : List SortKey} :
    Terms registry now words filters sorts →
      IsSpoken registry now sorts words
| .one hItems _ => hItems.isSpoken
| .more hItems _ hWord hTerms =>
    (hItems.isSpoken.mono
      (List.subset_append_left _ _)).append
        ((hTerms.isSpoken.mono
          (List.subset_append_right _ _)).sign
            (.inr (.inr (.inr (.inr hWord)))))

end

/- The words of an expression are phrases. -/
theorem Sentence.isSpoken
    {filter : Option Filter}
    (hSentence : Sentence registry now words filter sorts) :
    IsSpoken registry now sorts words := by
  cases hSentence with
  | terms hTerms _ => exact hTerms.isSpoken
  | directives hItems => exact hItems.isSpoken

------------------------------------------------------------
-- Exchange
------------------------------------------------------------

/- Words with others in the place of each of their phrases. -/
def exchange
    (registry : Registry)
    (change : List String → List String)
    (words : List String) : List String :=
  (phrases registry words).flatMap change

/-
  Whether a change of phrases keeps what they say when the
  changed ones are read with another registry.
-/
structure Exchanges
    (source target : Registry)
    (now : Int64)
    (change : List String → List String) : Prop where
  sign :
    ∀ {word : String},
      IsSign word → change [word] = [word]
  directive :
    ∀ {ascending : Bool} {word name : String},
      IsSort ascending word →
        change [word, name] = [word, name]
  predicate :
    ∀ {word : String} {p : Predicate}
      {args : List String} {filter : Filter},
      Offers source word p →
        args.length = p.arity →
          p.build now args = .ok filter →
            Factor target now (change (word :: args)) filter
              []

variable {target : Registry}
variable {change : List String → List String}

theorem Phrase.exchange_append
    (hPhrase : Phrase registry now sorts phrase)
    (change : List String → List String)
    (rest : List String) :
    exchange registry change (phrase ++ rest) =
      change phrase ++ exchange registry change rest := by
  unfold exchange
  rw [hPhrase.phrases_append, List.flatMap_cons]

theorem Phrase.exchange_eq
    (hPhrase : Phrase registry now sorts phrase)
    (change : List String → List String) :
    exchange registry change phrase = change phrase := by
  have hAppend := hPhrase.exchange_append change []
  rw [List.append_nil] at hAppend
  exact hAppend.trans (List.append_nil _)

theorem IsSpoken.exchange_append
    (hWords : IsSpoken registry now sorts words)
    (rest : List String) :
    exchange registry change (words ++ rest) =
      exchange registry change words ++
        exchange registry change rest := by
  unfold exchange
  rw [hWords.exists_phrases.1 rest, List.flatMap_append]

namespace Exchanges

theorem exchange_sign
    (hChange : Exchanges registry target now change)
    {word : String}
    (hWord : IsSign word)
    (rest : List String) :
    exchange registry change (word :: rest) =
      word :: exchange registry change rest := by
  have hPhrase : Phrase registry now [] [word] :=
    .sign hWord
  have hAppend := hPhrase.exchange_append change rest
  rwa [hChange.sign hWord] at hAppend

theorem exchange_directive
    (hChange : Exchanges registry target now change)
    {ascending : Bool}
    {word : String}
    {field : Field}
    (hWord : IsSort ascending word)
    (rest : List String) :
    exchange registry change
        (word :: field.title :: rest) =
      word :: field.title ::
        exchange registry change rest := by
  have hPhrase :
      Phrase registry now [⟨field, ascending⟩]
        [word, field.title] :=
    .directive hWord List.mem_cons_self
  have hAppend := hPhrase.exchange_append change rest
  rwa [hChange.directive hWord] at hAppend

end Exchanges

mutual

/- An exchange keeps the filter of an operand. -/
theorem Factor.exchange
    (hChange : Exchanges registry target now change)
    {words : List String}
    {filter : Filter}
    {sorts : List SortKey} :
    Factor registry now words filter sorts →
      Factor target now
        (exchange registry change words) filter sorts
| .negation hWord hFactor => by
    rw [hChange.exchange_sign (.inr (.inr (.inl hWord)))]
    exact .negation hWord (hFactor.exchange hChange)
| .group hTerms hJoined => by
    rw [List.cons_append, hChange.exchange_sign (.inl rfl),
      hTerms.isSpoken.exchange_append,
      hChange.exchange_sign (.inr (.inl rfl))]
    exact .group (hTerms.exchange hChange) hJoined
| .predicate hOffers hArity hBuild => by
    have hPhrase : Phrase registry now [] _ :=
      .predicate hOffers hArity hBuild
    rw [hPhrase.exchange_eq]
    exact hChange.predicate hOffers hArity hBuild

/- An exchange keeps the filters of items. -/
theorem Items.exchange
    (hChange : Exchanges registry target now change)
    {started : Bool}
    {words : List String}
    {filters : List Filter}
    {sorts : List SortKey} :
    Items registry now started words filters sorts →
      Items target now started
        (exchange registry change words) filters sorts
| .nil => .nil
| .sort hWord hField hItems => by
    rw [hChange.exchange_directive hWord]
    exact .sort hWord hField (hItems.exchange hChange)
| .factor hFactor hItems => by
    rw [hFactor.isSpoken.exchange_append]
    exact .factor (hFactor.exchange hChange)
      (hItems.exchange hChange)
| .conjunction hWord hFactor hItems => by
    rw [hChange.exchange_sign
        (.inr (.inr (.inr (.inl hWord)))),
      hFactor.isSpoken.exchange_append]
    exact .conjunction hWord (hFactor.exchange hChange)
      (hItems.exchange hChange)

/- An exchange keeps the filters of terms. -/
theorem Terms.exchange
    (hChange : Exchanges registry target now change)
    {words : List String}
    {filters : List Filter}
    {sorts : List SortKey} :
    Terms registry now words filters sorts →
      Terms target now
        (exchange registry change words) filters sorts
| .one hItems hJoined =>
    .one (hItems.exchange hChange) hJoined
| .more hItems hJoined hWord hTerms => by
    rw [hItems.isSpoken.exchange_append,
      hChange.exchange_sign
        (.inr (.inr (.inr (.inr hWord))))]
    exact .more (hItems.exchange hChange) hJoined hWord
      (hTerms.exchange hChange)

end

/- An exchange keeps the filter of an expression. -/
theorem Sentence.exchange
    {filter : Option Filter}
    (hChange : Exchanges registry target now change)
    (hSentence : Sentence registry now words filter sorts) :
    Sentence target now
      (exchange registry change words) filter sorts := by
  cases hSentence with
  | terms hTerms hJoined =>
      exact .terms (hTerms.exchange hChange) hJoined
  | directives hItems =>
      exact .directives (hItems.exchange hChange)

end Expression

end TreeKeeper
