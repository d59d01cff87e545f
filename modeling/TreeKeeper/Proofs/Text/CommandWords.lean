import TreeKeeper.Proofs.Outcome
import TreeKeeper.Text.CommandWords

/-
  The written form of command lines.  A word is written in
  one or more pieces: quoted runs, escaped characters and
  plain runs, in any mixture.  A command line is split into
  the words it is written for, and it is refused exactly if
  it ends inside of quotes or behind a backslash that has
  nothing to escape.

  Key definitions include:
    * `CommandWords.Inner`
    * `CommandWords.Piece`
    * `CommandWords.Renders`
    * `CommandWords.EndsOpen`

  Main declarations:
    * `CommandWords.splitFrom_piece`
    * `CommandWords.Renders.exists_splitFrom`
    * `CommandWords.renders_or_endsOpen`
    * `CommandWords.renders_of_split`
    * `CommandWords.split_iff_written`
-/

------------------------------------------------------------
-- Pieces Of Words
------------------------------------------------------------

namespace TreeKeeper

namespace CommandWords

/-
  What stands between double quotes: characters that are kept
  as they are, escaped quotes and backslashes, and backslashes
  in front of other characters, which are kept.
-/
inductive Inner where
| kept (c : Char) (hKept : c ≠ '"' ∧ c ≠ '\\')
| escaped (c : Char) (hEscaped : c = '"' ∨ c = '\\')
| stray (c : Char) (hStray : c ≠ '"' ∧ c ≠ '\\')

namespace Inner

/- The written form. -/
def text : Inner → List Char
| kept c _ => [c]
| escaped c _ => ['\\', c]
| stray c _ => ['\\', c]

/- The characters that are meant. -/
def content : Inner → List Char
| kept c _ => [c]
| escaped c _ => [c]
| stray c _ => ['\\', c]

end Inner

/- Whether a character stands for itself without quotes. -/
def IsPlain (c : Char) : Prop :=
  Text.isBlank c = false ∧ c ≠ '\'' ∧ c ≠ '"' ∧ c ≠ '\\'

/- The pieces that words are written in. -/
inductive Piece where
| single (run : List Char) (hRun : '\'' ∉ run)
| double (inner : List Inner)
| escaped (c : Char)
| plain
    (run : List Char)
    (hSome : run ≠ [])
    (hRun : ∀ c ∈ run, IsPlain c)

namespace Piece

/- The written form of a piece. -/
def text : Piece → List Char
| single run _ => '\'' :: (run ++ ['\''])
| double inner => '"' :: (inner.flatMap Inner.text ++ ['"'])
| escaped c => ['\\', c]
| plain run _ _ => run

/- The part of a word that a piece stands for. -/
def content : Piece → List Char
| single run _ => run
| double inner => inner.flatMap Inner.content
| escaped c => [c]
| plain run _ _ => run

end Piece

/- The word that is written in pieces. -/
def wordOf (pieces : List Piece) : String :=
  String.ofList (pieces.flatMap Piece.content)

/-
  Whether a text is written for words: each in at least one
  piece, at least one blank between two of them, and any
  number of blanks at both ends.
-/
inductive Renders : List String → List Char → Prop
| blank
    (gap : List Char)
    (hGap : ∀ c ∈ gap, Text.isBlank c = true) :
    Renders [] gap
| last
    (gap : List Char)
    (pieces : List Piece)
    (hGap : ∀ c ∈ gap, Text.isBlank c = true)
    (hSome : pieces ≠ []) :
    Renders [wordOf pieces]
      (gap ++ pieces.flatMap Piece.text)
| cons
    (gap : List Char)
    (pieces : List Piece)
    {blank : Char}
    {words : List String}
    {rest : List Char}
    (hGap : ∀ c ∈ gap, Text.isBlank c = true)
    (hSome : pieces ≠ [])
    (hBlank : Text.isBlank blank = true)
    (hRest : Renders words rest) :
    Renders (wordOf pieces :: words)
      (gap ++ pieces.flatMap Piece.text ++ blank :: rest)

/-
  Whether a text ends too early behind a part that is written
  for words: inside of single quotes, inside of double quotes,
  there perhaps behind a backslash, or outside of quotes
  behind a backslash.
-/
inductive EndsOpen : Fault → List Char → Prop
| single
    {words : List String}
    {front run : List Char}
    (hFront : Renders words front)
    (hRun : '\'' ∉ run) :
    EndsOpen .openQuote (front ++ '\'' :: run)
| double
    {words : List String}
    {front ending : List Char}
    (hFront : Renders words front)
    (inner : List Inner)
    (hEnding : ending = [] ∨ ending = ['\\']) :
    EndsOpen .openQuote
      (front ++ '"' :: (inner.flatMap Inner.text ++ ending))
| backslash
    {words : List String}
    {front : List Char}
    (hFront : Renders words front) :
    EndsOpen .openBackslash (front ++ ['\\'])

------------------------------------------------------------
-- Single Steps
------------------------------------------------------------

variable {word : Begun} {rest : List Char} {c : Char}

/-
  One step outside of quotes, in single quotes and between
  double quotes.  A backslash is a case of its own where it
  may escape what stands behind it.
-/
theorem splitFrom_none_cons
    (hBackslash : c ≠ '\\') :
    splitFrom .none word (c :: rest) =
      if Text.isBlank c then
        word.before (splitFrom .none none rest)
      else if c = '\'' then splitFrom .single word.start rest
      else if c = '"' then splitFrom .double word.start rest
      else splitFrom .none (word.add c) rest := by
  conv => lhs; unfold splitFrom
  split <;> simp_all

theorem splitFrom_single_cons :
    splitFrom .single word (c :: rest) =
      if c = '\'' then splitFrom .none word rest
      else splitFrom .single (word.add c) rest :=
  rfl

theorem splitFrom_double_cons
    (hBackslash : c ≠ '\\') :
    splitFrom .double word (c :: rest) =
      if c = '"' then splitFrom .none word rest
      else splitFrom .double (word.add c) rest := by
  conv => lhs; unfold splitFrom
  split <;> simp_all

theorem splitFrom_double_backslash :
    splitFrom .double word ('\\' :: c :: rest) =
      if c = '"' || c = '\\' then
        splitFrom .double (word.add c) rest
      else splitFrom .double ((word.add '\\').add c) rest :=
  rfl

/- Put characters behind a word, which thereby begins. -/
def Begun.extend
    (word : Begun)
    (cs : List Char) : Begun :=
  some (cs.reverse ++ word.getD [])

theorem Begun.add_extend
    (word : Begun)
    (c : Char)
    (cs : List Char) :
    (word.add c).extend cs = word.extend (c :: cs) := by
  simp [add, extend]

theorem Begun.extend_extend
    (word : Begun)
    (cs others : List Char) :
    (word.extend cs).extend others =
      word.extend (cs ++ others) := by
  simp [extend]

theorem Begun.finish_extend_none (cs : List Char) :
    Begun.finish (Begun.extend none cs) =
      [String.ofList cs] := by
  simp [extend, finish]

/- Where no word has begun, none is put in front. -/
theorem Begun.before_none
    (result : Except Fault (List String)) :
    Begun.before none result = result := by
  cases result <;> rfl

/- Outside of quotes a blank ends a word. -/
theorem splitFrom_blank
    (hBlank : Text.isBlank c = true) :
    splitFrom .none word (c :: rest) =
      word.before (splitFrom .none none rest) := by
  have hBackslash : c ≠ '\\' := by
    rintro rfl
    exact absurd hBlank (by decide)
  rw [splitFrom_none_cons hBackslash, if_pos hBlank]

theorem splitFrom_isPlain
    (hPlain : IsPlain c) :
    splitFrom .none word (c :: rest) =
      splitFrom .none (word.add c) rest := by
  rcases hPlain with ⟨hBlank, hSingle, hDouble, hBackslash⟩
  rw [splitFrom_none_cons hBackslash,
    if_neg (by simp [hBlank]), if_neg hSingle,
    if_neg hDouble]

/- A run in single quotes is kept up to the next quote. -/
theorem splitFrom_single
    {run : List Char}
    (hRun : '\'' ∉ run) :
    splitFrom .single (some (word.getD []))
        (run ++ '\'' :: rest) =
      splitFrom .none (word.extend run) rest := by
  induction run generalizing word with
  | nil =>
      rw [List.nil_append, splitFrom_single_cons, if_pos rfl]
      rfl
  | cons c run ih =>
      rw [List.mem_cons, not_or] at hRun
      rw [List.cons_append, splitFrom_single_cons,
        if_neg (Ne.symm hRun.1)]
      have hRest := @ih (word.add c) hRun.2
      rw [Begun.add_extend] at hRest
      exact hRest

theorem splitFrom_single_open
    {run : List Char}
    (hRun : '\'' ∉ run) :
    splitFrom .single word run = .error .openQuote := by
  induction run generalizing word with
  | nil => rfl
  | cons c run ih =>
      rw [List.mem_cons, not_or] at hRun
      rw [splitFrom_single_cons, if_neg (Ne.symm hRun.1)]
      exact ih hRun.2

/- Between double quotes each part is kept as it is meant. -/
theorem splitFrom_inner (inner : Inner) :
    splitFrom .double (some (word.getD []))
        (inner.text ++ rest) =
      splitFrom .double (word.extend inner.content)
        rest := by
  cases inner with
  | kept c hKept =>
      change splitFrom .double _ (c :: rest) = _
      rw [splitFrom_double_cons hKept.2, if_neg hKept.1]
      rfl
  | escaped c hEscaped =>
      change splitFrom .double _ ('\\' :: c :: rest) = _
      have hEither : (c = '"' || c = '\\') = true := by
        simpa using hEscaped
      rw [splitFrom_double_backslash, if_pos hEither]
      rfl
  | stray c hStray =>
      change splitFrom .double _ ('\\' :: c :: rest) = _
      have hNeither : ¬ (c = '"' || c = '\\') = true := by
        simpa using hStray
      rw [splitFrom_double_backslash, if_neg hNeither]
      rfl

theorem splitFrom_double (inner : List Inner) :
    splitFrom .double (some (word.getD []))
        (inner.flatMap Inner.text ++ rest) =
      splitFrom .double
        (word.extend (inner.flatMap Inner.content)) rest := by
  induction inner generalizing word with
  | nil => rfl
  | cons first inner ih =>
      rw [List.flatMap_cons, List.flatMap_cons,
        List.append_assoc, splitFrom_inner]
      have hRest := @ih (word.extend first.content)
      rw [Begun.extend_extend] at hRest
      exact hRest

theorem splitFrom_double_open
    (inner : List Inner)
    {ending : List Char}
    (hEnding : ending = [] ∨ ending = ['\\']) :
    splitFrom .double (some (word.getD []))
        (inner.flatMap Inner.text ++ ending) =
      .error .openQuote := by
  rw [splitFrom_double]
  rcases hEnding with rfl | rfl <;> rfl

theorem splitFrom_plain
    {run : List Char}
    (hSome : run ≠ [])
    (hRun : ∀ c ∈ run, IsPlain c) :
    splitFrom .none word (run ++ rest) =
      splitFrom .none (word.extend run) rest := by
  induction run generalizing word with
  | nil => exact absurd rfl hSome
  | cons c run ih =>
      rcases List.forall_mem_cons.1 hRun with
        ⟨hFirst, hOthers⟩
      rw [List.cons_append, splitFrom_isPlain hFirst]
      cases run with
      | nil => rfl
      | cons d run =>
          rw [ih (List.cons_ne_nil _ _) hOthers,
            Begun.add_extend]

/- A piece puts what it stands for behind the word. -/
theorem splitFrom_piece (piece : Piece) :
    splitFrom .none word (piece.text ++ rest) =
      splitFrom .none (word.extend piece.content) rest := by
  cases piece with
  | single run hRun =>
      change splitFrom .none word
        ('\'' :: (run ++ ['\''] ++ rest)) = _
      rw [List.append_assoc, List.singleton_append]
      exact splitFrom_single hRun
  | double inner =>
      change splitFrom .none word
        ('"' :: (inner.flatMap Inner.text ++ ['"'] ++ rest))
          = _
      rw [List.append_assoc, List.singleton_append]
      exact splitFrom_double inner
  | escaped c => rfl
  | plain run hSome hRun =>
      change splitFrom .none word (run ++ rest) =
        splitFrom .none (word.extend run) rest
      exact splitFrom_plain hSome hRun

/- Pieces put a whole word behind the one that has begun. -/
theorem splitFrom_pieces
    {pieces : List Piece}
    (hSome : pieces ≠ []) :
    splitFrom .none word
        (pieces.flatMap Piece.text ++ rest) =
      splitFrom .none
        (word.extend (pieces.flatMap Piece.content))
        rest := by
  induction pieces generalizing word with
  | nil => exact absurd rfl hSome
  | cons piece pieces ih =>
      rw [List.flatMap_cons, List.flatMap_cons,
        List.append_assoc, splitFrom_piece]
      cases pieces with
      | nil => simp
      | cons next pieces =>
          rw [ih (List.cons_ne_nil _ _),
            Begun.extend_extend]

/- Blanks in front of words are passed over. -/
theorem splitFrom_gap
    {gap : List Char}
    (hGap : ∀ c ∈ gap, Text.isBlank c = true) :
    splitFrom .none none (gap ++ rest) =
      splitFrom .none none rest := by
  induction gap with
  | nil => rfl
  | cons c gap ih =>
      rcases List.forall_mem_cons.1 hGap with ⟨hBlank, hGap⟩
      rw [List.cons_append, splitFrom_blank hBlank, ih hGap]
      exact Begun.before_none _

------------------------------------------------------------
-- Written Command Lines
------------------------------------------------------------

/-
  Whatever stands behind a text that is written for words,
  it is split as if it stood behind the last of the words.
-/
theorem Renders.exists_splitFrom
    {words : List String}
    {text : List Char}
    (h : Renders words text) :
    ∃ (front : List String) (begun : Begun),
      words = front ++ begun.finish ∧
      ∀ rest,
        splitFrom .none none (text ++ rest) =
          (splitFrom .none begun rest).map (front ++ ·) := by
  induction h with
  | blank gap hGap =>
      refine ⟨[], none, rfl, fun rest => ?_⟩
      rw [splitFrom_gap hGap]
      exact (Begun.before_none _).symm
  | last gap pieces hGap hSome =>
      refine ⟨[],
        Begun.extend none (pieces.flatMap Piece.content),
        ?_, fun rest => ?_⟩
      · rw [Begun.finish_extend_none]
        rfl
      · rw [List.append_assoc, splitFrom_gap hGap,
          splitFrom_pieces hSome]
        exact (Begun.before_none _).symm
  | cons gap pieces hGap hSome hBlank _ ih =>
      rcases ih with ⟨front, begun, rfl, hRest⟩
      refine ⟨wordOf pieces :: front, begun, rfl,
        fun rest => ?_⟩
      rw [List.append_assoc, List.append_assoc,
        splitFrom_gap hGap, splitFrom_pieces hSome,
        List.cons_append, splitFrom_blank hBlank, hRest]
      unfold Begun.before
      rw [Begun.finish_extend_none]
      cases splitFrom .none begun rest <;> rfl

theorem Renders.split
    {words : List String}
    {text : String}
    (h : Renders words text.toList) :
    CommandWords.split text = .ok words := by
  rcases h.exists_splitFrom with ⟨front, begun, rfl, hRest⟩
  have hEnd := hRest []
  rw [List.append_nil] at hEnd
  exact hEnd

/- What ends too early is refused for its reason. -/
theorem EndsOpen.split
    {fault : Fault}
    {text : String}
    (h : EndsOpen fault text.toList) :
    CommandWords.split text = .error fault := by
  unfold CommandWords.split
  generalize text.toList = cs at h
  cases h with
  | single hFront hRun =>
      rcases hFront.exists_splitFrom with
        ⟨front, begun, _, hRest⟩
      rw [hRest]
      have hOpen :
          splitFrom .none begun ('\'' :: _) =
            .error .openQuote :=
        splitFrom_single_open hRun
      rw [hOpen]
      rfl
  | double hFront inner hEnding =>
      rcases hFront.exists_splitFrom with
        ⟨front, begun, _, hRest⟩
      rw [hRest]
      have hOpen :
          splitFrom .none begun ('"' :: _) =
            .error .openQuote :=
        splitFrom_double_open inner hEnding
      rw [hOpen]
      rfl
  | backslash hFront =>
      rcases hFront.exists_splitFrom with
        ⟨front, begun, _, hRest⟩
      rw [hRest]
      rfl

------------------------------------------------------------
-- Every Text
------------------------------------------------------------

/- A blank may stand in front of what is written for words. -/
theorem Renders.behind_blank
    {words : List String}
    {text : List Char}
    {c : Char}
    (hBlank : Text.isBlank c = true)
    (h : Renders words text) :
    Renders words (c :: text) := by
  cases h with
  | blank _ hGap =>
      exact .blank (c :: text)
        (List.forall_mem_cons.2 ⟨hBlank, hGap⟩)
  | last gap pieces hGap hSome =>
      exact .last (c :: gap) pieces
        (List.forall_mem_cons.2 ⟨hBlank, hGap⟩) hSome
  | cons gap pieces hGap hSome hEnd hRest =>
      exact .cons (c :: gap) pieces
        (List.forall_mem_cons.2 ⟨hBlank, hGap⟩) hSome hEnd
        hRest

/- In front of a blank a piece is a word of its own. -/
theorem Renders.behind_piece_blank
    {words : List String}
    {text : List Char}
    {c : Char}
    (piece : Piece)
    (hBlank : Text.isBlank c = true)
    (h : Renders words text) :
    Renders (wordOf [piece] :: words)
      (piece.text ++ c :: text) := by
  have hCons := Renders.cons [] [piece] nofun
    (List.cons_ne_nil _ _) hBlank h
  rwa [List.nil_append, List.flatMap_singleton] at hCons

/-
  A piece may stand in front of what is written for words: it
  belongs to the first word if no blank is in between, and is
  a word of its own otherwise.
-/
theorem Renders.behind_piece
    {words : List String}
    {text : List Char}
    (piece : Piece)
    (h : Renders words text) :
    ∃ others, Renders others (piece.text ++ text) := by
  cases h with
  | blank _ hGap =>
      cases text with
      | nil =>
          have hLast := Renders.last [] [piece] nofun
            (List.cons_ne_nil _ _)
          rw [List.nil_append, List.flatMap_singleton]
            at hLast
          rw [List.append_nil]
          exact ⟨_, hLast⟩
      | cons c gap =>
          rcases List.forall_mem_cons.1 hGap with
            ⟨hBlank, hGap⟩
          exact ⟨_, .behind_piece_blank piece hBlank
            (.blank gap hGap)⟩
  | last gap pieces hGap hSome =>
      cases gap with
      | nil =>
          have hLast := Renders.last [] (piece :: pieces)
            nofun (List.cons_ne_nil _ _)
          exact ⟨_, hLast⟩
      | cons c gap =>
          rcases List.forall_mem_cons.1 hGap with
            ⟨hBlank, hGap⟩
          exact ⟨_, .behind_piece_blank piece hBlank
            (.last gap pieces hGap hSome)⟩
  | cons gap pieces hGap hSome hEnd hRest =>
      cases gap with
      | nil =>
          have hCons := Renders.cons [] (piece :: pieces)
            nofun (List.cons_ne_nil _ _) hEnd hRest
          rw [List.flatMap_cons, List.nil_append,
            List.append_assoc] at hCons
          exact ⟨_, hCons⟩
      | cons c gap =>
          rcases List.forall_mem_cons.1 hGap with
            ⟨hBlank, hGap⟩
          exact ⟨_, .behind_piece_blank piece hBlank
            (.cons gap pieces hGap hSome hEnd hRest)⟩

/-
  Whether a text behind a double quote closes it, or does not
  and ends inside of it.
-/
def GoesOnQuoted (text : List Char) : Prop :=
  ∃ inner : List Inner,
    (∃ behind,
      text = inner.flatMap Inner.text ++ '"' :: behind) ∨
    ∃ ending,
      text = inner.flatMap Inner.text ++ ending ∧
      (ending = [] ∨ ending = ['\\'])

theorem GoesOnQuoted.append
    {text : List Char}
    (next : Inner)
    (h : GoesOnQuoted text) :
    GoesOnQuoted (next.text ++ text) := by
  rcases h with
    ⟨inner, ⟨behind, rfl⟩ | ⟨ending, rfl, hEnding⟩⟩
  · exact ⟨next :: inner, .inl ⟨behind, by simp⟩⟩
  · exact ⟨next :: inner, .inr ⟨ending, by simp, hEnding⟩⟩

/- What stands behind a backslash is kept with it or not. -/
theorem exists_inner_of_backslash (c : Char) :
    ∃ next : Inner, next.text = ['\\', c] := by
  by_cases hEscaped : c = '"' ∨ c = '\\'
  · exact ⟨.escaped c hEscaped, rfl⟩
  · exact ⟨.stray c (not_or.1 hEscaped), rfl⟩

theorem goesOnQuoted : ∀ text, GoesOnQuoted text
| [] => ⟨[], .inr ⟨[], rfl, .inl rfl⟩⟩
| [c] => by
    by_cases hQuote : c = '"'
    · exact ⟨[], .inl ⟨[], by rw [hQuote]; rfl⟩⟩
    · by_cases hBackslash : c = '\\'
      · exact ⟨[], .inr ⟨[c], rfl, .inr (by rw [hBackslash])⟩⟩
      · exact GoesOnQuoted.append
          (.kept c ⟨hQuote, hBackslash⟩) (goesOnQuoted [])
| c :: d :: rest => by
    by_cases hQuote : c = '"'
    · exact ⟨[], .inl ⟨d :: rest, by rw [hQuote]; rfl⟩⟩
    · by_cases hBackslash : c = '\\'
      · rcases exists_inner_of_backslash d with
          ⟨next, hText⟩
        have hRest := (goesOnQuoted rest).append next
        rw [hText] at hRest
        rw [hBackslash]
        exact hRest
      · exact GoesOnQuoted.append
          (.kept c ⟨hQuote, hBackslash⟩)
          (goesOnQuoted (d :: rest))

/- A blank or a piece may stand in front of an open end. -/
theorem EndsOpen.behind
    {fault : Fault}
    {text front : List Char}
    (hFront :
      ∀ {words : List String} {behind : List Char},
        Renders words behind →
          ∃ others, Renders others (front ++ behind))
    (h : EndsOpen fault text) :
    EndsOpen fault (front ++ text) := by
  cases h with
  | single hWords hRun =>
      rcases hFront hWords with ⟨others, hOthers⟩
      rw [← List.append_assoc]
      exact .single hOthers hRun
  | double hWords inner hEnding =>
      rcases hFront hWords with ⟨others, hOthers⟩
      rw [← List.append_assoc]
      exact .double hOthers inner hEnding
  | backslash hWords =>
      rcases hFront hWords with ⟨others, hOthers⟩
      rw [← List.append_assoc]
      exact .backslash hOthers

/- Whether a text is written for words or ends too early. -/
def IsSettled (text : List Char) : Prop :=
  (∃ words, Renders words text) ∨
    ∃ fault, EndsOpen fault text

theorem IsSettled.append
    {text front : List Char}
    (hFront :
      ∀ {words : List String} {behind : List Char},
        Renders words behind →
          ∃ others, Renders others (front ++ behind))
    (h : IsSettled text) :
    IsSettled (front ++ text) := by
  rcases h with ⟨words, hWords⟩ | ⟨fault, hOpen⟩
  · exact .inl (hFront hWords)
  · exact .inr ⟨fault, hOpen.behind hFront⟩

theorem IsSettled.behind_piece
    {text : List Char}
    (piece : Piece)
    (h : IsSettled text) :
    IsSettled (piece.text ++ text) :=
  h.append (Renders.behind_piece piece)

/-
  There is no third way.  The induction is on the length, as
  a piece takes as much of a text as it needs.
-/
theorem renders_or_endsOpen (text : List Char) :
    IsSettled text := by
  have hNone : Renders [] [] := .blank [] nofun
  induction hLength : text.length using Nat.strongRecOn
    generalizing text with
  | _ length ih =>
      subst hLength
      cases text with
      | nil => exact .inl ⟨[], hNone⟩
      | cons c text =>
          by_cases hBlank : Text.isBlank c = true
          · change IsSettled ([c] ++ text)
            exact (ih text.length (by simp) text rfl).append
              fun h => ⟨_, h.behind_blank hBlank⟩
          · by_cases hSingle : c = '\''
            · subst hSingle
              by_cases hClosed : '\'' ∈ text
              · rcases List.eq_append_cons_of_mem hClosed with
                  ⟨run, behind, rfl, hRun⟩
                have hBehind :=
                  (ih behind.length (by simp; omega) behind
                    rfl).behind_piece (.single run hRun)
                simpa [Piece.text] using hBehind
              · exact .inr ⟨_, .single hNone hClosed⟩
            · by_cases hDouble : c = '"'
              · subst hDouble
                rcases goesOnQuoted text with
                  ⟨inner, ⟨behind, rfl⟩ |
                    ⟨ending, rfl, hEnding⟩⟩
                · have hBehind :=
                    (ih behind.length (by simp; omega) behind
                      rfl).behind_piece (.double inner)
                  simpa [Piece.text] using hBehind
                · exact .inr
                    ⟨_, .double hNone inner hEnding⟩
              · by_cases hBackslash : c = '\\'
                · subst hBackslash
                  cases text with
                  | nil => exact .inr ⟨_, .backslash hNone⟩
                  | cons d text =>
                      have hShort :
                          text.length <
                            ('\\' :: d :: text).length :=
                        Nat.lt_add_of_pos_right
                          Nat.two_pos
                      exact (ih text.length hShort text
                        rfl).behind_piece (.escaped d)
                · have hPlain : IsPlain c :=
                    ⟨by simpa using hBlank, hSingle, hDouble,
                      hBackslash⟩
                  exact (ih text.length (by simp) text
                    rfl).behind_piece
                      (.plain [c] (List.cons_ne_nil _ _)
                        (by simpa using hPlain))

------------------------------------------------------------
-- Splitting
------------------------------------------------------------

/- What is split is written for its words. -/
theorem renders_of_split
    {text : String}
    {words : List String}
    (h : split text = .ok words) :
    Renders words text.toList := by
  rcases renders_or_endsOpen text.toList with
    ⟨others, hOthers⟩ | ⟨fault, hOpen⟩
  · rw [hOthers.split] at h
    cases h
    exact hOthers
  · rw [hOpen.split] at h
    exact nomatch h

/- What is refused ends too early for the reason given. -/
theorem endsOpen_of_split
    {text : String}
    {fault : Fault}
    (h : split text = .error fault) :
    EndsOpen fault text.toList := by
  rcases renders_or_endsOpen text.toList with
    ⟨words, hWords⟩ | ⟨other, hOpen⟩
  · rw [hWords.split] at h
    exact nomatch h
  · rw [hOpen.split] at h
    cases h
    exact hOpen

/-
  A text is split into words if and only if it is written for
  them, and it is refused for a reason if and only if it ends
  too early in the way that the reason says.
-/
theorem split_iff_written (text : String) :
    (∀ words,
      split text = .ok words ↔ Renders words text.toList) ∧
    ∀ fault,
      split text = .error fault ↔
        EndsOpen fault text.toList :=
  ⟨fun _ => ⟨renders_of_split, Renders.split⟩,
    fun _ => ⟨endsOpen_of_split, EndsOpen.split⟩⟩

example :
    split "echo \"a \\\"b\\\" \\n\" c\\ d ''" =
      .ok ["echo", "a \"b\" \\n", "c d", ""] := by
  rfl

end CommandWords

end TreeKeeper
