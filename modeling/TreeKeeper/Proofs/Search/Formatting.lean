import TreeKeeper.Proofs.Outcome
import TreeKeeper.Proofs.Text.Pieces
import TreeKeeper.Search.Format

/-
  What formats print.  A format is written in parts: plain
  characters, doubled percent signs, directives and escapes.
  Reading gathers literal text across parts, and what it has
  read prints what the parts stand for, however a format was
  put together.  It fails just where a part breaks off or has
  a letter of no directive and no escape.

  Key definitions include:
    * `Format.Meaning`
    * `Format.Spells`
    * `Format.Written`
    * `Format.Fails`
    * `Format.print`
    * `Format.Quotes`

  Main declarations:
    * `Format.readPieces_part`
    * `Format.exists_readPieces_front`
    * `Format.ofText_of_written`
    * `Format.ofText_eq_error_iff`
    * `Format.print_directive`
    * `Format.ofText_appends_and_quotes`
-/

------------------------------------------------------------
-- Written Formats
------------------------------------------------------------

namespace TreeKeeper

namespace Format

/- The letters of a directive. -/
def Directive.letters : Directive → List Char
| accessTime => ['a']
| blocks => ['b']
| changeTime => ['c']
| depth => ['d']
| name => ['f']
| group => ['g', 'G']
| directory => ['h']
| inode => ['i']
| kilobytes => ['k']
| target => ['l']
| octalMode => ['m']
| modeText => ['M']
| links => ['n']
| path => ['p']
| relativePath => ['P']
| size => ['s']
| modifyTime => ['t']
| user => ['u', 'U']
| kindLetter => ['y']

/- The letters that may be escaped, with what they stand for. -/
def escapes : List (Char × Char) :=
  [('n', '\n'), ('t', '\t'), ('0', '\x00'), ('\\', '\\')]

/- What a part of a format stands for. -/
inductive Meaning where
| character (c : Char)
| directive (d : Directive)

/- What one part of a format is written as. -/
inductive Spells : List Char → Meaning → Prop
| plain
    {c : Char}
    (hPercent : c ≠ '%')
    (hBackslash : c ≠ '\\') :
    Spells [c] (.character c)
| percent : Spells ['%', '%'] (.character '%')
| directive
    {c : Char}
    {d : Directive}
    (hLetter : c ∈ d.letters) :
    Spells ['%', c] (.directive d)
| escape
    {c d : Char}
    (hLetter : (c, d) ∈ escapes) :
    Spells ['\\', c] (.character d)

/- Formats that are written in parts. -/
inductive Written : List Char → List Meaning → Prop
| nil : Written [] []
| cons
    {part rest : List Char}
    {meaning : Meaning}
    {meanings : List Meaning}
    (hPart : Spells part meaning)
    (hRest : Written rest meanings) :
    Written (part ++ rest) (meaning :: meanings)

/-
  Texts that begin with no part: they end in the middle of
  one, or the letter of a directive or an escape is unknown.
-/
inductive Breaks : List Char → Fault → Prop
| openDirective : Breaks ['%'] .openDirective
| directive
    {c : Char}
    (hPercent : c ≠ '%')
    (hLetter : ∀ d : Directive, c ∉ d.letters)
    (rest : List Char) :
    Breaks ('%' :: c :: rest) (.directive c)
| openEscape : Breaks ['\\'] .openEscape
| escape
    {c : Char}
    (hLetter : c ∉ escapes.map Prod.fst)
    (rest : List Char) :
    Breaks ('\\' :: c :: rest) (.escape c)

/- Texts with a fault behind parts without one. -/
def Fails (text : List Char) (fault : Fault) : Prop :=
  ∃ front meanings rest,
    Written front meanings ∧
    Breaks rest fault ∧
    text = front ++ rest

/- A text behind another one, if there are both. -/
def joined
    (first second : Option (List Char)) :
    Option (List Char) := do
  return (← first) ++ (← second)

/- What a part prints of an entry. -/
def Meaning.text?
    (entry : Entry) : Meaning → Option (List Char)
| character c => some [c]
| directive d => (d.render? entry).map String.toList

/- What parts print of an entry. -/
def meant
    (entry : Entry) : List Meaning → Option (List Char)
| [] => some []
| meaning :: rest =>
    joined (meaning.text? entry) (meant entry rest)

/- What pieces print of an entry. -/
def printed
    (entry : Entry) : List Piece → Option (List Char)
| [] => some []
| piece :: rest =>
    joined ((piece.render? entry).map String.toList)
      (printed entry rest)

variable {part front rest text : List Char}
variable {meaning : Meaning}
variable {meanings others : List Meaning}
variable {fault : Fault}

theorem Written.append
    (hFirst : Written front meanings)
    (hSecond : Written rest others) :
    Written (front ++ rest) (meanings ++ others) := by
  induction hFirst with
  | nil => exact hSecond
  | cons hPart _ ih =>
      rw [List.append_assoc]
      exact .cons hPart ih

------------------------------------------------------------
-- Letters
------------------------------------------------------------

theorem Directive.ofLetter?_eq_some_iff
    {c : Char}
    {d : Directive} :
    ofLetter? c = some d ↔ c ∈ d.letters := by
  constructor
  · intro h
    unfold ofLetter? at h
    split at h <;> cases h <;> simp [letters]
  · intro h
    cases d <;> simp only [letters, List.mem_cons,
      List.not_mem_nil, or_false] at h <;>
      rcases h with rfl | rfl <;> rfl

theorem escaped?_eq_some_iff
    {c d : Char} :
    escaped? c = some d ↔ (c, d) ∈ escapes := by
  unfold escaped? escapes
  constructor
  · intro h
    split at h <;> cases h <;> simp
  · intro h
    simp only [List.mem_cons, List.not_mem_nil, or_false,
      Prod.mk.injEq] at h
    rcases h with ⟨rfl, rfl⟩ | ⟨rfl, rfl⟩ | ⟨rfl, rfl⟩ |
      ⟨rfl, rfl⟩ <;> rfl

------------------------------------------------------------
-- Reading
------------------------------------------------------------

@[simp]
theorem joined_some
    (first : List Char)
    (second : Option (List Char)) :
    joined (some first) second = second.map (first ++ ·) := by
  cases second <;> rfl

@[simp]
theorem joined_none
    (second : Option (List Char)) :
    joined none second = none := rfl

theorem joined_assoc
    (first second third : Option (List Char)) :
    joined (joined first second) third =
      joined first (joined second third) := by
  cases first <;> cases second <;> cases third <;>
    simp [joined]

theorem printed_gathered
    (entry : Entry)
    (pending : List Char) :
    printed entry (gathered pending) = some pending := by
  unfold gathered
  split
  · rename_i hNone
    rw [hNone]
    rfl
  · simp [printed, Piece.render?]

theorem printed_append
    (entry : Entry)
    (first second : List Piece) :
    printed entry (first ++ second) =
      joined (printed entry first)
        (printed entry second) := by
  induction first with
  | nil => cases hSecond : printed entry second <;>
      simp [printed, hSecond]
  | cons piece first ih =>
      rw [List.cons_append, printed, printed, ih,
        joined_assoc]

theorem meant_append
    (entry : Entry)
    (meanings others : List Meaning) :
    meant entry (meanings ++ others) =
      joined (meant entry meanings)
        (meant entry others) := by
  induction meanings with
  | nil => cases hOthers : meant entry others <;>
      simp [meant, hOthers]
  | cons meaning meanings ih =>
      rw [List.cons_append, meant, meant, ih, joined_assoc]

/-
  What reading makes of the front of a format behind pending
  text: pieces, and text that is pending behind the front.
-/
def Makes
    (pending front : List Char)
    (made : List Piece)
    (left : List Char) : Prop :=
  ∀ rest, readPieces pending (front ++ rest) =
    (readPieces left rest).map (made ++ ·)

theorem Makes.of_eq
    {pending left : List Char}
    (hSame : ∀ rest,
      readPieces pending (front ++ rest) =
        readPieces left rest) :
    Makes pending front [] left := by
  intro rest
  rw [hSame rest]
  cases readPieces left rest <;> rfl

theorem Makes.append
    {pending left last : List Char}
    {made more : List Piece}
    (hFirst : Makes pending front made left)
    (hSecond : Makes left rest more last) :
    Makes pending (front ++ rest) (made ++ more) last := by
  intro behind
  rw [List.append_assoc, hFirst, hSecond]
  cases readPieces last behind with
  | error fault => rfl
  | ok pieces => simp [Except.map]

/-
  A part is read behind any pending text.  The pieces that are
  made, and what is pending behind them, print the text that
  was pending and what the part stands for.
-/
theorem readPieces_part
    (hPart : Spells part meaning)
    (pending : List Char) :
    ∃ made left,
      Makes pending part made left ∧
      ∀ entry,
        joined (printed entry made) (some left) =
          joined (some pending) (meaning.text? entry) := by
  cases hPart with
  | @plain c hPercent hBackslash =>
      refine ⟨[], pending ++ [c], .of_eq fun rest => ?_,
        fun _ => rfl⟩
      simp [readPieces, hPercent, hBackslash]
  | percent =>
      refine ⟨[], pending ++ ['%'], .of_eq fun rest => ?_,
        fun _ => rfl⟩
      simp [readPieces]
  | @directive c d hLetter =>
      have hRead := Directive.ofLetter?_eq_some_iff.2 hLetter
      have hPercent : c ≠ '%' := by
        rintro rfl
        exact nomatch hRead
      refine ⟨gathered pending ++ [.directive d], [],
        fun rest => ?_, fun entry => ?_⟩
      · simp [readPieces, hPercent, hRead]
      · rw [printed_append, printed_gathered, joined_assoc]
        cases hPrint : d.render? entry <;>
          simp [printed, Piece.render?, Meaning.text?, hPrint]
  | @escape c d hLetter =>
      have hRead := escaped?_eq_some_iff.2 hLetter
      refine ⟨[], pending ++ [d], .of_eq fun rest => ?_,
        fun _ => rfl⟩
      simp [readPieces, hRead]

/-
  By induction on the parts: what is printed so far, with the
  pending text behind it, is what the parts stand for.
-/
theorem exists_readPieces_front
    (hFront : Written front meanings)
    (pending : List Char) :
    ∃ made left,
      Makes pending front made left ∧
      ∀ entry,
        joined (printed entry made) (some left) =
          joined (some pending) (meant entry meanings) := by
  induction hFront generalizing pending with
  | nil =>
      refine ⟨[], pending, .of_eq fun _ => rfl, fun _ => ?_⟩
      simp [printed, meant]
  | cons hPart _ ih =>
      rcases readPieces_part hPart pending with
        ⟨made, left, hMakes, hPrints⟩
      rcases ih left with ⟨more, last, hMore, hOthers⟩
      refine ⟨made ++ more, last, hMakes.append hMore, ?_⟩
      intro entry
      rw [printed_append, joined_assoc, hOthers,
        ← joined_assoc, hPrints, joined_assoc, meant]

/- A text with a fault in front is refused with this fault. -/
theorem readPieces_of_breaks
    (hBreaks : Breaks rest fault)
    (pending : List Char) :
    readPieces pending rest = .error fault := by
  cases hBreaks with
  | openDirective => rfl
  | @directive c hPercent hLetter rest =>
      have hNone : Directive.ofLetter? c = none := by
        rw [Option.eq_none_iff_forall_ne_some]
        intro d hSome
        exact hLetter d (Directive.ofLetter?_eq_some_iff.1 hSome)
      simp [readPieces, hPercent, hNone]
  | openEscape => rfl
  | @escape c hLetter rest =>
      have hNone : escaped? c = none := by
        rw [Option.eq_none_iff_forall_ne_some]
        intro d hSome
        exact hLetter (List.mem_map_of_mem
          (escaped?_eq_some_iff.1 hSome))
      simp [readPieces, hNone]

------------------------------------------------------------
-- Parts And Faults
------------------------------------------------------------

theorem Fails.cons
    (hPart : Spells part meaning)
    (hRest : Fails rest fault) :
    Fails (part ++ rest) fault := by
  rcases hRest with
    ⟨front, meanings, behind, hFront, hBreaks, rfl⟩
  exact ⟨part ++ front, meaning :: meanings, behind,
    .cons hPart hFront, hBreaks, (List.append_assoc _ _ _).symm⟩

theorem Breaks.fails
    (hBreaks : Breaks text fault) :
    Fails text fault :=
  ⟨[], [], text, .nil, hBreaks, rfl⟩

/- What a percent sign begins. -/
theorem part_or_breaks_percent
    (rest : List Char) :
    (∃ c meaning behind,
      Spells ['%', c] meaning ∧ rest = c :: behind) ∨
    ∃ fault, Breaks ('%' :: rest) fault := by
  cases rest with
  | nil => exact .inr ⟨_, .openDirective⟩
  | cons c rest =>
      by_cases hPercent : c = '%'
      · subst hPercent
        exact .inl ⟨_, _, rest, .percent, rfl⟩
      by_cases hLetter : ∃ d : Directive, c ∈ d.letters
      · rcases hLetter with ⟨d, hLetter⟩
        exact .inl ⟨c, _, rest, .directive hLetter, rfl⟩
      · exact .inr ⟨_, .directive hPercent
          (not_exists.1 hLetter) rest⟩

/- What a backslash begins. -/
theorem part_or_breaks_backslash
    (rest : List Char) :
    (∃ c meaning behind,
      Spells ['\\', c] meaning ∧ rest = c :: behind) ∨
    ∃ fault, Breaks ('\\' :: rest) fault := by
  cases rest with
  | nil => exact .inr ⟨_, .openEscape⟩
  | cons c rest =>
      by_cases hLetter : c ∈ escapes.map Prod.fst
      · rcases List.mem_map.1 hLetter with ⟨⟨_, d⟩, hPair, rfl⟩
        exact .inl ⟨_, _, rest, .escape hPair, rfl⟩
      · exact .inr ⟨_, .escape hLetter rest⟩

/- A text is written in parts, or it has a fault. -/
theorem written_or_fails
    (text : List Char) :
    (∃ meanings, Written text meanings) ∨
    ∃ fault, Fails text fault := by
  induction hLength : text.length using Nat.strongRecOn
    generalizing text with
  | ind length ih =>
      subst hLength
      -- What is behind a part decides about the whole text.
      have hBehind (part rest : List Char) (meaning : Meaning)
          (hPart : Spells part meaning)
          (hText : text = part ++ rest)
          (hShorter : rest.length < text.length) :
          (∃ meanings, Written text meanings) ∨
            ∃ fault, Fails text fault := by
        subst hText
        rcases ih _ hShorter rest rfl with
          ⟨meanings, hRest⟩ | ⟨fault, hRest⟩
        · exact .inl ⟨meaning :: meanings, .cons hPart hRest⟩
        · exact .inr ⟨fault, hRest.cons hPart⟩
      cases text with
      | nil => exact .inl ⟨[], .nil⟩
      | cons c rest =>
          by_cases hPercent : c = '%'
          · subst hPercent
            rcases part_or_breaks_percent rest with
              ⟨c, meaning, behind, hPart, rfl⟩ |
              ⟨fault, hBreaks⟩
            · exact hBehind _ behind meaning hPart rfl
                (by simp only [List.length_cons]; omega)
            · exact .inr ⟨fault, hBreaks.fails⟩
          by_cases hBackslash : c = '\\'
          · subst hBackslash
            rcases part_or_breaks_backslash rest with
              ⟨c, meaning, behind, hPart, rfl⟩ |
              ⟨fault, hBreaks⟩
            · exact hBehind _ behind meaning hPart rfl
                (by simp only [List.length_cons]; omega)
            · exact .inr ⟨fault, hBreaks.fails⟩
          · exact hBehind [c] rest _
              (.plain hPercent hBackslash) rfl
              (Nat.lt_succ_self _)

------------------------------------------------------------
-- Formats
------------------------------------------------------------

/- A format prints its pieces one behind the other. -/
theorem toList_render?
    (format : Format)
    (entry : Entry) :
    (format.render? entry).map String.toList =
      printed entry format.pieces := by
  have hJoin (texts : List String) :
      (Text.join "" texts).toList =
        (texts.map String.toList).flatten := by
    unfold Text.join
    rw [String.toList_ofList]
    exact Text.joinWith_nil _
  unfold render?
  rw [Option.map_map]
  rcases format with ⟨pieces⟩
  dsimp only
  induction pieces with
  | nil => simp [printed, hJoin]
  | cons piece pieces ih =>
      rw [printed, ← ih, List.mapM_cons]
      cases piece.render? entry <;>
        cases pieces.mapM (Piece.render? entry) <;>
          simp [joined, hJoin]

/- A text that a format prints is known by its characters. -/
theorem eq_of_map_toList
    {first second : Option String}
    (hSame :
      first.map String.toList =
        second.map String.toList) :
    first = second :=
  Option.map_injective
    (fun _ _ => String.toList_injective) hSame

/- A format that is written in parts prints what they mean. -/
theorem ofText_of_written
    {text : String}
    (hText : Written text.toList meanings) :
    ∃ format, ofText text = .ok format ∧
      ∀ entry, (format.render? entry).map String.toList =
        meant entry meanings := by
  rcases exists_readPieces_front hText [] with
    ⟨made, left, hMakes, hPrints⟩
  have hRead := hMakes []
  rw [List.append_nil] at hRead
  refine ⟨⟨made ++ gathered left⟩, ?_, fun entry => ?_⟩
  · unfold ofText
    rw [hRead]
    rfl
  · rw [toList_render?, printed_append, printed_gathered,
      hPrints, joined_some]
    exact Option.map_id'

/- Formats are refused for their first fault. -/
theorem ofText_of_fails
    {text : String}
    (hText : Fails text.toList fault) :
    ofText text = .error fault := by
  rcases hText with
    ⟨front, meanings, rest, hFront, hBreaks, hText⟩
  rcases exists_readPieces_front hFront [] with
    ⟨made, left, hMakes, _⟩
  unfold ofText
  rw [hText, hMakes rest, readPieces_of_breaks hBreaks left]
  rfl

/- A format is refused just for a fault in its text. -/
theorem ofText_eq_error_iff
    {text : String} :
    ofText text = .error fault ↔ Fails text.toList fault := by
  constructor
  · intro hRefused
    rcases written_or_fails text.toList with
      ⟨meanings, hText⟩ | ⟨other, hText⟩
    · rcases ofText_of_written hText with ⟨format, hRead, _⟩
      rw [hRead] at hRefused
      exact nomatch hRefused
    · rw [ofText_of_fails hText] at hRefused
      cases hRefused
      exact hText
  · exact ofText_of_fails

/- A format that is read is written in parts. -/
theorem exists_written_of_ofText
    {text : String}
    {format : Format}
    (hRead : ofText text = .ok format) :
    ∃ meanings, Written text.toList meanings ∧
      ∀ entry, (format.render? entry).map String.toList =
        meant entry meanings := by
  rcases written_or_fails text.toList with
    ⟨meanings, hText⟩ | ⟨fault, hText⟩
  · rcases ofText_of_written hText with
      ⟨same, hSame, hPrints⟩
    cases hRead.symm.trans hSame
    exact ⟨meanings, hText, hPrints⟩
  · rw [ofText_of_fails hText] at hRead
    exact nomatch hRead

/- What a format prints of an entry, if it is a format. -/
def print
    (text : String)
    (entry : Entry) : Except Fault (Option String) :=
  (ofText text).map fun format => format.render? entry

theorem print_directive
    {text : String}
    {c : Char}
    {d : Directive}
    (hText : text.toList = ['%', c])
    (hLetter : c ∈ d.letters)
    (entry : Entry) :
    print text entry = .ok (d.render? entry) := by
  have hWritten : Written text.toList [.directive d] := by
    rw [hText]
    exact .cons (.directive hLetter) .nil
  rcases ofText_of_written hWritten with
    ⟨format, hRead, hPrints⟩
  have hRender :
      format.render? entry = d.render? entry := by
    apply eq_of_map_toList
    rw [hPrints]
    cases hPrint : d.render? entry <;>
      simp [meant, Meaning.text?, hPrint]
  unfold print
  rw [hRead, ← hRender]
  rfl

------------------------------------------------------------
-- Quoting
------------------------------------------------------------

/-
  How a text is quoted in a format: percent signs and
  backslashes are doubled, line breaks, tabs and NUL may be
  escaped, and all else stays as it is.
-/
inductive Quotes : List Char → List Char → Prop
| nil : Quotes [] []
| percent {text format : List Char}
    (hRest : Quotes text format) :
    Quotes ('%' :: text) ('%' :: '%' :: format)
| backslash {text format : List Char}
    (hRest : Quotes text format) :
    Quotes ('\\' :: text) ('\\' :: '\\' :: format)
| newline {text format : List Char}
    (hRest : Quotes text format) :
    Quotes ('\n' :: text) ('\\' :: 'n' :: format)
| tab {text format : List Char}
    (hRest : Quotes text format) :
    Quotes ('\t' :: text) ('\\' :: 't' :: format)
| nul {text format : List Char}
    (hRest : Quotes text format) :
    Quotes ('\x00' :: text) ('\\' :: '0' :: format)
| verbatim
    {c : Char}
    {text format : List Char}
    (hPercent : c ≠ '%')
    (hBackslash : c ≠ '\\')
    (hRest : Quotes text format) :
    Quotes (c :: text) (c :: format)

/- Quoted text stands for its characters. -/
theorem Quotes.written
    {format : List Char}
    (hQuotes : Quotes text format) :
    Written format (text.map .character) := by
  induction hQuotes with
  | nil => exact .nil
  | percent _ ih => exact .cons .percent ih
  | backslash _ ih => exact .cons (.escape (by decide)) ih
  | newline _ ih => exact .cons (.escape (by decide)) ih
  | tab _ ih => exact .cons (.escape (by decide)) ih
  | nul _ ih => exact .cons (.escape (by decide)) ih
  | verbatim hPercent hBackslash _ ih =>
      exact .cons (.plain hPercent hBackslash) ih

theorem meant_characters
    (entry : Entry)
    (text : List Char) :
    meant entry (text.map .character) = some text := by
  induction text with
  | nil => rfl
  | cons c text ih =>
      rw [List.map_cons, meant, ih]
      rfl

/-
  Formats that are put together print one behind the other,
  and fail where one of them does.  Quoted text prints as it
  is, and a format is refused for the first part that breaks
  off or has an unknown letter, and for nothing else.
-/
theorem ofText_appends_and_quotes :
    (∀ first second f g,
      ofText first = .ok f → ofText second = .ok g →
      ∃ h, ofText (first ++ second) = .ok h ∧
        ∀ entry,
          h.render? entry = do
            return (← f.render? entry) ++
              (← g.render? entry)) ∧
    (∀ text format : String,
      Quotes text.toList format.toList →
      ∃ f, ofText format = .ok f ∧
        ∀ entry, f.render? entry = some text) ∧
    (∀ text fault,
      ofText text = .error fault ↔
        Fails text.toList fault) := by
  refine ⟨?_, ?_, fun _ _ => ofText_eq_error_iff⟩
  · intro first second f g hFirst hSecond
    rcases exists_written_of_ofText hFirst with
      ⟨meanings, hFront, hPrintsFirst⟩
    rcases exists_written_of_ofText hSecond with
      ⟨others, hBehind, hPrintsSecond⟩
    have hBoth : Written (first ++ second).toList
        (meanings ++ others) := by
      rw [String.toList_append]
      exact hFront.append hBehind
    rcases ofText_of_written hBoth with ⟨h, hRead, hPrints⟩
    refine ⟨h, hRead, fun entry => ?_⟩
    apply eq_of_map_toList
    rw [hPrints, meant_append, ← hPrintsFirst,
      ← hPrintsSecond]
    cases f.render? entry <;> cases g.render? entry <;>
      simp [joined]
  · intro text format hQuotes
    rcases ofText_of_written hQuotes.written with
      ⟨f, hRead, hPrints⟩
    refine ⟨f, hRead, fun entry => ?_⟩
    apply eq_of_map_toList
    rw [hPrints, meant_characters]
    rfl

/- Two formats, a quoted text, and a fault behind two parts. -/
theorem ofText_appends_and_quotes_small :
    (∃ h, ofText ("%f\\t" ++ "%s%%") = .ok h ∧
      ∀ entry : Entry,
        h.render? entry =
          some (entry.name ++ "\t" ++
            (toString entry.stat.size.toNat ++ "%"))) ∧
    (∃ f, ofText "5%%\\\\\\n\t" = .ok f ∧
      ∀ entry : Entry,
        f.render? entry = some "5%\\\n\t") ∧
    ofText "%p%%z%z" = .error (.directive 'z') := by
  rcases ofText_appends_and_quotes with
    ⟨hAppends, hQuotes, hRefuses⟩
  have hFirst :
      ofText "%f\\t" =
        .ok ⟨[.directive .name, .literal "\t"]⟩ := rfl
  have hSecond :
      ofText "%s%%" =
        .ok ⟨[.directive .size, .literal "%"]⟩ := rfl
  refine ⟨?_, ?_, ?_⟩
  · rcases hAppends _ _ _ _ hFirst hSecond with
      ⟨h, hRead, hPrints⟩
    refine ⟨h, hRead, fun entry => ?_⟩
    rw [hPrints entry]
    apply eq_of_map_toList
    simp [render?, Piece.render?, Directive.render?,
      Text.join, Text.joinWith_nil]
  · apply hQuotes "5%\\\n\t"
    exact .verbatim (by decide) (by decide)
      (.percent (.backslash (.newline
        (.verbatim (by decide) (by decide) .nil))))
  · have hFront :
        Written (['%', 'p'] ++ (['%', '%'] ++ (['z'] ++ [])))
          [.directive .path, .character '%',
            .character 'z'] :=
      .cons (.directive (by decide))
        (.cons .percent
          (.cons (.plain (by decide) (by decide)) .nil))
    have hUnknown (d : Directive) : 'z' ∉ d.letters := by
      intro hLetter
      exact nomatch Directive.ofLetter?_eq_some_iff.2 hLetter
    rw [hRefuses]
    exact ⟨_, _, ['%', 'z'], hFront,
      .directive (by decide) hUnknown [], rfl⟩

end Format

end TreeKeeper
