import TreeKeeper.Proofs.Expression.Cursor
import TreeKeeper.Proofs.Expression.Segments

/-
  Reading with a cursor ends, and comes to what the reader
  comes to on the arguments that are left.  On the way the
  cursor stays in the list, no argument is asked for that is
  not there, and what is taken is left behind.

  Key definitions include:
    * `Expression.Position.token?`
    * `Expression.Follows`

  Main declarations:
    * `Expression.Reading.follows_expression`
-/

------------------------------------------------------------
-- Readings
------------------------------------------------------------

namespace TreeKeeper

namespace Expression

namespace Reading

section Steps

variable {α β : Type}
variable {reading : Reading α} {next : α → Reading β}
variable {position last : Position}

@[simp]
theorem from?_pure
    (value : α)
    (position : Position) :
    (pure value : Reading α).from? position =
      some (.ok value, position) :=
  rfl

/- What is done next starts where a reading has come to. -/
theorem from?_bind_of_ok
    {value : α}
    (hReading :
      reading.from? position = some (.ok value, last)) :
    (reading >>= next).from? position =
      (next value).from? last := by
  have hBind :
      (reading >>= next).from? position =
        (reading.from? position).bind fun told =>
          (ExceptT.bindCont next told.1).run told.2 := rfl
  rw [hBind, hReading]
  rfl

/- Nothing is done behind a reading that halts. -/
theorem from?_bind_of_error
    {halt : Halt}
    (hReading :
      reading.from? position = some (.error halt, last)) :
    (reading >>= next).from? position =
      some (.error halt, last) := by
  have hBind :
      (reading >>= next).from? position =
        (reading.from? position).bind fun told =>
          (ExceptT.bindCont next told.1).run told.2 := rfl
  rw [hBind, hReading]
  rfl

@[simp]
theorem from?_get_bind
    (next : Position → Reading β)
    (position : Position) :
    (get >>= next).from? position =
      (next position).from? position :=
  rfl

end Steps

end Reading

------------------------------------------------------------
-- Arguments That Are Left
------------------------------------------------------------

section Arguments

variable (args : List String) (registry : Registry)
variable (now : Int64)

/- What the argument behind a position means. -/
def Position.token?
    (position : Position) : Option Token :=
  args[position.cursor]?.map registry.classify

/- The position behind the next argument. -/
def Position.next (position : Position) : Position :=
  { position with cursor := position.cursor + 1 }

theorem Position.cursor_next
    (position : Position) :
    position.next.cursor = position.cursor + 1 :=
  rfl

/- What is left begins with the argument at the cursor. -/
theorem Position.of_left
    {args : List String}
    {position : Position}
    {word : String}
    {rest : List String}
    (hLeft : args.drop position.cursor = word :: rest) :
    position.next.cursor ≤ args.length ∧
      args[position.cursor]? = some word ∧
      args.drop position.next.cursor = rest := by
  refine ⟨?_, ?_, ?_⟩
  · apply Nat.lt_of_not_le
    intro hEnd
    rw [List.drop_eq_nil_of_le hEnd] at hLeft
    exact nomatch hLeft
  · rw [← List.head?_drop, hLeft]
    rfl
  · rw [cursor_next, ← List.tail_drop, hLeft]
    rfl

namespace Reading

variable {β : Type} {args} {registry}
variable (position : Position)

@[simp]
theorem from?_token?_bind
    (next : Option Token → Reading β) :
    (token? args registry >>= next).from? position =
      (next (position.token? args registry)).from?
        position :=
  rfl

@[simp]
theorem from?_word_bind
    (next : String → Reading β) :
    (word args >>= next).from? position =
      (next (args[position.cursor]?.getD "")).from?
        position :=
  rfl

@[simp]
theorem from?_atFactor_bind
    (next : Bool → Reading β) :
    (atFactor args registry >>= next).from? position =
      (next (Expression.atFactor registry
        (args.drop position.cursor))).from? position := by
  have hFactor :
      (atFactor args registry).from? position =
        some
          (.ok (Expression.atFactor registry
            (args.drop position.cursor)), position) := by
    unfold atFactor
    rw [from?_token?_bind, Position.token?]
    by_cases hInside : position.cursor < args.length
    · rw [List.getElem?_eq_getElem hInside,
        List.drop_eq_getElem_cons hInside]
      rfl
    · have hEnd : args.length ≤ position.cursor := by omega
      rw [List.getElem?_eq_none hEnd,
        List.drop_eq_nil_of_le hEnd]
      rfl
  exact from?_bind_of_ok hFactor

theorem from?_argument_bind
    {arg : String}
    {place : Nat}
    (hArg : args[place]? = some arg)
    (next : String → Reading β) :
    (argument args place >>= next).from? position =
      (next arg).from? position := by
  apply from?_bind_of_ok
  unfold argument
  rw [hArg]
  rfl

theorem from?_slice_bind
    {start stop : Nat}
    (hStart : start ≤ stop)
    (hStop : stop ≤ args.length)
    (next : List String → Reading β) :
    (slice args start stop >>= next).from? position =
      (next ((args.take stop).drop start)).from?
        position := by
  apply from?_bind_of_ok
  unfold slice
  rw [if_pos ⟨hStart, hStop⟩]
  rfl

theorem from?_moveTo
    {place : Nat}
    (hPlace : place ≤ args.length) :
    (moveTo args place).from? position =
      some (.ok (), { position with cursor := place }) := by
  unfold moveTo
  rw [if_pos hPlace]
  rfl

theorem from?_skip_bind
    (hInside : position.cursor < args.length)
    (next : Unit → Reading β) :
    (skip args >>= next).from? position =
      (next ()).from? position.next := by
  apply from?_bind_of_ok
  unfold skip
  rw [from?_get_bind]
  exact from?_moveTo position hInside

end Reading

------------------------------------------------------------
-- Parts
------------------------------------------------------------

variable {α β : Type}

/- What is said of a part, with its place unchanged. -/
def Part.map
    (f : α → β)
    (part : Part α) : Part β where
  value := f part.value
  sorts := part.sorts
  rest := part.rest

/- A part with further sort keys in front. -/
def Part.behind
    (sorts : List SortKey)
    (part : Part α) : Part α where
  value := part.value
  sorts := sorts ++ part.sorts
  rest := part.rest

/- Read on behind a part. -/
def Part.thenRead
    (next :
      α → List String → Except ExpressionFault (Part β))
    (part : Part α) : Except ExpressionFault (Part β) :=
  (next part.value part.rest).map (Part.behind part.sorts)

/- Whether a predicate of a registry may report a fault. -/
def Refuses (fault : ExpressionFault) : Prop :=
  ∃ p ∈ registry.predicates, ∃ words,
    p.build now words = .error fault

/-
  What halting at a position tells: a fault that the reader
  has found, where a parenthesis closes nothing only in front
  of such a one, or the fault of a predicate.
-/
inductive Halt.Tells
    (last : Position) : Halt → ExpressionFault → Prop
| found
    {fault : ExpressionFault}
    (hToken :
      fault = .unopened →
        last.token? args registry = some .closing) :
    Tells last (.fault fault) fault
| refused
    {fault : ExpressionFault}
    (hRefused : Refuses registry now fault) :
    Tells last (.refused fault) fault

/-
  Whether reading with a cursor comes to what the reader
  comes to, in front of which some sort keys were read.  It
  ends inside of the list, and where it succeeds at a
  position of a given kind, behind which is what the reader
  leaves.
-/
inductive Follows
    (sorts : List SortKey)
    (goal : Position → Prop) :
    Option (Except Halt α × Position) →
      Except ExpressionFault (Part α) → Prop
| done
    {value : α}
    {more : List SortKey}
    {last : Position}
    (hBound : last.cursor ≤ args.length)
    (hSorts : last.sorts = sorts ++ more)
    (hGoal : goal last) :
    Follows sorts goal (some (.ok value, last))
      (.ok ⟨value, more, args.drop last.cursor⟩)
| halted
    {halt : Halt}
    {fault : ExpressionFault}
    {last : Position}
    (hBound : last.cursor ≤ args.length)
    (hTells : halt.Tells args registry now last fault) :
    Follows sorts goal (some (.error halt, last))
      (.error fault)

namespace Follows

variable {args registry now}
variable {sorts more : List SortKey}
variable {goal weaker : Position → Prop}
variable {told : Option (Except Halt α × Position)}
variable {read : Except ExpressionFault (Part α)}

/- A fault other than that of a parenthesis is found. -/
theorem reported
    {fault : ExpressionFault}
    {last : Position}
    (hBound : last.cursor ≤ args.length)
    (hFault : fault ≠ .unopened) :
    Follows args registry now sorts goal
      (some (.error (.fault fault), last))
      (.error fault : Except ExpressionFault (Part α)) :=
  .halted hBound (.found fun hSame => absurd hSame hFault)

theorem mono
    (hFollows : Follows args registry now sorts goal told read)
    (hGoal : ∀ last, goal last → weaker last) :
    Follows args registry now sorts weaker told read := by
  cases hFollows with
  | done hBound hSorts hLast =>
      exact .done hBound hSorts (hGoal _ hLast)
  | halted hBound hTells => exact .halted hBound hTells

/- Sort keys that were read before are in front. -/
theorem behind
    (hFollows :
      Follows args registry now (sorts ++ more) goal told
        read) :
    Follows args registry now sorts goal told
      (read.map (Part.behind more)) := by
  cases hFollows with
  | done hBound hSorts hLast =>
      rw [List.append_assoc] at hSorts
      exact .done hBound hSorts hLast
  | halted hBound hTells => exact .halted hBound hTells

/-
  Two readings in a row follow what the reader does in a row.
-/
theorem bind
    {reading : Reading α}
    {after : α → Reading β}
    {next :
      α → List String → Except ExpressionFault (Part β)}
    {position : Position}
    (hFirst :
      Follows args registry now sorts goal
        (reading.from? position) read)
    (hNext : ∀ value last,
      last.cursor ≤ args.length → goal last →
        Follows args registry now last.sorts weaker
          ((after value).from? last)
          (next value (args.drop last.cursor))) :
    Follows args registry now sorts weaker
      ((reading >>= after).from? position)
      (read >>= Part.thenRead next) := by
  generalize hTold : reading.from? position = told at hFirst
  cases hFirst with
  | @done value more last hBound hMore hGoal =>
      have hFollows := hNext value last hBound hGoal
      rw [hMore] at hFollows
      rw [Reading.from?_bind_of_ok hTold]
      exact hFollows.behind
  | halted hBound hTells =>
      rw [Reading.from?_bind_of_error hTold]
      exact .halted hBound hTells

/- A reading may say something else of what it takes. -/
theorem map
    {reading : Reading α}
    {position : Position}
    (hFollows :
      Follows args registry now sorts goal
        (reading.from? position) read)
    (f : α → β) :
    Follows args registry now sorts goal
      ((reading >>= fun value => pure (f value)).from?
        position)
      (read.map (Part.map f)) := by
  generalize hTold : reading.from? position = told
    at hFollows
  cases hFollows with
  | done hBound hMore hGoal =>
      rw [Reading.from?_bind_of_ok hTold]
      exact .done hBound hMore hGoal
  | halted hBound hTells =>
      rw [Reading.from?_bind_of_error hTold]
      exact .halted hBound hTells

end Follows

end Arguments

------------------------------------------------------------
-- Predicates And Sort Directives
------------------------------------------------------------

variable {args : List String} {registry : Registry}
variable {now : Int64}

namespace Reading

variable {position : Position}

theorem follows_predicate
    {word : String}
    {p : Predicate}
    (hInside : position.cursor < args.length)
    (hWord : args[position.cursor]? = some word)
    (hOffers : registry.find? word = some p) :
    Follows args registry now position.sorts
      (fun last => position.cursor < last.cursor)
      ((predicate args registry now).from? position)
      (readPredicate now word p
        (args.drop (position.cursor + 1))) := by
  unfold predicate readPredicate
  rw [from?_get_bind, from?_argument_bind position hWord,
    List.length_drop]
  dsimp only
  rw [hOffers]
  dsimp only
  by_cases hShort :
      args.length < position.cursor + 1 + p.arity
  · rw [if_pos hShort, if_pos (by omega)]
    exact .reported (Nat.le_of_lt hInside) nofun
  · have hStop :
        position.cursor + 1 + p.arity ≤ args.length := by
      omega
    have hWords :
        (args.take (position.cursor + 1 + p.arity)).drop
            (position.cursor + 1) =
          (args.drop (position.cursor + 1)).take p.arity := by
      rw [List.drop_take]
      congr 1
      omega
    rw [if_neg hShort, if_neg (by omega),
      from?_slice_bind position (by omega) hStop, hWords]
    cases hBuild : p.build now
        ((args.drop (position.cursor + 1)).take p.arity) with
    | error fault =>
        have hMember := List.mem_of_find?_eq_some hOffers
        exact .halted (Nat.le_of_lt hInside)
          (.refused ⟨p, hMember, _, hBuild⟩)
    | ok filter =>
        dsimp only
        rw [from?_bind_of_ok (from?_moveTo position hStop),
          from?_pure, List.drop_drop]
        exact .done hStop (List.append_nil _).symm
          (by dsimp only; omega)

theorem follows_sort
    (registry : Registry)
    (now : Int64)
    {word : String}
    (ascending : Bool)
    (hInside : position.cursor < args.length)
    (hWord : args[position.cursor]? = some word) :
    Follows args registry now position.sorts
      (fun last => position.cursor < last.cursor)
      ((sort args ascending).from? position)
      ((readSort word ascending
        (args.drop (position.cursor + 1))).map fun part =>
          ⟨(), [part.value], part.rest⟩) := by
  unfold sort
  rw [from?_get_bind, from?_word_bind, hWord,
    Option.getD_some]
  by_cases hNext : position.cursor + 1 < args.length
  · rw [List.getElem?_eq_getElem hNext,
      List.drop_eq_getElem_cons hNext]
    dsimp only [readSort]
    cases SortKey.field? args[position.cursor + 1] with
    | none => exact .reported (Nat.le_of_lt hInside) nofun
    | some field =>
        have hEnd : position.cursor + 2 ≤ args.length := hNext
        dsimp only
        rw [from?_bind_of_ok rfl, from?_moveTo _ hEnd]
        exact .done hEnd rfl (by dsimp only; omega)
  · have hEnd : args.length ≤ position.cursor + 1 := by omega
    rw [List.getElem?_eq_none hEnd,
      List.drop_eq_nil_of_le hEnd]
    exact .reported (Nat.le_of_lt hInside) nofun

------------------------------------------------------------
-- Expressions
------------------------------------------------------------

/- A token is read off the arguments that are left. -/
theorem token?_of_left
    {word : String}
    {rest : List String}
    (hLeft : args.drop position.cursor = word :: rest) :
    position.token? args registry =
      some (registry.classify word) := by
  unfold Position.token?
  rw [← List.head?_drop, hLeft]
  rfl

theorem token?_of_left_nil
    (hLeft : args.drop position.cursor = []) :
    position.token? args registry = none := by
  unfold Position.token?
  rw [← List.head?_drop, hLeft]
  rfl

/- Where a term goes on there is an operator or an operand. -/
theorem cases_of_not_endsTerm
    {left : List String}
    (hEnd : ¬ EndsTerm registry left) :
    ∃ word rest,
      left = word :: rest ∧
      (registry.classify word = .conjunction ∨
        (∃ ascending,
          registry.classify word = .sort ascending) ∨
        (registry.classify word).beginsFactor = true) := by
  cases left with
  | nil => exact absurd (.inl .nil) hEnd
  | cons word rest =>
      refine ⟨word, rest, rfl, ?_⟩
      cases hToken : registry.classify word with
      | conjunction => exact .inl rfl
      | sort ascending => exact .inr (.inl ⟨ascending, rfl⟩)
      | place => exact .inr (.inr rfl)
      | negation => exact .inr (.inr rfl)
      | opening => exact .inr (.inr rfl)
      | predicate p => exact .inr (.inr rfl)
      | action =>
          exact absurd (.inl (.action hToken rest)) hEnd
      | disjunction =>
          have hWord := classify_eq_disjunction_iff.1 hToken
          exact absurd (.inr ⟨word, rest, rfl, hWord⟩) hEnd
      | closing =>
          rw [classify_eq_closing_iff.1 hToken] at hEnd
          exact absurd (.inl (.closing rest)) hEnd

theorem from?_term_of_endsTerm
    (factors : List Filter)
    (hEnd :
      EndsTerm registry (args.drop position.cursor)) :
    (registry.takeTerm args now factors).from? position =
      some (.ok (Filter.all factors), position) := by
  rw [Registry.takeTerm, from?_token?_bind]
  generalize hLeft : args.drop position.cursor = left at hEnd
  rcases hEnd with hEnd | ⟨word, rest, rfl, hWord⟩
  · cases hEnd with
    | nil =>
        rw [token?_of_left_nil hLeft]
        rfl
    | closing rest =>
        rw [token?_of_left hLeft, classify_eq_closing_iff.2 rfl]
        rfl
    | action hWord rest =>
        rw [token?_of_left hLeft, hWord]
        rfl
  · rw [token?_of_left hLeft,
      classify_eq_disjunction_iff.2 hWord]
    rfl

theorem from?_alternatives_of_endsTerms
    (terms : List Filter)
    (hEnd :
      EndsTerms registry (args.drop position.cursor)) :
    (registry.takeAlternatives args now terms).from? position =
      some (.ok (Filter.any terms), position) := by
  rw [Registry.takeAlternatives, from?_token?_bind]
  generalize hLeft : args.drop position.cursor = left at hEnd
  cases hEnd with
  | nil =>
      rw [token?_of_left_nil hLeft]
      rfl
  | closing rest =>
      rw [token?_of_left hLeft, classify_eq_closing_iff.2 rfl]
      rfl
  | action hWord rest =>
      rw [token?_of_left hLeft, hWord]
      rfl

theorem from?_term_of_beginsFactor
    {word : String}
    {rest : List String}
    (factors : List Filter)
    (hLeft : args.drop position.cursor = word :: rest)
    (hWord :
      (registry.classify word).beginsFactor = true) :
    (registry.takeTerm args now factors).from? position =
      (registry.takeFactor args now >>= fun filter =>
        registry.takeTerm args now (factors ++ [filter])).from?
          position := by
  rw [Registry.takeTerm, from?_token?_bind,
    token?_of_left hLeft]
  cases hToken : registry.classify word <;>
    first
    | rfl
    | rw [hToken] at hWord
      exact nomatch hWord

/- The parenthesis behind an expression is taken. -/
theorem follows_closing
    {inner : Option Filter}
    {last : Position}
    (hBound : last.cursor ≤ args.length)
    (hForward : position.cursor < last.cursor) :
    Follows args registry now last.sorts
      (fun final => position.cursor < final.cursor)
      ((closing args registry inner).from? last)
      (close registry
        ⟨inner, [], args.drop last.cursor⟩) := by
  unfold closing
  rw [from?_token?_bind]
  cases hLeft : args.drop last.cursor with
  | nil =>
      rw [token?_of_left_nil hLeft]
      exact .reported hBound nofun
  | cons word rest =>
      rcases Position.of_left hLeft with ⟨hInside, _, rfl⟩
      rw [token?_of_left hLeft]
      dsimp only [close]
      cases registry.classify word with
      | closing =>
          dsimp only
          rw [from?_skip_bind last hInside]
          cases inner with
          | none => exact .reported hInside nofun
          | some filter =>
              exact .done hInside (List.append_nil _).symm
                (Nat.lt_succ_of_lt hForward)
      | _ => exact .reported hBound nofun

end Reading

------------------------------------------------------------
-- What The Reader Does
------------------------------------------------------------

section Reader

variable (fuel : Nat) (rest : List String)

theorem close_eq
    (part : Part (Option Filter)) :
    close registry part =
      part.thenRead fun inner rest =>
        close registry ⟨inner, [], rest⟩ := by
  rcases part with ⟨value, sorts, rest⟩
  cases rest with
  | nil => rfl
  | cons word rest =>
      dsimp only [Part.thenRead, close]
      cases registry.classify word with
      | closing =>
          cases value with
          | none => rfl
          | some filter => simp [Except.map, Part.behind]
      | _ => rfl

/- An expression is a term with alternatives behind it. -/
theorem readExpression_eq
    (left : List String) :
    readExpression registry now (fuel + 1) left =
      (readTerm registry now fuel false left).map
          (Part.map Filter.all) >>=
        Part.thenRead fun first rest =>
          (readAlternatives registry now fuel first.isSome
            rest).map (Part.map fun others =>
              Filter.any (first.toList ++ others)) := by
  rw [readExpression]
  cases readTerm registry now fuel false left with
  | error fault => rfl
  | ok first =>
      dsimp only [bind, Except.bind, Except.map, Part.map,
        Part.thenRead]
      cases readAlternatives registry now fuel _
        first.rest <;> rfl

/- Behind a disjunction there is a term and alternatives. -/
theorem readAlternatives_eq
    (terms : List Filter)
    {word : String}
    (hWord : registry.classify word = .disjunction) :
    (readAlternatives registry now (fuel + 1) true
        (word :: rest)).map
          (Part.map fun others =>
            Filter.any (terms ++ others)) =
      (readTerm registry now fuel false rest).map
          (Part.map Filter.all) >>=
        Part.thenRead fun first rest =>
          match first with
          | none => .error (.missingOperand word)
          | some next =>
              (readAlternatives registry now fuel true
                rest).map (Part.map fun others =>
                  Filter.any
                    (terms ++ [next] ++ others)) := by
  rw [readAlternatives, hWord]
  dsimp only
  cases readTerm registry now fuel false rest with
  | error fault => rfl
  | ok first =>
      rcases first with ⟨filters, sorts, left⟩
      dsimp only [bind, Except.bind, Except.map, Part.map,
        Part.thenRead, if_true]
      cases Filter.all filters with
      | none => rfl
      | some next =>
          cases readAlternatives registry now fuel true left
            with
          | error fault => rfl
          | ok others =>
              simp [Part.behind, pure, Except.pure]

/- Behind a sort directive a term goes on. -/
theorem readTerm_sort_eq
    (started : Bool)
    (factors : List Filter)
    {word : String}
    {ascending : Bool}
    (hWord : registry.classify word = .sort ascending) :
    (readTerm registry now (fuel + 1) started
        (word :: rest)).map
          (Part.map fun others =>
            Filter.all (factors ++ others)) =
      (readSort word ascending rest).map
          (fun key => ⟨(), [key.value], key.rest⟩) >>=
        Part.thenRead fun _ rest =>
          (readTerm registry now fuel started rest).map
            (Part.map fun others =>
              Filter.all (factors ++ others)) := by
  rw [readTerm, hWord]
  dsimp only
  cases readSort word ascending rest with
  | error fault => rfl
  | ok key =>
      dsimp only [bind, Except.bind, Except.map,
        Part.thenRead]
      cases readTerm registry now fuel started key.rest <;>
        rfl

/- Behind an operand a term goes on. -/
theorem readTerm_factor_eq
    (started : Bool)
    (factors : List Filter)
    {word : String}
    (hWord :
      (registry.classify word).beginsFactor = true) :
    (readTerm registry now (fuel + 1) started
        (word :: rest)).map
          (Part.map fun others =>
            Filter.all (factors ++ others)) =
      readFactor registry now fuel word rest >>=
        Part.thenRead fun filter rest =>
          (readTerm registry now fuel true rest).map
            (Part.map fun others =>
              Filter.all (factors ++ [filter] ++ others)) := by
  rw [readTerm_of_beginsFactor hWord]
  cases readFactor registry now fuel word rest with
  | error fault => rfl
  | ok factor =>
      dsimp only [bind, Except.bind, Except.map, Part.map,
        Part.thenRead]
      cases readTerm registry now fuel true factor.rest with
      | error fault => rfl
      | ok others =>
          simp [Part.behind, pure, Except.pure]

end Reader

------------------------------------------------------------
-- Following The Reader
------------------------------------------------------------

namespace Reading

mutual

/- An expression is taken up to where it ends. -/
theorem follows_expression
    (fuel : Nat)
    {position : Position}
    (hBound : position.cursor ≤ args.length)
    (hFuel :
      3 * (args.length - position.cursor) + 3 ≤ fuel) :
    Follows args registry now position.sorts
      (fun last =>
        position.cursor ≤ last.cursor ∧
          EndsTerms registry (args.drop last.cursor))
      ((registry.takeExpression args now).from? position)
      (readExpression registry now fuel
        (args.drop position.cursor)) := by
  match fuel with
  | 0 => omega
  | fuel + 1 =>
      have hTerm := follows_term fuel [] hBound (by omega)
      rw [Registry.takeExpression, readExpression_eq]
      apply hTerm.bind
      rintro first last hLast ⟨hForward, hEnd⟩
      have hOthers :=
        follows_alternatives fuel first.toList hLast
          (by omega) hEnd
      have hStarted :
          (!first.toList.isEmpty) = first.isSome := by
        cases first <;> rfl
      rw [hStarted] at hOthers
      exact hOthers.mono fun _ hGoal =>
        ⟨Nat.le_trans hForward hGoal.1, hGoal.2⟩

/- Terms are taken as long as disjunctions follow. -/
theorem follows_alternatives
    (fuel : Nat)
    (terms : List Filter)
    {position : Position}
    (hBound : position.cursor ≤ args.length)
    (hFuel :
      3 * (args.length - position.cursor) + 1 ≤ fuel)
    (hEnd :
      EndsTerm registry (args.drop position.cursor)) :
    Follows args registry now position.sorts
      (fun last =>
        position.cursor ≤ last.cursor ∧
          EndsTerms registry (args.drop last.cursor))
      ((registry.takeAlternatives args now terms).from?
        position)
      ((readAlternatives registry now fuel (!terms.isEmpty)
        (args.drop position.cursor)).map
          (Part.map fun others =>
            Filter.any (terms ++ others))) := by
  have hCursor := position.cursor_next
  match fuel with
  | 0 => omega
  | fuel + 1 =>
      rcases hEnd with hEnd | ⟨word, rest, hLeft, hWord⟩
      · have hTerms := List.append_nil terms
        rw [from?_alternatives_of_endsTerms terms hEnd,
          readAlternatives_of_endsTerms hEnd]
        dsimp only [Except.map, Part.map]
        rw [hTerms]
        exact .done hBound (List.append_nil _).symm
          ⟨Nat.le_refl _, hEnd⟩
      · rcases Position.of_left hLeft with
          ⟨hInside, hAt, rfl⟩
        have hToken : registry.classify word = .disjunction :=
          classify_eq_disjunction_iff.2 hWord
        rw [Registry.takeAlternatives, from?_token?_bind,
          token?_of_left hLeft, hLeft, hToken]
        dsimp only
        rw [from?_word_bind, hAt, Option.getD_some]
        cases hEmpty : terms.isEmpty with
        | true =>
            rw [readAlternatives, hToken]
            exact .reported hBound nofun
        | false =>
            have hNext :=
              follows_term fuel [] hInside (by omega)
            rw [Bool.not_false, if_neg Bool.false_ne_true,
              readAlternatives_eq fuel _ terms hToken,
              from?_skip_bind position hInside]
            apply hNext.bind
            rintro first last hLast ⟨hForward, hStop⟩
            cases first with
            | none => exact .reported hLast nofun
            | some next =>
                have hOthers :=
                  follows_alternatives fuel (terms ++ [next])
                    hLast (by omega) hStop
                have hStarted :
                    (!(terms ++ [next]).isEmpty) = true := by
                  simp
                rw [hStarted] at hOthers
                exact hOthers.mono fun _ hGoal =>
                  ⟨by omega, hGoal.2⟩

/- Operands are taken as long as there are some. -/
theorem follows_term
    (fuel : Nat)
    (factors : List Filter)
    {position : Position}
    (hBound : position.cursor ≤ args.length)
    (hFuel :
      3 * (args.length - position.cursor) + 2 ≤ fuel) :
    Follows args registry now position.sorts
      (fun last =>
        position.cursor ≤ last.cursor ∧
          EndsTerm registry (args.drop last.cursor))
      ((registry.takeTerm args now factors).from? position)
      ((readTerm registry now fuel (!factors.isEmpty)
        (args.drop position.cursor)).map
          (Part.map fun others =>
            Filter.all (factors ++ others))) := by
  have hCursor := position.cursor_next
  match fuel with
  | 0 => omega
  | fuel + 1 =>
      by_cases hEnd :
          EndsTerm registry (args.drop position.cursor)
      · have hFactors := List.append_nil factors
        rw [from?_term_of_endsTerm factors hEnd,
          readTerm_of_endsTerm hEnd]
        dsimp only [Except.map, Part.map]
        rw [hFactors]
        exact .done hBound (List.append_nil _).symm
          ⟨Nat.le_refl _, hEnd⟩
      · rcases cases_of_not_endsTerm hEnd with
          ⟨word, rest, hLeft, hWord⟩
        rcases Position.of_left hLeft with
          ⟨hInside, hAt, rfl⟩
        rcases hWord with hToken | ⟨ascending, hToken⟩ | hWord
        · rw [Registry.takeTerm, from?_token?_bind,
            token?_of_left hLeft, hLeft, readTerm, hToken]
          dsimp only
          rw [from?_word_bind, from?_skip_bind _ hInside,
            from?_atFactor_bind]
          split
          · have hTerm :=
              follows_term fuel factors hInside (by omega)
            exact hTerm.mono fun _ hGoal =>
              ⟨by omega, hGoal.2⟩
          · rw [hAt]
            exact .reported hInside nofun
        · have hSort :=
            follows_sort registry now ascending hInside hAt
          rw [Registry.takeTerm, from?_token?_bind,
            token?_of_left hLeft, hLeft,
            readTerm_sort_eq fuel _ _ _ hToken, hToken]
          apply hSort.bind
          intro _ last hLast hForward
          have hTerm :=
            follows_term fuel factors hLast (by omega)
          exact hTerm.mono fun _ hGoal =>
            ⟨by omega, hGoal.2⟩
        · have hFactor :=
            follows_factor fuel hLeft (by omega)
          rw [from?_term_of_beginsFactor factors hLeft hWord,
            hLeft, readTerm_factor_eq fuel _ _ _ hWord]
          apply hFactor.bind
          intro filter last hLast hForward
          have hTerm :=
            follows_term fuel (factors ++ [filter]) hLast
              (by omega)
          have hStarted :
              (!(factors ++ [filter]).isEmpty) = true := by
            simp
          rw [hStarted] at hTerm
          exact hTerm.mono fun _ hGoal =>
            ⟨by omega, hGoal.2⟩

/- One operand is taken. -/
theorem follows_factor
    (fuel : Nat)
    {word : String}
    {rest : List String}
    {position : Position}
    (hLeft : args.drop position.cursor = word :: rest)
    (hFuel :
      3 * (args.length - position.cursor) + 1 ≤ fuel) :
    Follows args registry now position.sorts
      (fun last => position.cursor < last.cursor)
      ((registry.takeFactor args now).from? position)
      (readFactor registry now fuel word rest) := by
  have hCursor := position.cursor_next
  rcases Position.of_left hLeft with ⟨hInside, hAt, rfl⟩
  have hBound : position.cursor ≤ args.length :=
    Nat.le_of_succ_le hInside
  match fuel with
  | 0 => omega
  | fuel + 1 =>
      rw [Registry.takeFactor, from?_word_bind,
        from?_token?_bind,
        token?_of_left hLeft, hAt]
      unfold readFactor
      cases hToken : registry.classify word with
      | negation =>
          dsimp only
          rw [from?_skip_bind _ hInside, from?_atFactor_bind]
          cases hNext : args.drop position.next.cursor with
          | nil => exact .reported hInside nofun
          | cons next others =>
              have hBegins :
                  Expression.atFactor registry
                      (next :: others) =
                    (registry.classify next).beginsFactor :=
                rfl
              rw [hBegins]
              dsimp only
              by_cases hNegated :
                  (registry.classify next).beginsFactor = true
              · have hFactor :=
                  follows_factor fuel hNext (by omega)
                have hNot := hFactor.map Filter.not
                rw [if_pos hNegated, if_pos hNegated]
                exact hNot.mono fun _ hGoal => by omega
              · rw [if_neg hNegated, if_neg hNegated]
                exact .reported hInside nofun
      | opening =>
          have hInner :=
            follows_expression fuel hInside (by omega)
          dsimp only
          rw [from?_skip_bind _ hInside]
          have hClose : (close registry) = _ :=
            funext close_eq
          rw [hClose]
          apply hInner.bind
          rintro inner last hLast ⟨hForward, _⟩
          exact follows_closing hLast (by omega)
      | predicate p =>
          have hOffers := classify_eq_predicate_iff.1 hToken
          exact follows_predicate hInside hAt hOffers.2
      | place => exact .reported hBound nofun
      | conjunction => exact .reported hBound nofun
      | disjunction => exact .reported hBound nofun
      | closing => exact .reported hBound nofun
      | action => exact .reported hBound nofun
      | sort ascending => exact .reported hBound nofun

end

end Reading

end Expression

end TreeKeeper
