import TreeKeeper.Proofs.Expression.Bounds
import TreeKeeper.Proofs.Expression.Faults

/-
  Taking an expression and resuming behind its action, again
  and again.  This ends after one turn more than there are
  arguments at most, at the end of the arguments or in a
  fault, and its turns are the rounds of the reader.  No
  argument is asked for that is not there.

  Key definitions include:
    * `Expression.Parses`
    * `Expression.Course`

  Main declarations:
    * `Expression.Reading.from?_commandEnd?`
    * `Expression.Reading.parses`
    * `Expression.turns_end`
-/

------------------------------------------------------------
-- Ends Of Commands
------------------------------------------------------------

namespace TreeKeeper

namespace Expression

variable {args : List String} {registry : Registry}
variable {now : Int64} {position : Position}

namespace Reading

/-
  The end of a command that began with some arguments.  The
  last one of them may be a brace pair in front of a plus.
-/
def endBehind?
    (front rest : List String) : Option Nat :=
  if front.getLast? = some "\x7b\x7d" ∧
      rest.head? = some "+" then
    some (front.length + 1)
  else
    (ActionArity.commandLength? rest).map (front.length + ·)

theorem endBehind?_semicolon
    (front rest : List String) :
    endBehind? front (";" :: rest) =
      some (front.length + 1) := by
  simp [endBehind?, ActionArity.commandLength?]

/- An argument that ends no command belongs to it. -/
theorem endBehind?_cons
    {front rest : List String}
    {arg : String}
    (hEnd : arg ≠ ";")
    (hPlus :
      ¬ (front.getLast? = some "\x7b\x7d" ∧ arg = "+")) :
    endBehind? front (arg :: rest) =
      endBehind? (front ++ [arg]) rest := by
  have hHead :
      ¬ (front.getLast? = some "\x7b\x7d" ∧
        (arg :: rest).head? = some "+") := by
    rintro ⟨hLast, hArg⟩
    exact hPlus ⟨hLast, Option.some.inj hArg⟩
  unfold endBehind?
  rw [if_neg hHead, ActionArity.commandLength?, if_neg hEnd]
  by_cases hPair : arg = "\x7b\x7d" ∧ rest.head? = some "+"
  · simp [hPair]
  · rw [if_neg hPair, if_neg (by simpa using hPair)]
    cases ActionArity.commandLength? rest with
    | none => rfl
    | some n => simp [Nat.add_comm, Nat.add_left_comm]

theorem from?_commandEnd?
    {args front rest : List String}
    (hArgs : args = front ++ rest)
    (position : Position) :
    (commandEnd? args front.length rest).from? position =
      some (.ok (endBehind? front rest), position) := by
  induction rest generalizing front with
  | nil =>
      simp [commandEnd?, endBehind?,
        ActionArity.commandLength?]
  | cons arg rest ih =>
      have hRest : args = (front ++ [arg]) ++ rest := by
        rw [hArgs, List.append_assoc]
        rfl
      have hOthers := ih hRest
      rw [List.length_append, List.length_singleton] at hOthers
      rw [commandEnd?]
      by_cases hEnd : arg = ";"
      · rw [if_pos hEnd, hEnd, endBehind?_semicolon]
        rfl
      · rw [if_neg hEnd]
        by_cases hPlus : arg = "+" ∧ 0 < front.length
        · -- The argument in front of the plus is looked at.
          rw [if_pos hPlus]
          have hBefore :
              args[front.length - 1]? = front.getLast? := by
            rw [List.getLast?_eq_getElem?, hArgs]
            exact List.getElem?_append_left
              (Nat.sub_lt hPlus.2 Nat.one_pos)
          cases hLast : front.getLast? with
          | none =>
              rw [List.getLast?_eq_none_iff] at hLast
              rw [hLast] at hPlus
              exact absurd hPlus.2 (Nat.lt_irrefl 0)
          | some before =>
              rw [from?_argument_bind position
                (hBefore.trans hLast)]
              by_cases hBraces : before = "\x7b\x7d"
              · simp [endBehind?, hLast, hBraces, hPlus.1]
              · have hCons :=
                  @endBehind?_cons front rest arg hEnd
                    (by simp [hLast, hBraces])
                rw [if_neg hBraces, hOthers, hCons]
        · have hLast :
              ¬ (front.getLast? = some "\x7b\x7d" ∧
                arg = "+") := by
            rintro ⟨hSome, rfl⟩
            apply hPlus
            refine ⟨rfl, List.length_pos_iff.2 ?_⟩
            rintro rfl
            cases hSome
          rw [if_neg hPlus, hOthers, endBehind?_cons hEnd hLast]

/- A command ends where the reader sees its end. -/
theorem from?_commandEnd?_zero
    (args : List String)
    (position : Position) :
    (commandEnd? args 0 args).from? position =
      some
        (.ok (ActionArity.commandLength? args), position) := by
  have hEnd := @from?_commandEnd? args [] args rfl position
  rw [List.length_nil] at hEnd
  rw [hEnd]
  simp [endBehind?]

------------------------------------------------------------
-- Actions
------------------------------------------------------------

/-
  An action takes as many arguments as the reader gives it,
  if there are so many.
-/
theorem exists_length?
    {start : Nat}
    (hStart : start ≤ args.length)
    (arity : ActionArity)
    (position : Position) :
    ∃ length,
      (length? args start arity).from? position =
          some (.ok length, position) ∧
        arity.count? (args.drop start) =
          length.filter fun n => start + n ≤ args.length := by
  cases arity with
  | fixed n =>
      refine ⟨some n, rfl, ?_⟩
      have hLeft :
          n ≤ args.length - start ↔
            start + n ≤ args.length := by
        omega
      simp [ActionArity.count?, hLeft, Option.filter]
  | command =>
      refine
        ⟨ActionArity.commandLength? (args.drop start), ?_, ?_⟩
      · unfold length?
        rw [from?_slice_bind position hStart (Nat.le_refl _),
          List.take_length]
        exact from?_commandEnd?_zero _ position
      · unfold ActionArity.count?
        cases hLength :
            ActionArity.commandLength? (args.drop start) with
        | none => rfl
        | some n =>
            have hTake :=
              (ActionArity.commandLength?_take hLength).1
            rw [List.length_drop] at hTake
            have hEnd : start + n ≤ args.length := by omega
            simp [Option.filter, hEnd]

theorem follows_action
    {name : String}
    {rest : List String}
    (hLeft : args.drop position.cursor = name :: rest) :
    Follows args registry now position.sorts
      (fun last => position.cursor < last.cursor)
      ((action args).from? position)
      ((Segment.readAction name rest).map fun taken =>
        ⟨taken.1, [], taken.2⟩) := by
  rcases Position.of_left hLeft with ⟨hInside, hAt, rfl⟩
  have hBound : position.cursor ≤ args.length :=
    Nat.le_of_succ_le hInside
  have hCursor := position.cursor_next
  unfold action Segment.readAction
  rw [from?_get_bind, from?_word_bind, hAt,
    Option.getD_some]
  cases ActionArity.ofName? name with
  | none => exact .reported hBound nofun
  | some arity =>
      rcases exists_length? hInside arity position with
        ⟨length, hLength, hCount⟩
      rw [hCursor] at hLength
      dsimp only
      rw [from?_bind_of_ok hLength, hCount]
      cases length with
      | none => exact .reported hBound nofun
      | some n =>
          dsimp only
          by_cases hShort :
              args.length < position.cursor + 1 + n
          · rw [if_pos hShort,
              Option.filter_some_neg
                (by simpa [hCursor] using hShort)]
            exact .reported hBound nofun
          · have hStop :
                position.cursor + 1 + n ≤ args.length := by
              omega
            have hWords :
                (args.take (position.cursor + 1 + n)).drop
                    (position.cursor + 1) =
                  (args.drop position.next.cursor).take n := by
              rw [List.drop_take, hCursor]
              congr 1
              omega
            rw [if_neg hShort,
              Option.filter_some_pos
                (by simpa [hCursor] using hStop),
              from?_slice_bind position (by omega) hStop,
              from?_bind_of_ok (from?_moveTo position hStop),
              from?_pure, hWords]
            dsimp only [Except.map]
            rw [List.drop_drop]
            exact .done hStop (List.append_nil _).symm
              (by dsimp only; omega)

end Reading

------------------------------------------------------------
-- Parsing
------------------------------------------------------------

variable (args registry now)

/-
  What taking an expression with its action comes to, and
  the segment that the reader sees there: one up to the end,
  one with an action further on, or a fault.
-/
inductive Parses
    (position : Position) :
    Option (Except Halt Reading.Parsed × Position) →
      Except ExpressionFault Segment → Prop
| complete
    {filter : Option Filter}
    {sorts : List SortKey}
    {last : Position}
    (hEnd : last.cursor = args.length)
    (hSorts : last.sorts = position.sorts ++ sorts) :
    Parses position (some (.ok (.complete filter), last))
      (.ok ⟨filter, sorts, none, []⟩)
| action
    {filter : Option Filter}
    {sorts : List SortKey}
    {request : ActionRequest}
    {last : Position}
    (hForward : position.cursor < last.cursor)
    (hBound : last.cursor ≤ args.length)
    (hSorts : last.sorts = position.sorts ++ sorts) :
    Parses position
      (some (.ok (.action filter request), last))
      (.ok
        ⟨filter, sorts, some request,
          args.drop last.cursor⟩)
| halted
    {halt : Halt}
    {fault : ExpressionFault}
    {last : Position}
    (hBound : last.cursor ≤ args.length)
    (hTells : halt.Tells args registry now last fault) :
    Parses position (some (.error halt, last))
      (.error fault)

variable {args registry now}

namespace Reading

/-
  Where an expression ends, there are no arguments left, or
  an action is taken, or a parenthesis closes nothing.
-/
theorem parses
    (hBound : position.cursor ≤ args.length) :
    Parses args registry now position
      ((parse args registry now).from? position)
      (Segment.read registry now
        (args.drop position.cursor)) := by
  have hExpression :=
    @follows_expression args registry now
      (3 * (args.drop position.cursor).length + 3) position
      hBound (by simp)
  unfold parse Segment.read
  generalize hTold :
    (registry.takeExpression args now).from? position = told
      at hExpression
  generalize readExpression registry now _
    (args.drop position.cursor) = read at hExpression
  cases hExpression with
  | halted hLast hTells =>
      rw [from?_bind_of_error hTold]
      exact .halted hLast hTells
  | @done filter sorts last hLast hSorts hGoal =>
      rcases hGoal with ⟨hForward, hEnd⟩
      rw [from?_bind_of_ok hTold, from?_token?_bind, bind_ok]
      dsimp only
      generalize hLeft : args.drop last.cursor = left
        at hEnd ⊢
      cases hEnd with
      | nil =>
          have hLength := List.drop_eq_nil_iff.1 hLeft
          rw [token?_of_left_nil hLeft]
          exact .complete (Nat.le_antisymm hLast hLength)
            hSorts
      | closing rest =>
          have hToken :
              last.token? args registry = some .closing := by
            rw [token?_of_left hLeft,
              classify_eq_closing_iff.2 rfl]
          rw [hToken]
          dsimp only
          rw [classify_eq_closing_iff.2 rfl]
          exact .halted hLast (.found fun _ => hToken)
      | @action name hWord rest =>
          have hAction :=
            @follows_action args registry now last name rest
              hLeft
          rw [token?_of_left hLeft, hWord]
          dsimp only
          rw [hWord]
          dsimp only
          generalize hTaken : (action args).from? last = told
            at hAction
          cases hRead : Segment.readAction name rest with
          | error fault =>
              rw [hRead] at hAction
              cases hAction with
              | halted hHalted hTells =>
                  rw [from?_bind_of_error hTaken]
                  exact .halted hHalted hTells
          | ok taken =>
              rcases taken with ⟨request, behind⟩
              rw [hRead] at hAction
              dsimp only [Except.map] at hAction
              cases hAction with
              | @done _ more final hFinal hMore hFarther =>
                  rw [List.append_nil] at hMore
                  rw [from?_bind_of_ok hTaken]
                  exact .action
                    (Nat.lt_of_le_of_lt hForward hFarther)
                    hFinal (hMore.trans hSorts)

------------------------------------------------------------
-- Resuming
------------------------------------------------------------

/- Behind an operator the reader goes on with what follows. -/
theorem cases_resume
    (args : List String)
    (registry : Registry)
    (position : Position) :
    ((resume args registry).from? position =
        some (.ok none, position) ∧
      Segment.resume? registry (args.drop position.cursor) =
        none) ∨
    ∃ isDisjunction word,
      (resume args registry).from? position =
          some (.ok (some isDisjunction), position.next) ∧
        Segment.resume? registry
            (args.drop position.cursor) =
          some
            (isDisjunction,
              args.drop position.next.cursor) ∧
        args[position.cursor]? = some word ∧
        registry.classify word =
          if isDisjunction then .disjunction
          else .conjunction := by
  unfold resume Segment.resume?
  rw [from?_token?_bind]
  cases hLeft : args.drop position.cursor with
  | nil =>
      rw [token?_of_left_nil hLeft]
      exact .inl ⟨rfl, rfl⟩
  | cons word rest =>
      rcases Position.of_left hLeft with ⟨hInside, hAt, rfl⟩
      rw [token?_of_left hLeft]
      dsimp only
      cases hToken : registry.classify word with
      | disjunction =>
          refine .inr ⟨true, word, ?_, rfl, hAt, hToken⟩
          exact from?_skip_bind position hInside _
      | conjunction =>
          refine .inr ⟨false, word, ?_, rfl, hAt, hToken⟩
          exact from?_skip_bind position hInside _
      | _ => exact .inl ⟨rfl, rfl⟩

/- What was taken last is right in front of the cursor. -/
theorem from?_lastWord_bind
    {β : Type}
    {word : String}
    (hWord : args[position.cursor]? = some word)
    (next : String → Reading β) :
    (lastWord args >>= next).from? position.next =
      (next word).from? position.next := by
  apply from?_bind_of_ok
  unfold lastWord argument
  have hTaken : position.next.cursor ≠ 0 :=
    Nat.succ_ne_zero _
  have hPlace :
      args[position.next.cursor - 1]? = some word := hWord
  rw [from?_get_bind, if_neg hTaken, hPlace]
  rfl

------------------------------------------------------------
-- Single Turns
------------------------------------------------------------

variable {filter : Option Filter} {request : ActionRequest}
variable {last : Position}

theorem from?_turn_of_halt
    {halt : Halt}
    (hParse :
      (parse args registry now).from? position =
        some (.error halt, last)) :
    (turn args registry now).from? position =
      some (.error halt, last) :=
  from?_bind_of_error hParse

theorem from?_turn_of_complete
    (hParse :
      (parse args registry now).from? position =
        some (.ok (.complete filter), last)) :
    (turn args registry now).from? position =
      some (.ok (.ended filter last), last) :=
  from?_bind_of_ok hParse

theorem from?_turn_of_action
    (hParse :
      (parse args registry now).from? position =
        some (.ok (.action filter request), last))
    (hResume :
      (resume args registry).from? last =
        some (.ok none, last)) :
    (turn args registry now).from? position =
      some (.ok (.acted filter request last none last),
        last) := by
  unfold turn
  rw [from?_bind_of_ok hParse]
  dsimp only
  rw [from?_get_bind, from?_bind_of_ok hResume]
  rfl

theorem from?_turn_of_operator
    {isDisjunction : Bool}
    {word : String}
    (hParse :
      (parse args registry now).from? position =
        some (.ok (.action filter request), last))
    (hResume :
      (resume args registry).from? last =
        some (.ok (some isDisjunction), last.next))
    (hWord : args[last.cursor]? = some word) :
    (turn args registry now).from? position =
      some
        (.ok
          (.acted filter request last
            (some (isDisjunction, word)) last.next),
          last.next) := by
  unfold turn
  rw [from?_bind_of_ok hParse]
  dsimp only
  rw [from?_get_bind, from?_bind_of_ok hResume]
  dsimp only
  rw [from?_lastWord_bind hWord]
  rfl

end Reading

------------------------------------------------------------
-- Courses
------------------------------------------------------------

section Courses

variable (args registry now)

/-
  The course of turns from a cursor on.  A turn with an
  action moves the cursor forward, and over the operator that
  it takes.  The last turn reaches the end, or halts and
  tells why.
-/
inductive Course : Nat → List Turn → Prop
| failed
    {start : Nat}
    {halt : Halt}
    {fault : ExpressionFault}
    {last : Position}
    (hBound : last.cursor ≤ args.length)
    (hTells : halt.Tells args registry now last fault) :
    Course start [.failed halt last]
| ended
    {start : Nat}
    {filter : Option Filter}
    {last : Position}
    (hEnd : last.cursor = args.length) :
    Course start [.ended filter last]
| acted
    {start : Nat}
    {filter : Option Filter}
    {request : ActionRequest}
    {behind : Position}
    {rest : List Turn}
    (hForward : start < behind.cursor)
    (hBound : behind.cursor ≤ args.length)
    (hRest : Course behind.cursor rest) :
    Course start
      (.acted filter request behind none behind :: rest)
| resumed
    {start : Nat}
    {filter : Option Filter}
    {request : ActionRequest}
    {behind : Position}
    {isDisjunction : Bool}
    {word : String}
    {rest : List Turn}
    (hForward : start < behind.cursor)
    (hWord : args[behind.cursor]? = some word)
    (hToken :
      registry.classify word =
        if isDisjunction then .disjunction
        else .conjunction)
    (hRest : Course behind.next.cursor rest) :
    Course start
      (.acted filter request behind
          (some (isDisjunction, word)) behind.next :: rest)

variable {args registry now}

/- Each turn but the last one takes an argument at least. -/
theorem Course.length_le
    {start : Nat}
    {course : List Turn}
    (hCourse : Course args registry now start course)
    (hStart : start ≤ args.length) :
    course.length ≤ args.length - start + 1 := by
  induction hCourse with
  | failed => simp
  | ended => simp
  | acted hForward hBound _ ih =>
      have hRest := ih hBound
      rw [List.length_cons]
      omega
  | @resumed start _ _ behind _ _ _ hForward hWord _ _ ih =>
      have hInside : behind.cursor < args.length :=
        (List.getElem?_eq_some_iff.1 hWord).1
      have hRest := ih hInside
      have hCursor := behind.cursor_next
      rw [List.length_cons]
      omega

/- A turn that fails tells why. -/
theorem Course.tells
    {start : Nat}
    {course : List Turn}
    {halt : Halt}
    {last : Position}
    (hCourse : Course args registry now start course)
    (hFailed : .failed halt last ∈ course) :
    ∃ fault, halt.Tells args registry now last fault := by
  induction hCourse with
  | failed hBound hTells =>
      cases List.mem_singleton.1 hFailed
      exact ⟨_, hTells⟩
  | ended => exact nomatch List.mem_singleton.1 hFailed
  | acted _ _ _ ih =>
      rcases List.mem_cons.1 hFailed with hSame | hRest
      · exact nomatch hSame
      · exact ih hRest
  | resumed _ _ _ _ ih =>
      rcases List.mem_cons.1 hFailed with hSame | hRest
      · exact nomatch hSame
      · exact ih hRest

section Turns

variable {turn : Turn} {last : Position}

theorem turns_of_halt
    {halt : Halt}
    (hTurn :
      (Reading.turn args registry now).from? position =
        some (.error halt, last)) :
    Position.turns args registry now position =
      some [.failed halt last] := by
  rw [Position.turns, hTurn]
  rfl

theorem turns_of_last
    (hTurn :
      (Reading.turn args registry now).from? position =
        some (.ok turn, last))
    (hNext : turn.next? = none) :
    Position.turns args registry now position =
      some [turn] := by
  rw [Position.turns, hTurn, Option.bind_eq_bind,
    Option.bind_some]
  dsimp only
  rw [hNext]
  rfl

theorem turns_of_next
    {next : Position}
    {others : List Turn}
    (hTurn :
      (Reading.turn args registry now).from? position =
        some (.ok turn, last))
    (hNext : turn.next? = some next)
    (hOthers :
      Position.turns args registry now next = some others) :
    Position.turns args registry now position =
      some (turn :: others) := by
  rw [Position.turns, hTurn, Option.bind_eq_bind,
    Option.bind_some]
  dsimp only
  rw [hNext]
  dsimp only
  rw [hOthers]
  rfl

end Turns

/-
  From any position in the list there is a course, and its
  turns are the rounds of the reader on what is left.  The
  induction is on a bound of the arguments that are left.
-/
theorem exists_course
    {limit : Nat}
    {position : Position}
    (hBound : position.cursor ≤ args.length)
    (hLimit : args.length - position.cursor < limit) :
    ∃ course,
      Position.turns args registry now position =
        some course ∧
      course.map (Turn.round? args) =
        (roundsFrom registry now limit position.sorts
          (args.drop position.cursor)).map some ∧
      Course args registry now position.cursor course := by
  induction limit generalizing position with
  | zero => omega
  | succ limit ih =>
      have hParses :=
        @Reading.parses args registry now position hBound
      unfold roundsFrom
      generalize hParse :
        (Reading.parse args registry now).from? position =
          told at hParses
      generalize Segment.read registry now
        (args.drop position.cursor) = read at hParses
      cases hParses with
      | @halted halt fault last hLast hTells =>
          refine ⟨_,
            turns_of_halt (Reading.from?_turn_of_halt hParse),
            ?_, .failed hLast hTells⟩
          cases hTells <;> rfl
      | @complete filter sorts last hEnd hSorts =>
          refine ⟨_,
            turns_of_last
              (Reading.from?_turn_of_complete hParse) rfl,
            ?_, .ended hEnd⟩
          simp [Turn.round?, hSorts]
      | @action filter sorts request behind hForward hBehind
          hSorts =>
          dsimp only
          rcases Reading.cases_resume args registry behind
            with
            ⟨hResume, hRead⟩ |
            ⟨isDisjunction, word, hResume, hRead, hWord,
              hToken⟩
          · have hTurn :=
              Reading.from?_turn_of_action hParse hResume
            rcases ih hBehind (by omega) with
              ⟨others, hOthers, hRounds, hRest⟩
            refine ⟨_, turns_of_next hTurn rfl hOthers, ?_,
              .acted hForward hBehind hRest⟩
            simp [Turn.round?, hRead, hRounds, hSorts]
          · have hTurn :=
              Reading.from?_turn_of_operator hParse hResume
                hWord
            have hInside : behind.next.cursor ≤ args.length :=
              (List.getElem?_eq_some_iff.1 hWord).1
            have hCursor := behind.cursor_next
            rcases ih hInside (by omega) with
              ⟨others, hOthers, hRounds, hRest⟩
            refine ⟨_, turns_of_next hTurn rfl hOthers, ?_,
              .resumed hForward hWord hToken hRest⟩
            have hNext : behind.next.sorts = behind.sorts :=
              rfl
            rw [hNext] at hRounds
            simp [Turn.round?, hRead, hRounds, hSorts]

/-
  Whatever the arguments and the registry are, taking an
  expression and resuming behind its action ends after one
  turn more than there are arguments at most.  Its turns are
  the rounds of the reader.  Each of them moves the cursor
  forward inside of the list, and the last one reaches the
  end or halts.  Nothing outside of the list is asked for,
  and a parenthesis that closes nothing is reported in front
  of such a one only, where no predicate reports it either if
  the registry is a standard one.
-/
theorem turns_end
    (args : List String)
    (registry : Registry)
    (now : Int64) :
    ∃ course,
      Position.turns args registry now {} = some course ∧
      course.map (Turn.round? args) =
        (rounds registry now args).map some ∧
      course.length ≤ args.length + 1 ∧
      Course args registry now 0 course ∧
      ∀ halt last,
        .failed halt last ∈ course →
          halt ≠ .outside ∧
          (halt = .fault .unopened →
            last.token? args registry = some .closing) ∧
          (registry.Standard →
            halt.fault? = some .unopened →
              last.token? args registry =
                some .closing) := by
  rcases @exists_course args registry now (args.length + 1) {}
      (Nat.zero_le _) (by simp) with
    ⟨course, hTurns, hRounds, hCourse⟩
  refine ⟨course, hTurns, hRounds, ?_, hCourse, ?_⟩
  · exact hCourse.length_le (Nat.zero_le _)
  · intro halt last hFailed
    rcases hCourse.tells hFailed with ⟨fault, hTells⟩
    cases hTells with
    | found hToken =>
        refine ⟨nofun, ?_, ?_⟩
        · rintro ⟨⟩
          exact hToken rfl
        · rintro _ ⟨⟩
          exact hToken rfl
    | refused hRefused =>
        refine ⟨nofun, nofun, ?_⟩
        rintro hStandard ⟨⟩
        rcases hRefused with ⟨p, hMember, words, hBuild⟩
        exact nomatch
          hStandard.isCandid p hMember now words _ hBuild

end Courses

end Expression

end TreeKeeper
