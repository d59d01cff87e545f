import TreeKeeper.Policy.Apply
import TreeKeeper.Proofs.Policy.Caching
import TreeKeeper.Proofs.Policy.Reading
import TreeKeeper.Proofs.Text.CommandWords
import TreeKeeper.Proofs.Text.Pieces
import TreeKeeper.Store.Snapshot

/-
  The external commands of policies.  An action that asks for
  a command is written with its template, and whatever other
  parameters are declared beside it, the words it is prepared
  with are those of the template, which are never none.  An
  entry then takes the place of each mark inside of a word,
  so that the program is started with just as many words.
  No program is started if one of them has a NUL character.

  Key definitions include:
    * `Document.actionText?`
    * `Launched`

  Main declarations:
    * `CommandWords.ne_nil_of_split`
    * `Action.exists_template_of_ofText`
    * `Policy.exists_readAction_of_actionFor`
    * `Stage.hasZero_fillIn_iff`
    * `Stage.apply_command`
    * `Policy.commands_of_ofText`
-/

------------------------------------------------------------
-- Templates
------------------------------------------------------------

namespace TreeKeeper

/- The text that asks for the action of a part of a policy. -/
def Document.actionText?
    (document : Document) : Selection → Option String
| .excluded => none
| .matched index =>
    document.rules[index]?.map RuleText.action
| .unmatched => some document.action

/- A command line that is not blank has words. -/
theorem CommandWords.ne_nil_of_split
    {template : String}
    {words : List String}
    (hTemplate : Text.trim template.toList ≠ [])
    (hSplit : split template = .ok words) :
    words ≠ [] := by
  rintro rfl
  have hRenders := renders_of_split hSplit
  generalize template.toList = text at hTemplate hRenders
  cases hRenders with
  | blank _ hGap =>
      apply hTemplate
      unfold Text.trim
      rw [List.dropWhile_eq_nil_iff.2 hGap]
      rfl

namespace Action

/- The kinds that have names are no commands. -/
theorem kind_ne_command_of_named
    {text : String}
    {kind : ActionKind}
    (h :
      (ActionKind.named.find? fun k => k.title == text) =
        some kind) :
    kind ≠ .command := by
  rintro rfl
  have hNamed := List.mem_of_find?_eq_some h
  exact absurd hNamed (by decide)

theorem exists_template_of_ofText
    {text : String}
    {action : Action}
    (h : ofText text = .ok action)
    (hKind : action.kind = .command) :
    ∃ template words,
      text = "cmd:" ++ template ∧
      action.parameters =
        Dictionary.empty.insert commandKey template ∧
      CommandWords.split template = .ok words ∧
      words ≠ [] := by
  unfold ofText at h
  split at h
  · rename_i kind hNamed
    cases h
    exact absurd hKind (kind_ne_command_of_named hNamed)
  · split at h
    · rename_i template hStrip
      have hText :=
        Text.eq_append_of_stripBeginning hStrip
      simp only [ofCommand] at h
      split at h
      · exact nomatch h
      · rename_i hBlank
        split at h
        · exact nomatch h
        · rename_i words hSplit
          cases h
          refine ⟨String.ofList template, words, ?_, rfl,
            hSplit, ?_⟩
          · apply String.toList_inj.1
            simp [hText]
          · apply CommandWords.ne_nil_of_split _ hSplit
            rw [String.toList_ofList]
            simpa using hBlank
    · exact nomatch h

/- The words of a command do not depend on the parameters. -/
theorem commandWords_withParameters
    {action : Action}
    {template : String}
    {words : List String}
    (hKind : action.kind = .command)
    (hTemplate :
      action.parameters =
        Dictionary.empty.insert commandKey template)
    (hSplit : CommandWords.split template = .ok words)
    (parameters : Dictionary String) :
    (action.withParameters parameters).commandWords =
      words := by
  have hFound :
      (action.withParameters parameters).parameters.get?
          commandKey =
        some template := by
    unfold withParameters
    rw [hTemplate]
    change (parameters.insert commandKey template).get? _ = _
    rw [Dictionary.get?_insert, if_pos rfl]
  have hSame :
      (action.withParameters parameters).kind = .command :=
    hKind
  unfold commandWords
  rw [hSame, hFound]
  simp only [hSplit]

theorem commandWords_of_ne_command
    {action : Action}
    (hKind : action.kind ≠ .command) :
    action.commandWords = [] := by
  unfold commandWords
  split
  · rename_i hCommand _
    exact absurd hCommand hKind
  · rfl

end Action

------------------------------------------------------------
-- Reading
------------------------------------------------------------

namespace Policy

variable {context : Context}

/- An action is read with the parameters beside it. -/
theorem readAction_eq_ok_iff
    {owner text : String}
    {parameters : Dictionary Yaml.Value}
    {action : Action} :
    readAction owner text parameters = .ok action ↔
      ∃ written texts,
        Action.ofText text = .ok written ∧
        parameterTexts owner parameters.pairs = .ok texts ∧
        written.withParameters (Dictionary.ofList texts) =
          action := by
  unfold readAction
  cases Action.ofText text with
  | error fault => simp
  | ok written => simp [map_eq_ok_iff]

theorem readAction_of_readRule
    {number : Nat}
    {text : RuleText}
    {rule : Rule}
    (h : readRule context number text = .ok rule) :
    readAction rule.name text.action text.parameters =
      .ok rule.action := by
  simp only [readRule] at h
  split at h
  · cases h
  · rcases map_eq_ok_iff.1 h with ⟨action, hAction, rfl⟩
    exact hAction

/- Each action of a policy is read from its own text. -/
theorem exists_readAction_of_actionFor
    {document : Document}
    {policy : Policy}
    {selection : Selection}
    {action : Action}
    (hPolicy : ofDocument context document = .ok policy)
    (hAction : policy.actionFor selection = some action) :
    ∃ owner text parameters,
      document.actionText? selection = some text ∧
      readAction owner text parameters = .ok action := by
  rcases exists_of_ofDocument hPolicy with
    ⟨classes, _, _, hFallback, hRules⟩
  cases selection with
  | excluded => exact nomatch hAction
  | unmatched =>
      cases hAction
      exact ⟨_, _, _, rfl, hFallback⟩
  | matched index =>
      rcases Option.map_eq_some_iff.1 hAction with
        ⟨rule, hRule, rfl⟩
      rcases List.getElem?_eq_some_iff.1 hRule with
        ⟨hIndex, rfl⟩
      have hAll := forall₂_of_readRules hRules
      have hWritten : index < document.rules.length :=
        hAll.length_eq ▸ hIndex
      rcases hAll.get hWritten hIndex with ⟨place, hRead⟩
      have hText :
          document.actionText? (.matched index) =
            some document.rules[index].action := by
        change document.rules[index]?.map _ = _
        rw [List.getElem?_eq_getElem hWritten]
        rfl
      exact ⟨_, _, _, hText, readAction_of_readRule hRead⟩

end Policy

------------------------------------------------------------
-- Running
------------------------------------------------------------

/- The mark is a text. -/
theorem Stage.placeMark_ne_nil :
    Stage.placeMark.toList ≠ [] := by
  decide

/-
  What comes of starting a program: the fault of the launcher
  or an ending that tells of a failure are reported with the
  command line, and all else is a success.
-/
inductive Launched
    (words : List String) :
    Except LaunchFault Ending → Except ApplyFault Unit → Prop
| fault (fault : LaunchFault) :
    Launched words (.error fault)
      (.error (.launch (Text.join " " words) fault))
| success
    {ending : Ending}
    (hSuccess : ending.isSuccess = true) :
    Launched words (.ok ending) (.ok ())
| failure
    {ending : Ending}
    (hFailure : ending.isSuccess = false) :
    Launched words (.ok ending)
      (.error (.ending (Text.join " " words) ending))

namespace Stage

variable {β γ κ μ : Type} [Store β κ] [Store γ μ]

/- Each word is filled in by itself. -/
theorem forall₂_fillIn
    (words : List String)
    (place : String) :
    List.Forall₂
      (fun word filled =>
        Text.IsReplaced placeMark.toList place.toList
          word.toList filled.toList)
      words (fillIn words place) := by
  induction words with
  | nil => exact .nil
  | cons word words ih =>
      exact .cons
        (Text.isReplaced_replace placeMark_ne_nil word place)
        ih

/-
  A word that is filled in has a NUL character if it had one
  before, or if it has a mark and the place has one.
-/
theorem hasZero_fillIn_iff
    (words : List String)
    (place : String) :
    Launcher.hasZero (fillIn words place) = true ↔
      ∃ word ∈ words,
        '\x00' ∈ word.toList ∨
          '\x00' ∈ place.toList ∧
            placeMark.toList <:+: word.toList := by
  have hMark : '\x00' ∉ placeMark.toList := by decide
  have hWord : ∀ word : String,
      '\x00' ∈ (Text.replace word placeMark place).toList ↔
        '\x00' ∈ word.toList ∨
          '\x00' ∈ place.toList ∧
            placeMark.toList <:+: word.toList := by
    intro word
    exact (Text.isReplaced_replace placeMark_ne_nil word
      place).mem_iff hMark
  simp only [Launcher.hasZero, fillIn, List.any_map,
    List.any_eq_true, Function.comp_apply,
    List.contains_iff_mem, hWord]

/- A command with words is started, if it can be at all. -/
theorem apply_command
    (stage : Stage β γ)
    (launch : Launcher)
    (prepared : Prepared)
    (entry : Entry)
    (hKind : prepared.kind = .command)
    (hWords : prepared.words ≠ []) :
    let words :=
      fillIn prepared.words (stage.placeText entry)
    stage.apply launch prepared false entry =
      (outcome words (stage.start launch entry words).1,
        (stage.start launch entry words).2) := by
  intro words
  have hApply :
      stage.apply launch prepared false entry =
        stage.run launch prepared entry := by
    unfold apply act
    rw [hKind]
    rfl
  have hSome : ¬ words.isEmpty = true := by
    simpa [words, fillIn] using hWords
  rw [hApply]
  unfold run
  dsimp only
  rw [if_neg hSome]

/- Words with a NUL character are not handed over. -/
theorem start_of_hasZero
    (stage : Stage β γ)
    (launch : Launcher)
    (entry : Entry)
    {words : List String}
    (hZero : Launcher.hasZero words = true) :
    stage.start launch entry words =
      (.error .zeroCharacter,
        stage.record (.launched entry words false)) := by
  unfold start Launcher.start
  rw [if_pos hZero]
  rfl

theorem start_of_not_hasZero
    (stage : Stage β γ)
    (launch : Launcher)
    (entry : Entry)
    {words : List String}
    (hZero : Launcher.hasZero words = false) :
    let launched := launch stage.world words
    stage.start launch entry words =
      (launched.1,
        { stage with world := launched.2 }.record
          (.launched entry words (succeeded launched.1))) := by
  unfold start Launcher.start
  rw [if_neg (Bool.eq_false_iff.1 hZero)]

theorem launched_outcome
    (words : List String)
    (result : Except LaunchFault Ending) :
    Launched words result (outcome words result) := by
  cases result with
  | error fault => exact .fault fault
  | ok ending =>
      unfold outcome
      dsimp only
      split
      · rename_i hSuccess
        exact .success hSuccess
      · rename_i hFailure
        exact .failure (Bool.eq_false_iff.2 hFailure)

end Stage

------------------------------------------------------------
-- Selections
------------------------------------------------------------

/- Serving requests keeps a cache faithful. -/
theorem ActionCache.isFaithful_serveAll
    {cache : ActionCache}
    {policy : Policy}
    (hCache : cache.IsFaithful policy)
    (requests : List Request) :
    (serveAll policy requests cache).2.IsFaithful
      policy := by
  induction requests generalizing cache with
  | nil => exact hCache
  | cons request requests ih =>
      have hServed :
          (cache.serve policy request).2.IsFaithful
            policy := by
        cases request with
        | prepare selection =>
            exact isFaithful_prepare hCache selection
        | record kind success => exact hCache
      exact ih hServed

namespace Policy

variable {β γ κ μ : Type} [Store β κ] [Store γ μ]

/- The words of an action that was read from its text. -/
theorem commandWords_of_readAction
    {owner text : String}
    {parameters : Dictionary Yaml.Value}
    {action : Action}
    (hRead : readAction owner text parameters = .ok action)
    (hKind : action.kind = .command) :
    ∃ template,
      text = "cmd:" ++ template ∧
      CommandWords.split template =
        .ok action.commandWords ∧
      action.commandWords ≠ [] := by
  rcases readAction_eq_ok_iff.1 hRead with
    ⟨written, texts, hWritten, _, rfl⟩
  have hCommand : written.kind = .command := hKind
  rcases Action.exists_template_of_ofText hWritten hCommand
    with ⟨template, words, hText, hTemplate, hSplit, hSome⟩
  rw [Action.commandWords_withParameters hCommand hTemplate
    hSplit]
  exact ⟨template, hText, hSplit, hSome⟩

/-
  The commands of a policy that was read.  Whatever was asked
  before, each part of the policy is prepared with its kind,
  and with no words unless it asks for a command.  A command
  has the words of the template in its own text, at least
  one, and as many words are made of them for an entry: in
  each of them the path of the entry, on disk if the live
  store knows it there, takes the place of each mark.  If one
  of these has a NUL character, from the template or from the
  path, the action fails and nothing is started.  Otherwise
  applying it starts a program with these words, and gives
  what comes of it.
-/
theorem commands_of_ofText
    {context : Context}
    {text : String}
    {policy : Policy}
    {selection : Selection}
    {action : Action}
    (hPolicy : ofText context text = .ok policy)
    (hAction : policy.actionFor selection = some action)
    (capabilities : Capabilities)
    (history : List ActionCache.Request)
    (stage : Stage β γ)
    (launch : Launcher)
    (entry : Entry) :
    let cache :=
      (ActionCache.serveAll policy history
        { capabilities := capabilities }).2
    let place := (stage.placeText entry).toList
    let mark := Stage.placeMark.toList
    ∃ prepared,
      (cache.prepare policy selection).1 = some prepared ∧
      prepared.kind = action.kind ∧
      (action.kind ≠ .command → prepared.words = []) ∧
      (action.kind = .command →
        ∃ document template words,
          Document.ofText? text = some document ∧
          document.actionText? selection =
            some ("cmd:" ++ template) ∧
          CommandWords.split template = .ok prepared.words ∧
          prepared.words ≠ [] ∧
          List.Forall₂
            (fun word filled =>
              Text.IsReplaced mark place word.toList
                filled.toList)
            prepared.words words ∧
          (Launcher.hasZero words = true ↔
            ∃ word ∈ prepared.words,
              '\x00' ∈ word.toList ∨
                '\x00' ∈ place ∧ mark <:+: word.toList) ∧
          (Launcher.hasZero words = true →
            stage.apply launch prepared false entry =
              (.error (.launch (Text.join " " words)
                  .zeroCharacter),
                stage.record
                  (.launched entry words false))) ∧
          (Launcher.hasZero words = false →
            let launched := launch stage.world words
            ∃ result,
              Launched words launched.1 result ∧
              stage.apply launch prepared false entry =
                (result,
                  { stage with
                    world := launched.2 }.record
                    (.launched entry words
                      (succeeded launched.1))))) := by
  intro cache place mark
  have hFaithful : cache.IsFaithful policy :=
    ActionCache.isFaithful_serveAll
      (ActionCache.isFaithful_of_slots_eq_nil rfl) history
  have hPrepared :
      (cache.prepare policy selection).1 =
        some (action.prepare (policy.ruleName selection)) := by
    rw [ActionCache.prepare_of_isFaithful hFaithful]
    unfold prepared?
    rw [hAction]
    rfl
  refine ⟨_, hPrepared, rfl, fun hOther =>
    Action.commandWords_of_ne_command hOther, fun hKind => ?_⟩
  unfold ofText at hPolicy
  split at hPolicy
  · exact nomatch hPolicy
  · rename_i document hDocument
    rcases exists_readAction_of_actionFor hPolicy hAction with
      ⟨owner, written, parameters, hText, hRead⟩
    rcases commandWords_of_readAction hRead hKind with
      ⟨template, rfl, hSplit, hSome⟩
    have hApply :=
      stage.apply_command launch
        (action.prepare (policy.ruleName selection)) entry
        hKind hSome
    refine ⟨document, template, _, hDocument, hText, hSplit,
      hSome, Stage.forall₂_fillIn _ _,
      Stage.hasZero_fillIn_iff _ _, fun hZero => ?_,
      fun hNone => ?_⟩
    · rw [hApply, Stage.start_of_hasZero _ _ _ hZero]
      rfl
    · refine ⟨_, Stage.launched_outcome _ _, ?_⟩
      rw [hApply, Stage.start_of_not_hasZero _ _ _ hNone]

/-
  A template with the mark twice, and a declared parameter
  that has the name of the command line and is not used.
-/
theorem commands_of_ofText_declared :
    let context : Context := ⟨.builtin, 0⟩
    let text :=
      "name: x\naction: cmd:log 'a \x7b\x7d' \x7b\x7d\n" ++
        "parameters:\n  command: purge\n"
    let history : List ActionCache.Request :=
      [.prepare .unmatched, .record .command true]
    let entry : Entry := .ofPath "/b c" { size := 1 }
    let stage : Stage Snapshot Snapshot := {
      index := { entries := [entry] }
      live := { entries := [entry] }
      out := {}
      world := {} }
    let launch : Launcher :=
      fun world _ => (.ok (.exited 0), world)
    ∃ policy action prepared words,
      ofText context text = .ok policy ∧
      policy.actionFor .unmatched = some action ∧
      action.kind = .command ∧
      ((ActionCache.serveAll policy history
        { capabilities := {} }).2.prepare policy
          .unmatched).1 = some prepared ∧
      prepared.words = ["log", "a \x7b\x7d", "\x7b\x7d"] ∧
      words.length = 3 ∧
      stage.apply launch prepared false entry =
        (.ok (),
          stage.record (.launched entry words true)) := by
  intro context text history entry stage launch
  have hRead : (ofText context text).toOption.isSome := by
    decide +kernel
  rcases Option.isSome_iff_exists.1 hRead with
    ⟨policy, hPolicy⟩
  rw [toOption_eq_some_iff] at hPolicy
  have hText :
      (Document.ofText? text).bind
          (·.actionText? .unmatched) =
        some ("cmd:" ++ "log 'a \x7b\x7d' \x7b\x7d") := by
    decide +kernel
  have hKind :
      (ofText context text).toOption.map
          (·.fallback.kind) = some .command := by
    decide +kernel
  rw [hPolicy] at hKind
  have hCommand : policy.fallback.kind = .command :=
    Option.some.inj hKind
  have hAction :
      policy.actionFor .unmatched = some policy.fallback :=
    rfl
  rcases commands_of_ofText hPolicy hAction {} history stage
      launch entry with
    ⟨prepared, hPrepared, _, _, hRuns⟩
  rcases hRuns hCommand with
    ⟨document, template, words, hDocument, hWritten, hSplit,
      _, hFilled, hZero, _, hLaunches⟩
  rw [hDocument, Option.bind_some, hWritten] at hText
  have hTemplate :
      template = "log 'a \x7b\x7d' \x7b\x7d" := by
    have hList := congrArg String.toList
      (Option.some.inj hText)
    rw [String.toList_append, String.toList_append] at hList
    exact String.toList_inj.1
      (List.append_cancel_left hList)
  rw [hTemplate] at hSplit
  have hKnown :
      CommandWords.split "log 'a \x7b\x7d' \x7b\x7d" =
        .ok ["log", "a \x7b\x7d", "\x7b\x7d"] := by
    rfl
  have hWords :
      prepared.words = ["log", "a \x7b\x7d", "\x7b\x7d"] :=
    Except.ok.inj (hSplit.symm.trans hKnown)
  have hNone : Launcher.hasZero words = false := by
    rw [Bool.eq_false_iff, Ne, hZero, hWords]
    decide
  rcases hLaunches hNone with ⟨result, hLaunched, hApply⟩
  have hResult : result = .ok () := by
    cases hLaunched with
    | success _ => rfl
    | failure hFailure => exact nomatch hFailure
  refine ⟨policy, policy.fallback, prepared, words, hPolicy,
    hAction, hCommand, hPrepared, hWords, ?_, ?_⟩
  · rw [← hFilled.length_eq, hWords]
    rfl
  · rw [hApply, hResult]
    rfl

/-
  A path with a NUL character.  Whatever the launcher would
  make of it, it is not asked, and no program is started.
-/
theorem commands_unstarted_at_zero :
    let context : Context := ⟨.builtin, 0⟩
    let text := "name: x\naction: cmd:true \x7b\x7d\n"
    let cache : ActionCache := { capabilities := {} }
    let entry : Entry := .ofPath "/a\x00b" {}
    let stage : Stage Snapshot Snapshot := {
      index := { entries := [entry] }
      live := { entries := [entry] }
      out := {}
      world := {} }
    ∃ policy prepared,
      ofText context text = .ok policy ∧
      (cache.prepare policy .unmatched).1 = some prepared ∧
      prepared.kind = .command ∧
      prepared.words = ["true", "\x7b\x7d"] ∧
      ∀ launch,
        stage.apply launch prepared false entry =
          (.error (.launch "true /a\x00b" .zeroCharacter),
            stage.record
              (.launched entry ["true", "/a\x00b"]
                false)) := by
  intro context text cache entry stage
  have hKnown :
      (ofText context text).toOption.bind
          (fun policy =>
            (cache.prepare policy .unmatched).1.map
              fun prepared =>
                (prepared.kind, prepared.words)) =
        some (.command, ["true", "\x7b\x7d"]) := by
    decide +kernel
  rcases Option.bind_eq_some_iff.1 hKnown with
    ⟨policy, hPolicy, hMap⟩
  rcases Option.map_eq_some_iff.1 hMap with
    ⟨prepared, hPrepared, hBoth⟩
  rcases Prod.mk.inj hBoth with ⟨hKind, hWords⟩
  have hSome : prepared.words ≠ [] := by
    rw [hWords]
    exact List.cons_ne_nil _ _
  have hFilled :
      Stage.fillIn prepared.words (stage.placeText entry) =
        ["true", "/a\x00b"] := by
    rw [hWords]
    decide +kernel
  refine ⟨policy, prepared, toOption_eq_some_iff.1 hPolicy,
    hPrepared, hKind, hWords, fun launch => ?_⟩
  rw [stage.apply_command launch prepared entry hKind hSome,
    hFilled, Stage.start_of_hasZero _ _ _ (by decide)]
  rfl

end Policy

end TreeKeeper
