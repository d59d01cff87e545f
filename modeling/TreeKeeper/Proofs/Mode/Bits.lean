import Mathlib.Tactic.ByContra
import Mathlib.Tactic.Tauto
import TreeKeeper.Proofs.Mode.Clauses

/-
  What the actions of symbolic modes do, bit by bit.  An
  action leaves the bits that it does not reach alone, and of
  those that it reaches it adds, removes or exactly sets the
  ones that it names.  The nine lowest bits are permissions,
  three for each class, and three bits above them are special.

  Key definitions include:
    * `Mode.Has`
    * `Mode.Reaches`
    * `Mode.Grant.Names`
    * `Mode.Action.Turns`
    * `Mode.Leads`

  Main declarations:
    * `Mode.Action.turns_apply`
    * `Mode.leads_apply`
    * `Mode.Leads.unique`
    * `Mode.Leads.le_allBits`
-/

------------------------------------------------------------
-- Bits
------------------------------------------------------------

namespace TreeKeeper

namespace Mode

/- Whether a bit of a mode is set. -/
def Has (mode : UInt32) (bit : Nat) : Prop :=
  mode.toNat.testBit bit = true

instance (mode : UInt32) (bit : Nat) :
    Decidable (Has mode bit) := by
  unfold Has
  infer_instance

/-
  Whether an action for some classes may touch a bit.  One
  that names no class is for all of them.
-/
def Reaches (classes : List Who) (bit : Nat) : Prop :=
  (classes = [] ∧ Has allBits bit) ∨
    ∃ who ∈ classes, Has who.bits bit

/- The lowest of the three permissions of a class. -/
def Source.place : Source → Nat
| user => 6
| group => 3
| other => 0

/-
  Whether a letter stands for a bit, given the mode before
  the action.  Reading, writing and executing come in this
  order from the highest permission of a class.
-/
def Letter.Names
    (mode : UInt32) : Letter → Nat → Prop
| read, bit => bit < 9 ∧ bit % 3 = 2
| write, bit => bit < 9 ∧ bit % 3 = 1
| execute, bit => bit < 9 ∧ bit % 3 = 0
| executeIfAny, bit =>
    (bit < 9 ∧ bit % 3 = 0) ∧
      ∃ some < 9, some % 3 = 0 ∧ Has mode some
| setId, bit => bit = 10 ∨ bit = 11
| sticky, bit => bit = 9

/-
  Whether an action names a bit, given the mode before it.  A
  class that is copied names its permissions in every class.
-/
def Grant.Names
    (mode : UInt32) : Grant → Nat → Prop
| letters ls, bit => ∃ l ∈ ls, l.Names mode bit
| copy source, bit =>
    bit < 9 ∧ Has mode (source.place + bit % 3)

/- What an action for some classes makes of a mode. -/
def Action.Turns
    (classes : List Who)
    (action : Action)
    (before after : UInt32) : Prop :=
  ∀ bit,
    (¬ Reaches classes bit →
      (Has after bit ↔ Has before bit)) ∧
    (Reaches classes bit →
      (Has after bit ↔
        match action.change with
        | .add =>
            Has before bit ∨ action.grant.Names before bit
        | .remove =>
            Has before bit ∧ ¬ action.grant.Names before bit
        | .set => action.grant.Names before bit))

/- What actions make of a mode one after the other. -/
inductive Leads :
    List (List Who × Action) → UInt32 → UInt32 → Prop
| nil {mode : UInt32} : Leads [] mode mode
| cons
    {classes : List Who}
    {action : Action}
    {others : List (List Who × Action)}
    {before between after : UInt32}
    (hTurns : action.Turns classes before between)
    (hOthers : Leads others between after) :
    Leads ((classes, action) :: others) before after

/- The actions of clauses, each with the classes it is for. -/
def actionsOf
    (clauses : List Written) : List (List Who × Action) :=
  clauses.flatMap fun written =>
    written.actions.map fun action =>
      (written.classes, action)

------------------------------------------------------------
-- Operations On Bits
------------------------------------------------------------

variable {a b mode : UInt32} {bit : Nat}

theorem has_or :
    Has (a ||| b) bit ↔ Has a bit ∨ Has b bit := by
  unfold Has
  rw [UInt32.toNat_or, Nat.testBit_or, Bool.or_eq_true]

theorem has_and :
    Has (a &&& b) bit ↔ Has a bit ∧ Has b bit := by
  unfold Has
  rw [UInt32.toNat_and, Nat.testBit_and, Bool.and_eq_true]

theorem lt_of_has (h : Has a bit) : bit < 32 := by
  by_contra hHigh
  have hLess : a.toNat < 2 ^ bit :=
    Nat.lt_of_lt_of_le a.toNat_lt
      (Nat.pow_le_pow_right (by omega) (by omega))
  unfold Has at h
  rw [Nat.testBit_lt_two_pow hLess] at h
  exact nomatch h

theorem has_and_not :
    Has (a &&& ~~~b) bit ↔ Has a bit ∧ ¬ Has b bit := by
  rw [has_and]
  have hNot (hLow : bit < 32) :
      Has (~~~b) bit ↔ ¬ Has b bit := by
    unfold Has
    rw [← UInt32.toNat_toBitVec, UInt32.toBitVec_not,
      BitVec.testBit_toNat, BitVec.getLsbD_not,
      ← UInt32.toNat_toBitVec, BitVec.testBit_toNat]
    simp [hLow]
  constructor
  · rintro ⟨ha, hb⟩
    exact ⟨ha, (hNot (lt_of_has ha)).1 hb⟩
  · rintro ⟨ha, hb⟩
    exact ⟨ha, (hNot (lt_of_has ha)).2 hb⟩

theorem not_has_zero : ¬ Has 0 bit := by
  unfold Has
  rw [UInt32.toNat_zero, Nat.zero_testBit]
  exact Bool.false_ne_true

/- Modes with the same bits are the same. -/
theorem eq_of_has (h : ∀ bit, Has a bit ↔ Has b bit) :
    a = b := by
  apply UInt32.toNat.inj
  apply Nat.eq_of_testBit_eq
  intro bit
  exact Bool.eq_iff_iff.2 (h bit)

theorem has_shiftRight {n : UInt32} (hShift : n < 32) :
    Has (a >>> n) bit ↔ Has a (n.toNat + bit) := by
  have hSmall : n.toNat < 32 := hShift
  unfold Has
  rw [UInt32.toNat_shiftRight, Nat.mod_eq_of_lt hSmall,
    Nat.testBit_shiftRight]

theorem has_shiftLeft
    {n : UInt32}
    (hShift : n < 32)
    (hBit : bit < 32) :
    Has (a <<< n) bit ↔
      n.toNat ≤ bit ∧ Has a (bit - n.toNat) := by
  have hSmall : n.toNat < 32 := hShift
  unfold Has
  rw [UInt32.toNat_shiftLeft, Nat.mod_eq_of_lt hSmall,
    Nat.testBit_mod_two_pow, Nat.testBit_shiftLeft]
  simp [hBit]

/- A mask is told by the bits below the thirteenth. -/
theorem has_mask_iff
    (mask : UInt32)
    (places : Nat → Prop)
    [DecidablePred places]
    (hMask : mask ≤ allBits)
    (hLow : ∀ bit < 12, Has mask bit ↔ places bit)
    (hHigh : ∀ bit, places bit → bit < 12) :
    Has mask bit ↔ places bit := by
  constructor
  · intro h
    refine (hLow bit ?_).1 h
    by_contra hLarge
    have hFits : mask.toNat ≤ 0o7777 := hMask
    have hPower : 2 ^ 12 ≤ 2 ^ bit :=
      Nat.pow_le_pow_right (by omega) (by omega)
    unfold Has at h
    rw [Nat.testBit_lt_two_pow (by omega)] at h
    exact nomatch h
  · intro h
    exact (hLow bit (hHigh bit h)).2 h

theorem has_allBits : Has allBits bit ↔ bit < 12 :=
  has_mask_iff allBits (· < 12) (by decide) (by decide)
    (fun _ h => h)

------------------------------------------------------------
-- Reach
------------------------------------------------------------

theorem has_union
    {classes : List Who} :
    Has (union a classes) bit ↔
      Has a bit ∨ ∃ who ∈ classes, Has who.bits bit := by
  induction classes generalizing a with
  | nil => simp [union]
  | cons who classes ih =>
      have hUnion :
          union a (who :: classes) =
            union (a ||| who.bits) classes :=
        rfl
      rw [hUnion, ih, has_or]
      simp [or_assoc]

theorem union_eq_zero_iff
    {classes : List Who} :
    union 0 classes = 0 ↔ classes = [] := by
  constructor
  · intro h
    apply List.eq_nil_iff_forall_not_mem.2
    intro who hWho
    have hSome : ∃ bit, Has who.bits bit := by
      cases who with
      | only source =>
          cases source
          · exact ⟨6, by decide⟩
          · exact ⟨3, by decide⟩
          · exact ⟨0, by decide⟩
      | everybody => exact ⟨0, by decide⟩
    rcases hSome with ⟨bit, hBit⟩
    have hUnion : Has (union 0 classes) bit :=
      has_union.2 (.inr ⟨who, hWho, hBit⟩)
    rw [h] at hUnion
    exact not_has_zero hUnion
  · rintro rfl
    rfl

theorem has_reachOf
    {classes : List Who} :
    Has (reachOf (union 0 classes)) bit ↔
      Reaches classes bit := by
  unfold reachOf Reaches
  by_cases hNone : classes = []
  · rw [if_pos (union_eq_zero_iff.2 hNone), hNone]
    simp
  · rw [if_neg (union_eq_zero_iff.not.2 hNone), has_union]
    simp [hNone, not_has_zero]

/- An action reaches none but the bits of a mode. -/
theorem lt_of_reaches
    {classes : List Who}
    (h : Reaches classes bit) : bit < 12 := by
  have hAll : ∀ who : Who, Has who.bits bit → bit < 12 := by
    intro who hBit
    have hWithin : who.bits ||| allBits = allBits := by
      cases who with
      | only source => cases source <;> decide
      | everybody => decide
    rw [← has_allBits, ← hWithin, has_or]
    exact .inl hBit
  rcases h with ⟨_, hBit⟩ | ⟨who, _, hBit⟩
  · exact has_allBits.1 hBit
  · exact hAll who hBit

------------------------------------------------------------
-- Named Bits
------------------------------------------------------------

theorem has_execute :
    Has 0o111 bit ↔ bit < 9 ∧ bit % 3 = 0 :=
  has_mask_iff 0o111 (fun bit => bit < 9 ∧ bit % 3 = 0)
    (by decide) (by decide) (by omega)

theorem Letter.has_bits
    {letter : Letter} :
    Has (letter.bits mode) bit ↔ letter.Names mode bit := by
  cases letter with
  | read =>
      exact has_mask_iff 0o444
        (fun bit => bit < 9 ∧ bit % 3 = 2)
        (by decide) (by decide) (by omega)
  | write =>
      exact has_mask_iff 0o222
        (fun bit => bit < 9 ∧ bit % 3 = 1)
        (by decide) (by decide) (by omega)
  | execute => exact has_execute
  | executeIfAny =>
      have hAny :
          mode &&& 0o111 ≠ 0 ↔
            ∃ some < 9, some % 3 = 0 ∧ Has mode some := by
        constructor
        · intro hSome
          by_contra hNone
          apply hSome
          apply eq_of_has
          intro place
          rw [has_and, has_execute]
          constructor
          · rintro ⟨hPlace, hLow, hExecute⟩
            exact absurd ⟨place, hLow, hExecute, hPlace⟩ hNone
          · exact fun h => absurd h not_has_zero
        · rintro ⟨place, hLow, hExecute, hPlace⟩ hZero
          have hBoth : Has (mode &&& 0o111) place :=
            has_and.2 ⟨hPlace, has_execute.2 ⟨hLow, hExecute⟩⟩
          rw [hZero] at hBoth
          exact not_has_zero hBoth
      unfold Letter.bits Letter.Names
      by_cases hExecute : mode &&& 0o111 ≠ 0
      · rw [if_pos hExecute, has_execute]
        exact (and_iff_left (hAny.1 hExecute)).symm
      · rw [if_neg hExecute]
        constructor
        · exact fun h => absurd h not_has_zero
        · exact fun h => absurd (hAny.2 h.2) hExecute
  | setId =>
      exact has_mask_iff 0o6000
        (fun bit => bit = 10 ∨ bit = 11)
        (by decide) (by decide) (by omega)
  | sticky =>
      exact has_mask_iff 0o1000
        (fun bit => bit = 9)
        (by decide) (by decide) (by omega)

/- The permissions of a class, moved to the lowest place. -/
theorem Source.has_bits
    {source : Source} :
    Has (source.bits mode) bit ↔
      bit < 3 ∧ Has mode (source.place + bit) := by
  have hSeven : Has 7 bit ↔ bit < 3 :=
    has_mask_iff 7 (· < 3) (by decide) (by decide)
      (by omega)
  cases source with
  | user =>
      unfold bits
      rw [has_and, hSeven, has_shiftRight (by decide),
        and_comm]
      rfl
  | group =>
      unfold bits
      rw [has_and, hSeven, has_shiftRight (by decide),
        and_comm]
      rfl
  | other =>
      unfold bits
      rw [has_and, hSeven, and_comm]
      simp [place]

/- Three bits that are repeated stand in every class. -/
theorem has_spread
    (hThree : ∀ bit, Has a bit → bit < 3)
    (hLow : bit < 9) :
    Has (a <<< 6 ||| a <<< 3 ||| a) bit ↔
      Has a (bit % 3) := by
  have hSix : (6 : UInt32).toNat = 6 := rfl
  have hThird : (3 : UInt32).toNat = 3 := rfl
  rw [has_or, has_or, has_shiftLeft (by decide) (by omega),
    has_shiftLeft (by decide) (by omega), hSix, hThird]
  constructor
  · rintro ((⟨hFar, hBit⟩ | ⟨hFar, hBit⟩) | hBit)
    · have hSame : bit - 6 = bit % 3 := by omega
      rwa [hSame] at hBit
    · have hSmall := hThree _ hBit
      have hSame : bit - 3 = bit % 3 := by omega
      rwa [hSame] at hBit
    · have hSmall := hThree _ hBit
      have hSame : bit = bit % 3 := by omega
      rwa [hSame] at hBit
  · intro hBit
    rcases (by omega :
        bit % 3 = bit - 6 ∧ 6 ≤ bit ∨
          bit % 3 = bit - 3 ∧ 3 ≤ bit ∨ bit % 3 = bit) with
      ⟨hSame, hFar⟩ | ⟨hSame, hFar⟩ | hSame
    · rw [hSame] at hBit
      exact .inl (.inl ⟨hFar, hBit⟩)
    · rw [hSame] at hBit
      exact .inl (.inr ⟨hFar, hBit⟩)
    · rw [hSame] at hBit
      exact .inr hBit

theorem has_foldl_letters
    {classes : UInt32}
    {ls : List Letter} :
    Has
        (ls.foldl
          (fun bits l =>
            bits ||| (l.bits mode &&& reachOf classes)) a)
        bit ↔
      Has a bit ∨
        (Has (reachOf classes) bit ∧
          ∃ l ∈ ls, l.Names mode bit) := by
  induction ls generalizing a with
  | nil => simp
  | cons l ls ih =>
      rw [List.foldl_cons, ih, has_or, has_and,
        Letter.has_bits]
      simp only [List.mem_cons, exists_eq_or_imp]
      tauto

/- The bits of an action are those it names and reaches. -/
theorem Grant.has_bits
    {grant : Grant}
    {classes : UInt32} :
    Has (grant.bits classes mode) bit ↔
      Has (reachOf classes) bit ∧ grant.Names mode bit := by
  cases grant with
  | letters ls =>
      unfold bits Names
      rw [has_foldl_letters]
      simp [not_has_zero]
  | copy source =>
      have hNine : Has 0o777 bit ↔ bit < 9 :=
        has_mask_iff 0o777 (· < 9) (by decide)
          (by decide) (by omega)
      have hThree :
          ∀ bit, Has (source.bits mode) bit → bit < 3 :=
        fun bit h => (Source.has_bits.1 h).1
      unfold bits Names
      rw [has_and, has_and, hNine]
      constructor
      · rintro ⟨⟨hBit, hReach⟩, hLow⟩
        rw [has_spread hThree hLow, Source.has_bits] at hBit
        exact ⟨hReach, hLow, hBit.2⟩
      · rintro ⟨hReach, hLow, hBit⟩
        rw [has_spread hThree hLow, Source.has_bits]
        exact ⟨⟨⟨Nat.mod_lt bit (by omega), hBit⟩, hReach⟩,
          hLow⟩

------------------------------------------------------------
-- Actions
------------------------------------------------------------

/- An action touches what it reaches, as its sign says. -/
theorem Action.turns_apply
    (classes : List Who)
    (action : Action)
    (mode : UInt32) :
    action.Turns classes mode
      (action.apply (union 0 classes) mode) := by
  intro bit
  have hNamed :
      Has (action.grant.bits (union 0 classes) mode) bit ↔
        Reaches classes bit ∧
          action.grant.Names mode bit := by
    rw [Grant.has_bits, has_reachOf]
  unfold apply
  cases action.change with
  | remove =>
      simp only [has_and_not, hNamed]
      tauto
  | add =>
      simp only [has_or, hNamed]
      tauto
  | set =>
      simp only [has_or, has_and_not, has_reachOf, hNamed]
      tauto

/- An action makes one mode of a mode. -/
theorem Action.Turns.unique
    {classes : List Who}
    {action : Action}
    {before after other : UInt32}
    (hAfter : action.Turns classes before after)
    (hOther : action.Turns classes before other) :
    after = other := by
  apply eq_of_has
  intro bit
  by_cases hReach : Reaches classes bit
  · rw [(hAfter bit).2 hReach, (hOther bit).2 hReach]
  · rw [(hAfter bit).1 hReach, (hOther bit).1 hReach]

theorem Leads.unique
    {actions : List (List Who × Action)}
    {before after other : UInt32}
    (hAfter : Leads actions before after)
    (hOther : Leads actions before other) :
    after = other := by
  induction hAfter with
  | nil =>
      cases hOther
      rfl
  | cons hTurns _ ih =>
      cases hOther with
      | cons hAgain hOthers =>
          cases hTurns.unique hAgain
          exact ih hOthers

theorem Leads.append
    {actions others : List (List Who × Action)}
    {before between after : UInt32}
    (hActions : Leads actions before between)
    (hOthers : Leads others between after) :
    Leads (actions ++ others) before after := by
  induction hActions with
  | nil => exact hOthers
  | cons hTurns _ ih => exact .cons hTurns (ih hOthers)

/- No action sets a bit that modes do not have. -/
theorem Leads.le_allBits
    {actions : List (List Who × Action)}
    {before after : UInt32}
    (h : Leads actions before after)
    (hBefore : ∀ bit, Has before bit → bit < 12) :
    after.toNat ≤ 0o7777 := by
  induction h with
  | @nil mode =>
      have hLess : mode.toNat < 2 ^ 12 := by
        apply Nat.lt_pow_two_of_testBit
        intro bit hHigh
        by_contra hBit
        have hSet : Has mode bit := by simpa [Has] using hBit
        exact absurd (hBefore bit hSet) (by omega)
      omega
  | @cons classes action _ before between _ hTurns _ ih =>
      apply ih
      intro bit hBit
      by_cases hReach : Reaches classes bit
      · exact lt_of_reaches hReach
      · exact hBefore bit (((hTurns bit).1 hReach).1 hBit)

/- Clauses are applied action by action. -/
theorem leads_apply
    (clauses : List Written)
    (mode : UInt32) :
    Leads (actionsOf clauses) mode
      (clauses.foldl
        (fun mode written => written.clause.apply mode)
        mode) := by
  have hClause :
      ∀ (classes : List Who) (actions : List Action) mode,
        Leads (actions.map fun action => (classes, action))
          mode
          (actions.foldl (Action.apply (union 0 classes))
            mode) := by
    intro classes actions
    induction actions with
    | nil => exact fun mode => .nil
    | cons action actions ih =>
        intro mode
        exact .cons (action.turns_apply classes mode) (ih _)
  induction clauses generalizing mode with
  | nil => exact .nil
  | cons written clauses ih =>
      exact (hClause written.classes written.actions
        mode).append (ih _)

end Mode

end TreeKeeper
