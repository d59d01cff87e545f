import TreeKeeper.Proofs.Filter.Comparing
import TreeKeeper.Proofs.Window.Numerals

/-
  Windows on times.  The times before an instant are divided
  into units of age, and a window without a sign asks for one
  of them; a window with a sign asks for all that lie on one
  side of a bound.  A window is built where every time that it
  compares with is a number of 64 bits.

  Key definitions include:
    * `FitsInt64`
    * `Window.InRange`
    * `Window.Covers`
    * `Window.Dates`

  Main declarations:
    * `int64?_eq_some_iff`
    * `Window.covers_exactly_iff`
    * `Window.Dates.accepts_iff`
    * `Window.exists_timeFilter`
    * `Window.exists_timeFilter_iff`
    * `Window.accepts_of_timeFilter_iff`
    * `Window.timeFilter_iff_covers`
-/

------------------------------------------------------------
-- Numbers Of 64 Bits
------------------------------------------------------------

namespace TreeKeeper

/- The integers that 64 bits with a sign hold. -/
def FitsInt64 (n : Int) : Prop :=
  Int64.minValue.toInt ≤ n ∧ n ≤ Int64.maxValue.toInt

theorem fitsInt64_toInt (t : Int64) : FitsInt64 t.toInt :=
  ⟨t.minValue_le_toInt, t.toInt_le⟩

/- An integer that fits 64 bits is the value of its word. -/
theorem toInt_ofInt_of_fits
    {n : Int}
    (hFits : FitsInt64 n) :
    (Int64.ofInt n).toInt = n :=
  Int64.toInt_ofInt_of_le hFits.1
    (Int.lt_add_one_of_le hFits.2)

theorem int64?_eq_some_iff
    {n : Int}
    {t : Int64} :
    int64? n = some t ↔ t.toInt = n := by
  unfold int64?
  constructor
  · intro h
    split at h
    · rename_i hFits
      cases h
      exact toInt_ofInt_of_fits hFits
    · exact nomatch h
  · rintro rfl
    rw [if_pos (show _ ∧ _ from fitsInt64_toInt t),
      Int64.ofInt_toInt]

------------------------------------------------------------
-- Covered Times
------------------------------------------------------------

theorem TimeUnit.seconds_pos
    (unit : TimeUnit) : 0 < unit.seconds := by
  cases unit <;> decide

namespace Window

/-
  Whether all times that a window compares with, and its
  length, are numbers of 64 bits.
-/
def InRange
    (unit : TimeUnit)
    (now : Int64)
    (qualifier : Qualifier)
    (magnitude : Nat) : Prop :=
  FitsInt64 (magnitude * unit.seconds) ∧
  FitsInt64 (now.toInt - magnitude * unit.seconds) ∧
  (qualifier = .exactly →
    FitsInt64 (now.toInt - (magnitude + 1) * unit.seconds))

/- Whether a time lies in a window at an instant. -/
def Covers
    (unit : TimeUnit)
    (now time : Int64)
    (magnitude : Nat) : Qualifier → Prop
| .moreThan =>
    time.toInt < now.toInt - magnitude * unit.seconds
| .lessThan =>
    now.toInt - magnitude * unit.seconds < time.toInt
| .exactly =>
    now.toInt - (magnitude + 1) * unit.seconds <
      time.toInt ∧
    time.toInt ≤ now.toInt - magnitude * unit.seconds

/- The filters that compare with the bounds of a window. -/
inductive Dates
    (field : Field)
    (unit : TimeUnit)
    (now : Int64)
    (magnitude : Nat) : Qualifier → Filter → Prop
| moreThan
    {bound : Int64}
    (hBound :
      bound.toInt = now.toInt - magnitude * unit.seconds) :
    Dates field unit now magnitude .moreThan
      (.compare field .less (.integer bound))
| lessThan
    {bound : Int64}
    (hBound :
      bound.toInt = now.toInt - magnitude * unit.seconds) :
    Dates field unit now magnitude .lessThan
      (.compare field .greater (.integer bound))
| exactly
    {earliest bound : Int64}
    (hEarliest :
      earliest.toInt =
        now.toInt - (magnitude + 1) * unit.seconds)
    (hBound :
      bound.toInt = now.toInt - magnitude * unit.seconds) :
    Dates field unit now magnitude .exactly
      (.and [
        .compare field .greater (.integer earliest),
        .compare field .lessOrEqual (.integer bound)])

variable {field : Field}
variable {unit : TimeUnit}
variable {now time : Int64}
variable {qualifier : Qualifier}
variable {magnitude : Nat}
variable {text : String}
variable {filter : Filter}
variable {entry : Entry}

/- A window without a sign holds the times of one age. -/
theorem covers_exactly_iff :
    Covers unit now time magnitude .exactly ↔
      time ≤ now ∧
      magnitude =
        ((now.toInt - time.toInt) / unit.seconds).toNat := by
  have hPos := unit.seconds_pos
  rw [Int64.le_iff_toInt_le]
  unfold Covers
  constructor
  · rintro ⟨hAfter, hBefore⟩
    have hAge : 0 ≤ (magnitude : Int) * unit.seconds :=
      Int.mul_nonneg (Int.natCast_nonneg _)
        (Int.le_of_lt hPos)
    -- The age lies between two multiples of the unit.
    have hFloor :
        (now.toInt - time.toInt) / unit.seconds =
          magnitude := by
      apply Int.le_antisymm
      · apply Int.le_of_lt_add_one
        rw [Int.ediv_lt_iff_lt_mul hPos]
        omega
      · rw [Int.le_ediv_iff_mul_le hPos]
        omega
    rw [hFloor]
    exact ⟨by omega, rfl⟩
  · rintro ⟨hPast, rfl⟩
    have hNonneg :
        0 ≤ (now.toInt - time.toInt) / unit.seconds :=
      Int.ediv_nonneg (by omega) (Int.le_of_lt hPos)
    rw [Int.toNat_of_nonneg hNonneg]
    have hUpper := Int.lt_ediv_add_one_mul_self
      (now.toInt - time.toInt) hPos
    have hLower := Int.ediv_mul_le
      (now.toInt - time.toInt) (Int.ne_of_gt hPos)
    omega

/- A filter that compares with the bounds covers times. -/
theorem Dates.accepts_iff
    (hDates : Dates field unit now magnitude qualifier filter)
    (hRead : entry.read? field = some (.integer time)) :
    filter.accepts entry = true ↔
      Covers unit now time magnitude qualifier := by
  have hCompare :
      ∀ (op : Operator) (bound : Int64), op.IsOrdering →
        ((Filter.compare field op (.integer bound)).accepts
            entry = true ↔
          op.Relates time.toInt bound.toInt) :=
    fun op bound hOp =>
      Filter.accepts_compare_iff hOp hRead rfl rfl
  cases hDates with
  | @moreThan bound hBound =>
      rw [hCompare .less bound trivial, hBound]
      rfl
  | @lessThan bound hBound =>
      rw [hCompare .greater bound trivial, hBound]
      rfl
  | @exactly earliest bound hEarliest hBound =>
      rw [Filter.accepts_pair_iff,
        hCompare .greater earliest trivial,
        hCompare .lessOrEqual bound trivial,
        hEarliest, hBound]
      rfl

------------------------------------------------------------
-- Building
------------------------------------------------------------

theorem timestamp_eq_ok_iff
    {n : Int}
    {t : Int64} :
    timestamp n = .ok t ↔ t.toInt = n := by
  rw [← int64?_eq_some_iff]
  unfold timestamp
  split
  · rename_i heq
    rw [heq, Except.ok.injEq, Option.some.injEq]
  · rename_i heq
    rw [heq]
    exact ⟨nofun, nofun⟩

theorem timestamp_of_fits
    {n : Int}
    (hFits : FitsInt64 n) :
    timestamp n = .ok (Int64.ofInt n) :=
  timestamp_eq_ok_iff.2 (toInt_ofInt_of_fits hFits)

/- The first bound of a window lies one unit before the last. -/
theorem earliest_eq
    {bound : Int}
    (hBound :
      bound = now.toInt - magnitude * unit.seconds) :
    bound - unit.seconds =
      now.toInt - (magnitude + 1) * unit.seconds := by
  rw [hBound, Int.add_mul, Int.one_mul]
  omega

/- A length of 64 bits has a magnitude of 64 bits. -/
theorem magnitude_lt
    (hFits : FitsInt64 (magnitude * unit.seconds)) :
    magnitude < UInt64.size := by
  have hUnit :
      (magnitude : Int) * 1 ≤ magnitude * unit.seconds :=
    Int.mul_le_mul_of_nonneg_left unit.seconds_pos
      (Int.natCast_nonneg magnitude)
  have hUpper := hFits.2
  have hGreatest :
      Int64.maxValue.toInt < UInt64.size := by decide
  omega

/- A window in range is built with its bounds. -/
theorem exists_timeFilter
    (hSpells : Spells text qualifier magnitude "")
    (hRange : InRange unit now qualifier magnitude) :
    ∃ filter,
      timeFilter field text unit now = .ok filter ∧
      Dates field unit now magnitude qualifier filter := by
  rcases hRange with ⟨hLength, hThen, hBefore⟩
  have hNumber := UInt64.toNat_ofNat_of_lt'
    (magnitude_lt hLength)
  have hWindow :
      ofWholeText text = .ok {
        qualifier := qualifier
        magnitude := UInt64.ofNat magnitude
        suffix := "" } := by
    refine ofWholeText_eq_ok_iff.2 ⟨?_, rfl⟩
    rw [hNumber]
    exact hSpells
  have hBound := toInt_ofInt_of_fits hThen
  unfold timeFilter
  rw [hWindow, bind_ok, hNumber, timestamp_of_fits hLength,
    bind_ok, toInt_ofInt_of_fits hLength,
    timestamp_of_fits hThen, bind_ok]
  cases qualifier with
  | moreThan => exact ⟨_, rfl, .moreThan hBound⟩
  | lessThan => exact ⟨_, rfl, .lessThan hBound⟩
  | exactly =>
      have hFits := hBefore rfl
      dsimp only
      rw [earliest_eq hBound, timestamp_of_fits hFits,
        bind_ok]
      exact ⟨_, rfl,
        .exactly (toInt_ofInt_of_fits hFits) hBound⟩

/- A filter is only built for a window in range. -/
theorem inRange_of_timeFilter
    (h : timeFilter field text unit now = .ok filter) :
    ∃ qualifier magnitude,
      Spells text qualifier magnitude "" ∧
      InRange unit now qualifier magnitude := by
  rcases bind_eq_ok_iff.1 h with ⟨window, hWindow, h⟩
  rcases bind_eq_ok_iff.1 h with ⟨delta, hDelta, h⟩
  rcases bind_eq_ok_iff.1 h with ⟨bound, hBound, h⟩
  rw [timestamp_eq_ok_iff] at hDelta hBound
  rw [hDelta] at hBound
  refine ⟨window.qualifier, window.magnitude.toNat,
    (ofWholeText_eq_ok_iff.1 hWindow).1, ?_, ?_, ?_⟩
  · rw [← hDelta]
    exact fitsInt64_toInt delta
  · rw [← hBound]
    exact fitsInt64_toInt bound
  · intro hExactly
    rw [hExactly] at h
    rcases bind_eq_ok_iff.1 h with ⟨earliest, hEarliest, _⟩
    rw [timestamp_eq_ok_iff, earliest_eq hBound]
      at hEarliest
    rw [← hEarliest]
    exact fitsInt64_toInt earliest

------------------------------------------------------------
-- Windows As They Are Written
------------------------------------------------------------

/- A window is built just where its times are in range. -/
theorem exists_timeFilter_iff
    (hSpells : Spells text qualifier magnitude "") :
    (∃ filter,
      timeFilter field text unit now = .ok filter) ↔
      InRange unit now qualifier magnitude := by
  constructor
  · rintro ⟨filter, hFilter⟩
    rcases inRange_of_timeFilter hFilter with
      ⟨_, _, hWritten, hRange⟩
    rcases hSpells.unique hWritten with ⟨rfl, rfl, _⟩
    exact hRange
  · intro hRange
    rcases exists_timeFilter hSpells hRange with
      ⟨filter, hFilter, _⟩
    exact ⟨filter, hFilter⟩

/- The filter of a window accepts the times in it. -/
theorem accepts_of_timeFilter_iff
    (hSpells : Spells text qualifier magnitude "")
    (hFilter : timeFilter field text unit now = .ok filter)
    (hRead : entry.read? field = some (.integer time)) :
    filter.accepts entry = true ↔
      Covers unit now time magnitude qualifier := by
  have hRange :=
    (exists_timeFilter_iff hSpells).1 ⟨filter, hFilter⟩
  rcases exists_timeFilter hSpells hRange with
    ⟨_, hBuilt, hDates⟩
  cases hFilter.symm.trans hBuilt
  exact hDates.accepts_iff hRead

/- Nothing is built from a text that spells no window. -/
theorem exists_fault_of_not_spells
    (hNone :
      ∀ qualifier magnitude,
        ¬ Spells text qualifier magnitude "") :
    ∃ fault,
      timeFilter field text unit now = .error fault := by
  cases hResult : timeFilter field text unit now with
  | error fault => exact ⟨fault, rfl⟩
  | ok filter =>
      rcases inRange_of_timeFilter hResult with
        ⟨qualifier, magnitude, hSpells, _⟩
      exact absurd hSpells (hNone qualifier magnitude)

/-
  Windows on times.  A window is built just where the times
  that it compares with are numbers of 64 bits, and nothing
  else is.  What it accepts are the times that it covers:
  without a sign, those of one age in whole units, so that no
  time lies in two such windows and every past time lies in
  that of its age.
-/
theorem timeFilter_iff_covers
    (field : Field)
    (unit : TimeUnit)
    (now : Int64) :
    (∀ text qualifier magnitude,
      Spells text qualifier magnitude "" →
        ((∃ filter,
          timeFilter field text unit now = .ok filter) ↔
          InRange unit now qualifier magnitude)) ∧
    (∀ text,
      (∀ qualifier magnitude,
        ¬ Spells text qualifier magnitude "") →
        ∃ fault,
          timeFilter field text unit now = .error fault) ∧
    (∀ text qualifier magnitude filter entry time,
      Spells text qualifier magnitude "" →
        timeFilter field text unit now = .ok filter →
        entry.read? field = some (.integer time) →
        (filter.accepts entry = true ↔
          Covers unit now time magnitude qualifier)) ∧
    (∀ text text' magnitude magnitude' filter filter' entry
        time,
      Spells text .exactly magnitude "" →
        Spells text' .exactly magnitude' "" →
        timeFilter field text unit now = .ok filter →
        timeFilter field text' unit now = .ok filter' →
        entry.read? field = some (.integer time) →
        filter.accepts entry = true →
        filter'.accepts entry = true →
        magnitude = magnitude') ∧
    (∀ text filter entry time,
      Spells text .exactly
          ((now.toInt - time.toInt) / unit.seconds).toNat
          "" →
        timeFilter field text unit now = .ok filter →
        entry.read? field = some (.integer time) →
        time ≤ now →
        filter.accepts entry = true) := by
  refine ⟨?_, ?_, ?_, ?_, ?_⟩
  · intro text qualifier magnitude hSpells
    exact exists_timeFilter_iff hSpells
  · intro text hNone
    exact exists_fault_of_not_spells hNone
  · intro text qualifier magnitude filter entry time
      hSpells hFilter hRead
    exact accepts_of_timeFilter_iff hSpells hFilter hRead
  · intro text text' magnitude magnitude' filter filter'
      entry time hSpells hSpells' hFilter hFilter' hRead
      hAccepts hAccepts'
    rw [accepts_of_timeFilter_iff hSpells hFilter hRead,
      covers_exactly_iff] at hAccepts
    rw [accepts_of_timeFilter_iff hSpells' hFilter' hRead,
      covers_exactly_iff] at hAccepts'
    exact hAccepts.2.trans hAccepts'.2.symm
  · intro text filter entry time hSpells hFilter hRead hPast
    rw [accepts_of_timeFilter_iff hSpells hFilter hRead,
      covers_exactly_iff]
    exact ⟨hPast, rfl⟩

/-
  One day after the least instant, that day is the only one
  that a window without a sign can ask for.
-/
theorem timeFilter_at_first_day :
    let now : Int64 := Int64.minValue + 86400
    let entry : Entry :=
      .ofPath "/a" { mtime := Int64.minValue + 1 }
    (∃ filter,
      timeFilter .mtime "00" .days now = .ok filter ∧
      filter.accepts entry = true) ∧
    (∃ filter,
      timeFilter .mtime "+1" .days now = .ok filter ∧
      ¬ filter.accepts entry = true) ∧
    (¬ ∃ filter,
      timeFilter .mtime "1" .days now = .ok filter) := by
  intro now entry
  have hZero : Spells "00" .exactly 0 "" :=
    spells_iff.2 ⟨rfl, List.cons_ne_nil _ _, rfl, rfl⟩
  have hMore : Spells "+1" .moreThan 1 "" :=
    spells_iff.2 ⟨rfl, List.cons_ne_nil _ _, rfl, rfl⟩
  have hOne : Spells "1" .exactly 1 "" :=
    spells_iff.2 ⟨rfl, List.cons_ne_nil _ _, rfl, rfl⟩
  rcases timeFilter_iff_covers .mtime .days now with
    ⟨hBuilt, _, hAccepts, _, hAge⟩
  refine ⟨?_, ?_, ?_⟩
  · rcases (hBuilt "00" .exactly 0 hZero).2
      ⟨⟨by decide, by decide⟩, ⟨by decide, by decide⟩,
        fun _ => ⟨by decide, by decide⟩⟩ with
      ⟨filter, hFilter⟩
    exact ⟨filter, hFilter,
      hAge "00" filter entry (Int64.minValue + 1) hZero
        hFilter rfl (by decide)⟩
  · rcases (hBuilt "+1" .moreThan 1 hMore).2
      ⟨⟨by decide, by decide⟩, ⟨by decide, by decide⟩,
        nofun⟩ with
      ⟨filter, hFilter⟩
    refine ⟨filter, hFilter, ?_⟩
    rw [hAccepts "+1" .moreThan 1 filter entry
      (Int64.minValue + 1) hMore hFilter rfl]
    exact Int.not_lt.2 (by decide)
  · rw [hBuilt "1" .exactly 1 hOne]
    rintro ⟨_, _, hBefore⟩
    exact absurd (hBefore rfl).1 (by decide)

end Window

end TreeKeeper
