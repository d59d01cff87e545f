import Mathlib.Algebra.Order.Floor.Div
import TreeKeeper.Proofs.Filter.Comparing
import TreeKeeper.Proofs.Window.Numerals

/-
  Windows on sizes.  A size counts as its started units, and a
  window compares this count with its number, by one or two
  bounds in bytes.  The bounds are the exact multiples of the
  unit: a product that no word holds is refused, and a
  difference is only taken from at least one unit.

  Key definitions include:
    * `Window.Asks`
    * `Window.Sized`
    * `Window.Bounds`

  Main declarations:
    * `Window.lt_ceilDiv_iff`
    * `Window.ceilDiv_lt_iff`
    * `Window.Bounds.accepts_iff`
    * `Window.exists_sizeFilter`
    * `Window.sized_of_sizeFilter`
    * `Window.sizeFilter_iff_ceilDiv`
-/

------------------------------------------------------------
-- Counts Of Units
------------------------------------------------------------

namespace TreeKeeper

namespace Window

/- A unit is never empty. -/
theorem sizeUnit?_pos
    {suffix : String}
    {unit : Nat}
    (hUnit : sizeUnit? suffix = some unit) :
    0 < unit := by
  unfold sizeUnit? at hUnit
  split at hUnit <;> cases hUnit <;> decide

/- What a window says of a count of units. -/
def Asks (count magnitude : Nat) : Qualifier → Prop
| .moreThan => magnitude < count
| .lessThan => count < magnitude
| .exactly => count = magnitude

/- Whether a window asks for a size that a word holds. -/
def Sized
    (magnitude unit : Nat)
    (qualifier : Qualifier) : Prop :=
  magnitude * unit < UInt64.size ∧
  (1 ≤ magnitude ∨ qualifier = .moreThan)

/- The filters that compare with exact bounds in bytes. -/
inductive Bounds
    (magnitude unit : Nat) : Qualifier → Filter → Prop
| moreThan
    {upper : UInt64}
    (hUpper : upper.toNat = magnitude * unit) :
    Bounds magnitude unit .moreThan
      (.compare .size .greater (.unsigned upper))
| lessThan
    {lower : UInt64}
    (hLower : lower.toNat + unit = magnitude * unit) :
    Bounds magnitude unit .lessThan
      (.compare .size .lessOrEqual (.unsigned lower))
| exactly
    {lower upper : UInt64}
    (hLower : lower.toNat + unit = magnitude * unit)
    (hUpper : upper.toNat = magnitude * unit) :
    Bounds magnitude unit .exactly
      (.and [
        .compare .size .greater (.unsigned lower),
        .compare .size .lessOrEqual (.unsigned upper)])

variable {magnitude unit size lower : Nat}
variable {qualifier : Qualifier}
variable {text suffix : String}
variable {filter : Filter}
variable {entry : Entry}

/- A count is exceeded by the sizes above its multiple. -/
theorem lt_ceilDiv_iff
    (hPos : 0 < unit) :
    magnitude < size ⌈/⌉ unit ↔ magnitude * unit < size := by
  rw [← Nat.not_le, ← Nat.not_le,
    ceilDiv_le_iff_le_mul hPos, Nat.mul_comm]

/- A count is missed by the sizes one unit below its multiple. -/
theorem ceilDiv_lt_iff
    (hPos : 0 < unit)
    (hLower : lower + unit = magnitude * unit) :
    size ⌈/⌉ unit < magnitude ↔ size ≤ lower := by
  cases magnitude with
  | zero => omega
  | succ m =>
      rw [Nat.succ_mul, Nat.add_right_cancel_iff] at hLower
      rw [Nat.lt_succ_iff, ceilDiv_le_iff_le_mul hPos,
        Nat.mul_comm, hLower]

/- A filter that compares with the bounds counts units. -/
theorem Bounds.accepts_iff
    (hBounds : Bounds magnitude unit qualifier filter)
    (hPos : 0 < unit) :
    filter.accepts entry = true ↔
      Asks (entry.stat.size.toNat ⌈/⌉ unit) magnitude
        qualifier := by
  have hGreater :
      ∀ bound : UInt64,
        (Filter.compare .size .greater
            (.unsigned bound)).accepts entry = true ↔
          bound.toNat < entry.stat.size.toNat := by
    intro bound
    exact Iff.trans
      (Filter.accepts_compare_iff trivial rfl rfl rfl)
      Int.ofNat_lt
  have hLessOrEqual :
      ∀ bound : UInt64,
        (Filter.compare .size .lessOrEqual
            (.unsigned bound)).accepts entry = true ↔
          entry.stat.size.toNat ≤ bound.toNat := by
    intro bound
    exact Iff.trans
      (Filter.accepts_compare_iff trivial rfl rfl rfl)
      Int.ofNat_le
  cases hBounds with
  | moreThan hUpper =>
      rw [hGreater, hUpper]
      exact (lt_ceilDiv_iff hPos).symm
  | lessThan hLower =>
      rw [hLessOrEqual]
      exact (ceilDiv_lt_iff hPos hLower).symm
  | exactly hLower hUpper =>
      rw [Filter.accepts_pair_iff, hGreater, hLessOrEqual,
        ← not_le, ← ceilDiv_lt_iff hPos hLower, hUpper,
        ← not_lt, ← lt_ceilDiv_iff hPos, not_lt, not_lt]
      exact antisymm_iff.trans eq_comm

------------------------------------------------------------
-- Building
------------------------------------------------------------

/- Only the windows above nothing have no unit. -/
theorem asks_some_iff :
    ¬ (magnitude = 0 ∧ qualifier ≠ .moreThan) ↔
      1 ≤ magnitude ∨ qualifier = .moreThan := by
  rw [not_and_or, not_not, Nat.one_le_iff_ne_zero]

/-
  Where a window asks for a size, a filter is built that
  compares with the exact bounds.
-/
theorem exists_sizeFilter
    (hSpells : Spells text qualifier magnitude suffix)
    (hUnit : sizeUnit? suffix = some unit)
    (hSized : Sized magnitude unit qualifier) :
    ∃ filter,
      sizeFilter text = .ok filter ∧
      Bounds magnitude unit qualifier filter := by
  rcases hSized with ⟨hFits, hSome⟩
  have hMagnitude : magnitude < UInt64.size :=
    Nat.lt_of_le_of_lt
      (Nat.le_mul_of_pos_right _ (sizeUnit?_pos hUnit))
      hFits
  have hUpper := UInt64.toNat_ofNat_of_lt' hFits
  -- The window above nothing takes no difference.
  have hLower (hOne : 1 ≤ magnitude) :
      (UInt64.ofNat (magnitude * unit - unit)).toNat + unit =
        magnitude * unit := by
    rw [UInt64.toNat_ofNat_of_lt'
        (Nat.lt_of_le_of_lt (Nat.sub_le _ _) hFits),
      Nat.sub_add_cancel (Nat.le_mul_of_pos_left unit hOne)]
  unfold sizeFilter
  rw [ofText_of_spells hSpells hMagnitude, bind_ok]
  simp only [hUnit, UInt64.toNat_ofNat_of_lt' hMagnitude]
  rw [if_neg (asks_some_iff.2 hSome),
    if_neg (Nat.not_le_of_lt hFits)]
  cases qualifier with
  | moreThan => exact ⟨_, rfl, .moreThan hUpper⟩
  | lessThan =>
      have hOne := hSome.resolve_right nofun
      exact ⟨_, rfl, .lessThan (hLower hOne)⟩
  | exactly =>
      have hOne := hSome.resolve_right nofun
      exact ⟨_, rfl, .exactly (hLower hOne) hUpper⟩

/- A filter is only built for a window that asks for a size. -/
theorem sized_of_sizeFilter
    (h : sizeFilter text = .ok filter) :
    ∃ qualifier magnitude suffix unit,
      Spells text qualifier magnitude suffix ∧
      sizeUnit? suffix = some unit ∧
      Sized magnitude unit qualifier := by
  rcases bind_eq_ok_iff.1 h with ⟨window, hWindow, h⟩
  have hSpells := ofText_eq_ok_iff.1 hWindow
  cases hUnit : sizeUnit? window.suffix with
  | none => simp [hUnit] at h
  | some unit =>
      simp only [hUnit] at h
      split at h
      · exact nomatch h
      · rename_i hNone
        split at h
        · exact nomatch h
        · rename_i hRange
          exact ⟨_, _, _, unit, hSpells, hUnit,
            Nat.lt_of_not_le hRange, asks_some_iff.1 hNone⟩

/-
  Windows on sizes.  A window is built just where its unit is
  known, its product is a word, and it asks for at least one
  unit or for more than none.  The bounds of its filter are
  then exact, since neither a product nor a difference leaves
  the words, and the filter accepts an entry by the count of
  the units that its size starts.
-/
theorem sizeFilter_iff_ceilDiv (text : String) :
    ((∃ filter, sizeFilter text = .ok filter) ↔
      ∃ qualifier magnitude suffix unit,
        Spells text qualifier magnitude suffix ∧
        sizeUnit? suffix = some unit ∧
        magnitude * unit < UInt64.size ∧
        (1 ≤ magnitude ∨ qualifier = .moreThan)) ∧
    (∀ qualifier magnitude suffix unit filter,
      Spells text qualifier magnitude suffix →
        sizeUnit? suffix = some unit →
        sizeFilter text = .ok filter →
        magnitude * unit < UInt64.size ∧
        Bounds magnitude unit qualifier filter ∧
        ∀ entry : Entry,
          filter.accepts entry = true ↔
            Asks (entry.stat.size.toNat ⌈/⌉ unit) magnitude
              qualifier) := by
  constructor
  · constructor
    · rintro ⟨filter, hFilter⟩
      exact sized_of_sizeFilter hFilter
    · rintro ⟨_, _, _, _, hSpells, hUnit, hSized⟩
      rcases exists_sizeFilter hSpells hUnit hSized with
        ⟨filter, hFilter, _⟩
      exact ⟨filter, hFilter⟩
  · intro qualifier magnitude suffix unit filter hSpells
      hUnit hFilter
    rcases sized_of_sizeFilter hFilter with
      ⟨_, _, _, _, hWritten, hKnown, hSized⟩
    rcases hSpells.unique hWritten with ⟨rfl, rfl, rfl⟩
    cases hUnit.symm.trans hKnown
    rcases exists_sizeFilter hSpells hUnit hSized with
      ⟨_, hBuilt, hBounds⟩
    cases hFilter.symm.trans hBuilt
    exact ⟨hSized.1, hBounds, fun entry =>
      hBounds.accepts_iff (sizeUnit?_pos hUnit)⟩

/- The largest count of the largest unit. -/
theorem sizeFilter_at_largest :
    let entry : Entry :=
      .ofPath "/a" { size := 18446742974197923840 }
    (∃ filter,
      sizeFilter "16777215T" = .ok filter ∧
      filter.accepts entry = true) ∧
    (¬ ∃ filter, sizeFilter "16777216T" = .ok filter) := by
  intro entry
  have hLargest :
      Spells "16777215T" .exactly 16777215 "T" :=
    spells_iff.2 ⟨rfl, List.cons_ne_nil _ _, rfl, rfl⟩
  have hBeyond : Spells "16777216T" .exactly 16777216 "T" :=
    spells_iff.2 ⟨rfl, List.cons_ne_nil _ _, rfl, rfl⟩
  constructor
  · rcases sizeFilter_iff_ceilDiv "16777215T" with
      ⟨hBuilt, hAccepts⟩
    rcases hBuilt.2
      ⟨_, _, _, _, hLargest, rfl, by decide,
        .inl (by decide)⟩ with
      ⟨filter, hFilter⟩
    refine ⟨filter, hFilter, ?_⟩
    rw [(hAccepts _ _ _ _ filter hLargest rfl hFilter).2.2]
    show entry.stat.size.toNat ⌈/⌉ 1099511627776 = 16777215
    decide
  · rw [(sizeFilter_iff_ceilDiv "16777216T").1]
    rintro ⟨_, _, _, _, hSpells, hUnit, hFits, _⟩
    rcases hBeyond.unique hSpells with ⟨rfl, rfl, rfl⟩
    cases hUnit
    exact absurd hFits (by decide)

end Window

end TreeKeeper
