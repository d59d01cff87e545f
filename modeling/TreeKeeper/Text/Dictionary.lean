/-
  Finite maps from texts to values, kept in ascending order
  of their keys, so that equal maps are equal values.

  Key definitions include:
    * `Dictionary`
    * `Dictionary.get?`
    * `Dictionary.insert`
    * `Dictionary.ofList`
    * `Dictionary.override`
-/

------------------------------------------------------------
-- Ordered Pairs
------------------------------------------------------------

namespace TreeKeeper

/- Pairs whose keys strictly ascend. -/
def KeysAscend
    {α : Type}
    (pairs : List (String × α)) : Prop :=
  pairs.Pairwise fun a b => a.1 < b.1

/-
  Finite maps from texts to values, as lists of pairs with
  strictly ascending keys.
-/
structure Dictionary (α : Type) where
  pairs : List (String × α)
  ascend : KeysAscend pairs
deriving DecidableEq

namespace Dictionary

variable {α : Type}

theorem lookup_cons_eq_ite
    {κ : Type}
    [BEq κ]
    [LawfulBEq κ]
    [DecidableEq κ]
    (known key : κ)
    (value : α)
    (pairs : List (κ × α)) :
    ((known, value) :: pairs).lookup key =
      if key = known then some value
      else pairs.lookup key := by
  rw [List.lookup_cons]
  by_cases hKey : key = known
  · rw [if_pos hKey, beq_iff_eq.2 hKey]
  · rw [if_neg hKey, beq_false_of_ne hKey]

/- Write one pair into ordered pairs. -/
def insertPair
    (key : String)
    (value : α) :
    List (String × α) → List (String × α)
| [] => [(key, value)]
| (k, v) :: rest =>
    if key < k then (key, value) :: (k, v) :: rest
    else if k < key then
      (k, v) :: insertPair key value rest
    else (key, value) :: rest

/- A key of the result is the new key or an old one. -/
theorem key_of_mem_insertPair
    {key : String}
    {value : α}
    {pairs : List (String × α)}
    {p : String × α}
    (h : p ∈ insertPair key value pairs) :
    p.1 = key ∨ p ∈ pairs := by
  induction pairs with
  | nil =>
      simp only [insertPair, List.mem_singleton] at h
      exact Or.inl (by rw [h])
  | cons head rest ih =>
      rcases head with ⟨k, v⟩
      simp only [insertPair] at h
      split at h
      · simp only [List.mem_cons] at h
        rcases h with h | h | h
        · exact Or.inl (by rw [h])
        · exact Or.inr (by simp [h])
        · exact Or.inr (by simp [h])
      · split at h
        · simp only [List.mem_cons] at h
          rcases h with h | h
          · exact Or.inr (by simp [h])
          · rcases ih h with h | h
            · exact Or.inl h
            · exact Or.inr (by simp [h])
        · simp only [List.mem_cons] at h
          rcases h with h | h
          · exact Or.inl (by rw [h])
          · exact Or.inr (by simp [h])

/- Writing a pair keeps the order. -/
theorem keysAscend_insertPair
    {pairs : List (String × α)}
    (key : String)
    (value : α)
    (h : KeysAscend pairs) :
    KeysAscend (insertPair key value pairs) := by
  induction pairs with
  | nil => simp [insertPair, KeysAscend]
  | cons head rest ih =>
      rcases head with ⟨k, v⟩
      unfold KeysAscend at h ih ⊢
      rw [List.pairwise_cons] at h
      simp only [insertPair]
      split
      · rename_i hlt
        rw [List.pairwise_cons]
        refine ⟨?_, List.pairwise_cons.2 h⟩
        intro p hp
        simp only [List.mem_cons] at hp
        rcases hp with hp | hp
        · rw [hp]; exact hlt
        · exact String.lt_trans hlt (h.1 p hp)
      · split
        · rename_i hgt
          rw [List.pairwise_cons]
          refine ⟨?_, ih h.2⟩
          intro p hp
          rcases key_of_mem_insertPair hp with hp | hp
          · rw [hp]; exact hgt
          · exact h.1 p hp
        · rename_i hlt hgt
          have hk : k = key :=
            String.le_antisymm
              (String.not_lt.1 hlt)
              (String.not_lt.1 hgt)
          subst hk
          exact List.pairwise_cons.2 h

/- A pair that is written is found, and others stay. -/
theorem lookup_insertPair
    (key : String)
    (value : α)
    (pairs : List (String × α))
    (other : String) :
    (insertPair key value pairs).lookup other =
      if other = key then some value
      else pairs.lookup other := by
  induction pairs with
  | nil => exact lookup_cons_eq_ite key other value []
  | cons pair rest ih =>
      rcases pair with ⟨known, old⟩
      unfold insertPair
      split
      · exact lookup_cons_eq_ite key other value _
      · split
        · rename_i hNot hLess
          have hKnown : known ≠ key := by
            rintro rfl
            exact String.lt_irrefl known hLess
          rw [lookup_cons_eq_ite, lookup_cons_eq_ite, ih]
          by_cases hOther : other = known
          · rw [if_pos hOther, if_pos hOther,
              if_neg (hOther ▸ hKnown)]
          · rw [if_neg hOther, if_neg hOther]
        · rename_i hNot hLess
          have hSame : known = key :=
            String.le_antisymm (String.not_lt.1 hNot)
              (String.not_lt.1 hLess)
          rw [lookup_cons_eq_ite, lookup_cons_eq_ite, hSame]
          by_cases hOther : other = key
          · simp only [if_pos hOther]
          · simp only [if_neg hOther]

------------------------------------------------------------
-- Maps
------------------------------------------------------------

/- The map without keys. -/
def empty : Dictionary α :=
  ⟨[], List.Pairwise.nil⟩

instance : Inhabited (Dictionary α) := ⟨empty⟩

/- Set the value of a key. -/
def insert
    (map : Dictionary α)
    (key : String)
    (value : α) : Dictionary α :=
  ⟨insertPair key value map.pairs,
    keysAscend_insertPair key value map.ascend⟩

/- The value of a key, if the map has the key. -/
def get?
    (map : Dictionary α)
    (key : String) : Option α :=
  map.pairs.lookup key

@[simp]
theorem get?_empty
    (key : String) :
    (empty : Dictionary α).get? key = none :=
  rfl

theorem get?_insert
    (map : Dictionary α)
    (key : String)
    (value : α)
    (other : String) :
    (map.insert key value).get? other =
      if other = key then some value
      else map.get? other :=
  lookup_insertPair key value map.pairs other

/- Write pairs one after the other, so the last one wins. -/
def ofList
    (pairs : List (String × α)) : Dictionary α :=
  pairs.foldl (fun map p => map.insert p.1 p.2) empty

/- Write all pairs of a second map over a first one. -/
def override
    (map upper : Dictionary α) : Dictionary α :=
  upper.pairs.foldl
    (fun map p => map.insert p.1 p.2) map

end Dictionary

end TreeKeeper
