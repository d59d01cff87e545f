import TreeKeeper.Proofs.Json.Scalars

/-
  JSON values that are written and read again.  What is read
  is what was written, with the text behind it left over, for
  all values whose strings are not broken and whose numbers
  are integers.

  Key definitions include:
    * `Json.IsPlain`
    * `Json.ReadsBack`

  Main declarations:
    * `Json.readItems_renderItems`
    * `Json.readFields_renderFields`
    * `Json.read?_render`
    * `Json.isPrintable_renderValue`
-/

------------------------------------------------------------
-- Plain Values
------------------------------------------------------------

namespace TreeKeeper

namespace Json

/-
  Values that come from the printer as they are: no string in
  them is broken, and their numbers are integers.
-/
inductive IsPlain : Json → Prop
| null : IsPlain .null
| bool (value : Bool) : IsPlain (.bool value)
| number (n : Int) : IsPlain (.ofInt n)
| string (text : String) : IsPlain (.string (some text))
| array
    {items : List Json}
    (hItems : ∀ item ∈ items, IsPlain item) :
    IsPlain (.array items)
| object
    {fields : List (Option String × Json)}
    (hNames : ∀ field ∈ fields, field.1 ≠ none)
    (hValues : ∀ field ∈ fields, IsPlain field.2) :
    IsPlain (.object fields)

/- Whether a value is read as it was written. -/
def ReadsBack (json : Json) : Prop :=
  ∀ (fuel : Nat) (rest : List Char),
    EndsNumber rest →
    2 * (renderValue json).length < fuel →
      readValue fuel (renderValue json ++ rest) =
        some (json, rest)

theorem skip_cons
    {c : Char}
    (hBlank : isBlank c = false)
    (text : List Char) :
    skip (c :: text) = c :: text := by
  unfold skip
  rw [List.dropWhile_cons, hBlank]
  rfl

/- An integer begins with a sign or a digit. -/
theorem exists_toString_eq_cons
    (n : Int) :
    ∃ c text,
      (toString n).toList = c :: text ∧
      (c = '-' ∨ c.isDigit = true) := by
  rw [Numeral.toList_toString]
  by_cases hSign : 0 ≤ n
  · rw [if_pos hSign]
    cases hText : Nat.toDigits 10 n.toNat with
    | nil => exact absurd hText Nat.toDigits_ne_nil
    | cons c text =>
        have hMember : c ∈ Nat.toDigits 10 n.toNat := by
          rw [hText]
          exact List.mem_cons_self
        have hDigit : c.isDigit = true :=
          Nat.isDigit_of_mem_toDigits (by omega) (by omega)
            hMember
        exact ⟨c, text, rfl, .inr hDigit⟩
  · rw [if_neg hSign]
    exact ⟨'-', _, rfl, .inl rfl⟩

theorem not_isBlank_of_isDigit
    {c : Char}
    (hDigit : c.isDigit = true) :
    isBlank c = false := by
  have hOthers :
      ' '.isDigit = false ∧ '\n'.isDigit = false ∧
        '\t'.isDigit = false ∧ '\r'.isDigit = false := by
    decide
  apply eq_false_of_ne_true
  intro hBlank
  unfold isBlank at hBlank
  simp only [Bool.or_eq_true, beq_iff_eq] at hBlank
  rcases hBlank with ((rfl | rfl) | rfl) | rfl
  · simp [hOthers.1] at hDigit
  · simp [hOthers.2.1] at hDigit
  · simp [hOthers.2.2.1] at hDigit
  · simp [hOthers.2.2.2] at hDigit

/- Written values begin with neither a blank nor a bracket. -/
theorem exists_renderValue_eq_cons
    {json : Json}
    (hPlain : json.IsPlain) :
    ∃ c text,
      renderValue json = c :: text ∧
      isBlank c = false ∧ c ≠ ']' := by
  cases hPlain with
  | null => exact ⟨'n', _, rfl, rfl, by decide⟩
  | bool value =>
      cases value with
      | true => exact ⟨'t', _, rfl, rfl, by decide⟩
      | false => exact ⟨'f', _, rfl, rfl, by decide⟩
  | number n =>
      rcases exists_toString_eq_cons n with
        ⟨c, text, hText, rfl | hDigit⟩
      · exact ⟨'-', text, hText, rfl, by decide⟩
      · refine ⟨c, text, hText,
          not_isBlank_of_isDigit hDigit, ?_⟩
        rintro rfl
        exact absurd hDigit (by decide)
  | string text => exact ⟨'"', _, rfl, rfl, by decide⟩
  | @array items hItems =>
      cases items with
      | nil => exact ⟨'[', _, rfl, rfl, by decide⟩
      | cons item items =>
          refine ⟨'[', renderValue item ++ renderItems items,
            ?_, rfl, by decide⟩
          rw [renderValue]
          rfl
  | @object fields hNames hValues =>
      cases fields with
      | nil => exact ⟨'\x7b', _, rfl, rfl, by decide⟩
      | cons field fields =>
          refine ⟨'\x7b',
            renderString field.1 ++
              ':' :: renderValue field.2 ++
                renderFields fields, ?_, rfl, by decide⟩
          rw [renderValue]
          rfl

------------------------------------------------------------
-- Single Values
------------------------------------------------------------

theorem readsBack_null : ReadsBack .null := by
  intro fuel rest hRest hFuel
  cases fuel with
  | zero => exact absurd hFuel (Nat.not_lt_zero _)
  | succ fuel => rfl

theorem readsBack_bool
    (value : Bool) :
    ReadsBack (.bool value) := by
  intro fuel rest hRest hFuel
  cases fuel with
  | zero => exact absurd hFuel (Nat.not_lt_zero _)
  | succ fuel => cases value <;> rfl

theorem readsBack_string
    (text : String) :
    ReadsBack (.string (some text)) := by
  intro fuel rest hRest hFuel
  have hRead := readString_escape text rest
  have hText :
      renderValue (.string (some text)) ++ rest =
        '"' :: (escape text.toList ++ '"' :: rest) := by
    simp [renderValue, renderString, quote]
  cases fuel with
  | zero => exact absurd hFuel (Nat.not_lt_zero _)
  | succ fuel =>
      rw [hText, readValue, skip_cons rfl]
      dsimp only
      rw [hRead]
      rfl

theorem readsBack_number
    (n : Int) :
    ReadsBack (.ofInt n) := by
  intro fuel rest hRest hFuel
  have hRead := readNumber_toString n hRest
  have hText :
      renderValue (.ofInt n) = (toString n).toList := by
    unfold ofInt
    rw [renderValue]
  rw [hText]
  cases fuel with
  | zero => exact absurd hFuel (Nat.not_lt_zero _)
  | succ fuel =>
      rcases exists_toString_eq_cons n with
        ⟨c, text, hHead, hSign⟩
      unfold ofInt
      rw [hHead] at hRead ⊢
      rw [List.cons_append] at hRead ⊢
      rcases hSign with rfl | hDigit
      · rw [readValue, skip_cons rfl]
        dsimp only
        rw [hRead]
        rfl
      · rw [readValue,
          skip_cons (not_isBlank_of_isDigit hDigit)]
        dsimp only
        split
        · exact absurd hDigit (by decide)
        · exact absurd hDigit (by decide)
        · exact absurd hDigit (by decide)
        · exact absurd hDigit (by decide)
        · exact absurd hDigit (by decide)
        · exact absurd hDigit (by decide)
        · rw [hRead]
          rfl

------------------------------------------------------------
-- Arrays
------------------------------------------------------------

theorem endsNumber_renderItems
    (items : List Json)
    (rest : List Char) :
    EndsNumber (renderItems items ++ rest) := by
  cases items with
  | nil => exact ⟨rfl, by decide, by decide, by decide⟩
  | cons item items =>
      rw [renderItems]
      exact ⟨rfl, by decide, by decide, by decide⟩

/- The items of an array are read one after the other. -/
theorem readItems_renderItems
    {item : Json}
    {items : List Json}
    (hItems : ∀ other ∈ item :: items, other.ReadsBack)
    {fuel : Nat}
    (rest : List Char)
    (hFuel :
      2 * (renderValue item ++ renderItems items).length ≤
        fuel) :
    readItems fuel
        (renderValue item ++ (renderItems items ++ rest)) =
      some (item :: items, rest) := by
  induction items generalizing item fuel with
  | nil =>
      rw [List.length_append] at hFuel
      have hEnd : (renderItems []).length = 1 := rfl
      cases fuel with
      | zero => omega
      | succ fuel =>
          have hValue := hItems item List.mem_cons_self
            fuel _ (endsNumber_renderItems [] rest)
            (show 2 * (renderValue item).length < fuel by
              omega)
          rw [readItems, hValue]
          rfl
  | cons next items ih =>
      rw [List.length_append] at hFuel
      have hMore :
          renderItems (next :: items) =
            ',' :: (renderValue next ++ renderItems items) := by
        rw [renderItems]
        rfl
      have hLength :
          (renderItems (next :: items)).length =
            (renderValue next ++ renderItems items).length +
              1 := by
        rw [hMore]
        rfl
      cases fuel with
      | zero => omega
      | succ fuel =>
          have hValue := hItems item List.mem_cons_self
            fuel _ (endsNumber_renderItems (next :: items) rest)
            (show 2 * (renderValue item).length < fuel by
              omega)
          have hNext : ∀ other ∈ next :: items,
              other.ReadsBack := fun other hOther =>
            hItems other (List.mem_cons_of_mem item hOther)
          have hRest := ih hNext
            (show
              2 * (renderValue next ++
                renderItems items).length ≤ fuel by omega)
          rw [readItems, hValue]
          dsimp only
          rw [hMore, List.cons_append, skip_cons rfl,
            List.append_assoc]
          exact congrArg (Option.map _) hRest

theorem readValue_bracket
    (fuel : Nat)
    (text : List Char) :
    readValue (fuel + 1) ('[' :: text) =
      match skip text with
      | ']' :: rest => some (.array [], rest)
      | rest =>
          (readItems fuel rest).map fun (items, rest) =>
            (.array items, rest) :=
  rfl

theorem readsBack_array
    {items : List Json}
    (hPlain : ∀ item ∈ items, item.IsPlain)
    (hItems : ∀ item ∈ items, item.ReadsBack) :
    ReadsBack (.array items) := by
  intro fuel rest hRest hFuel
  cases fuel with
  | zero => exact absurd hFuel (Nat.not_lt_zero _)
  | succ fuel =>
      cases items with
      | nil => rfl
      | cons item items =>
          have hText :
              renderValue (.array (item :: items)) =
                '[' :: (renderValue item ++
                  renderItems items) := by
            rw [renderValue]
            rfl
          rw [hText, List.length_cons] at hFuel
          have hRead := readItems_renderItems hItems rest
            (show
              2 * (renderValue item ++
                renderItems items).length ≤ fuel by omega)
          rcases exists_renderValue_eq_cons
              (hPlain item List.mem_cons_self) with
            ⟨c, text, hHead, hBlank, hBracket⟩
          rw [hText, List.cons_append, readValue_bracket,
            List.append_assoc]
          rw [hHead] at hRead ⊢
          rw [List.cons_append] at hRead ⊢
          rw [skip_cons hBlank]
          split
          · rename_i hSame
            exact absurd (List.cons.inj hSame).1 hBracket
          · rw [hRead]
            rfl

------------------------------------------------------------
-- Objects
------------------------------------------------------------

theorem readName_quote
    (text : List Char) :
    readName ('"' :: text) =
      match readString text with
      | some (name, rest) =>
          match skip rest with
          | ':' :: rest => some (name, rest)
          | _ => none
      | none => none :=
  rfl

/- A name is read up to the colon behind it. -/
theorem readName_renderString
    (name : String)
    (text : List Char) :
    readName (renderString (some name) ++ ':' :: text) =
      some (some name, text) := by
  have hText :
      renderString (some name) ++ ':' :: text =
        '"' :: (escape name.toList ++ '"' :: ':' :: text) := by
    simp [renderString, quote]
  have hRead := readString_escape name (':' :: text)
  rw [hText, readName_quote, hRead]
  rfl

theorem endsNumber_renderFields
    (fields : List (Option String × Json))
    (rest : List Char) :
    EndsNumber (renderFields fields ++ rest) := by
  cases fields with
  | nil => exact ⟨rfl, by decide, by decide, by decide⟩
  | cons field fields =>
      rw [renderFields]
      exact ⟨rfl, by decide, by decide, by decide⟩

/- The text of a field in front of others. -/
def renderField
    (field : Option String × Json)
    (text : List Char) : List Char :=
  renderString field.1 ++
    ':' :: (renderValue field.2 ++ text)

theorem renderField_append
    (field : Option String × Json)
    (text rest : List Char) :
    renderField field text ++ rest =
      renderField field (text ++ rest) := by
  unfold renderField
  simp

theorem renderFields_cons
    (field : Option String × Json)
    (fields : List (Option String × Json)) :
    renderFields (field :: fields) =
      ',' :: renderField field (renderFields fields) := by
  rw [renderFields]
  unfold renderField
  simp

theorem renderValue_object
    (field : Option String × Json)
    (fields : List (Option String × Json)) :
    renderValue (.object (field :: fields)) =
      '\x7b' :: renderField field (renderFields fields) := by
  rw [renderValue]
  unfold renderField
  simp

/- Reading fields goes on behind the first one. -/
theorem readFields_renderField
    {field : Option String × Json}
    (hName : field.1 ≠ none)
    (hValue : field.2.ReadsBack)
    {fuel : Nat}
    {tail : List Char}
    (hTail : EndsNumber tail)
    (hFuel : 2 * (renderValue field.2).length < fuel) :
    readFields (fuel + 1) (renderField field tail) =
      match skip tail with
      | '\x7d' :: rest => some ([field], rest)
      | ',' :: rest =>
          (readFields fuel rest).map fun (fields, rest) =>
            (field :: fields, rest)
      | _ => none := by
  rcases field with ⟨name, value⟩
  cases name with
  | none => exact absurd rfl hName
  | some name =>
      have hRead := hValue fuel tail hTail hFuel
      unfold renderField
      rw [readFields, readName_renderString]
      dsimp only at hRead ⊢
      generalize readValue fuel (renderValue value ++ tail) =
        read at hRead ⊢
      cases hRead
      rfl

theorem length_renderField
    (field : Option String × Json)
    (text : List Char) :
    (renderField field text).length =
      (renderString field.1).length +
        (renderValue field.2).length + text.length + 1 := by
  unfold renderField
  simp
  omega

/- The fields of an object are read one after the other. -/
theorem readFields_renderFields
    {field : Option String × Json}
    {fields : List (Option String × Json)}
    (hNames : ∀ other ∈ field :: fields, other.1 ≠ none)
    (hValues : ∀ other ∈ field :: fields, other.2.ReadsBack)
    {fuel : Nat}
    (rest : List Char)
    (hFuel :
      2 * (renderField field (renderFields fields)).length ≤
        fuel) :
    readFields fuel
        (renderField field (renderFields fields ++ rest)) =
      some (field :: fields, rest) := by
  induction fields generalizing field fuel with
  | nil =>
      rw [length_renderField] at hFuel
      cases fuel with
      | zero => omega
      | succ fuel =>
          rw [readFields_renderField
            (hNames field List.mem_cons_self)
            (hValues field List.mem_cons_self)
            (endsNumber_renderFields [] rest) (by omega)]
          rfl
  | cons next fields ih =>
      rw [length_renderField, renderFields_cons,
        List.length_cons] at hFuel
      cases fuel with
      | zero => omega
      | succ fuel =>
          have hNext : ∀ other ∈ next :: fields,
              other.1 ≠ none := fun other hOther =>
            hNames other (List.mem_cons_of_mem field hOther)
          have hBack : ∀ other ∈ next :: fields,
              other.2.ReadsBack := fun other hOther =>
            hValues other (List.mem_cons_of_mem field hOther)
          have hRest := ih hNext hBack
            (show
              2 * (renderField next
                (renderFields fields)).length ≤ fuel by omega)
          rw [readFields_renderField
            (hNames field List.mem_cons_self)
            (hValues field List.mem_cons_self)
            (endsNumber_renderFields (next :: fields) rest)
            (by omega)]
          rw [renderFields_cons, List.cons_append,
            skip_cons rfl, renderField_append]
          exact congrArg (Option.map _) hRest

theorem readValue_brace
    (fuel : Nat)
    (text : List Char) :
    readValue (fuel + 1) ('\x7b' :: text) =
      match skip text with
      | '\x7d' :: rest => some (.object [], rest)
      | rest =>
          (readFields fuel rest).map fun (fields, rest) =>
            (.object fields, rest) :=
  rfl

theorem readsBack_object
    {fields : List (Option String × Json)}
    (hNames : ∀ field ∈ fields, field.1 ≠ none)
    (hValues : ∀ field ∈ fields, field.2.ReadsBack) :
    ReadsBack (.object fields) := by
  intro fuel rest hRest hFuel
  cases fuel with
  | zero => exact absurd hFuel (Nat.not_lt_zero _)
  | succ fuel =>
      cases fields with
      | nil => rfl
      | cons field fields =>
          rw [renderValue_object, List.length_cons] at hFuel
          have hRead := readFields_renderFields hNames hValues
            rest
            (show
              2 * (renderField field
                (renderFields fields)).length ≤ fuel by omega)
          rw [renderValue_object, List.cons_append,
            readValue_brace, renderField_append]
          exact congrArg (Option.map _) hRead

------------------------------------------------------------
-- All Values
------------------------------------------------------------

/- What is written for a plain value is read back. -/
theorem readsBack_of_isPlain
    {json : Json}
    (hPlain : json.IsPlain) :
    json.ReadsBack := by
  induction hPlain with
  | null => exact readsBack_null
  | bool value => exact readsBack_bool value
  | number n => exact readsBack_number n
  | string text => exact readsBack_string text
  | array hItems ih => exact readsBack_array hItems ih
  | object hNames hValues ih =>
      exact readsBack_object hNames ih

/- The text of a plain value holds this value. -/
theorem read?_render
    {json : Json}
    (hPlain : json.IsPlain) :
    read? json.render = some json := by
  have hRead :=
    readsBack_of_isPlain hPlain
      (2 * (renderValue json).length + 2) [] trivial
      (by omega)
  rw [List.append_nil] at hRead
  unfold read? render
  rw [String.toList_ofList, hRead]
  rfl

------------------------------------------------------------
-- Printable Text
------------------------------------------------------------

theorem isPrintable_renderItems
    {items : List Json}
    (hItems : ∀ item ∈ items,
      IsPrintable (renderValue item)) :
    IsPrintable (renderItems items) := by
  have hComma : IsPrintable [','] := isPrintable_of_all rfl
  induction items with
  | nil => exact isPrintable_of_all rfl
  | cons item items ih =>
      rw [List.forall_mem_cons] at hItems
      rw [renderItems]
      exact (hComma.append hItems.1).append (ih hItems.2)

theorem isPrintable_renderField
    {field : Option String × Json}
    {text : List Char}
    (hValue : IsPrintable (renderValue field.2))
    (hText : IsPrintable text) :
    IsPrintable (renderField field text) := by
  have hColon : IsPrintable [':'] := isPrintable_of_all rfl
  exact (isPrintable_renderString field.1).append
    (hColon.append (hValue.append hText))

theorem isPrintable_renderFields
    {fields : List (Option String × Json)}
    (hValues : ∀ field ∈ fields,
      IsPrintable (renderValue field.2)) :
    IsPrintable (renderFields fields) := by
  have hComma : IsPrintable [','] := isPrintable_of_all rfl
  induction fields with
  | nil => exact isPrintable_of_all rfl
  | cons field fields ih =>
      rw [List.forall_mem_cons] at hValues
      rw [renderFields_cons]
      exact hComma.append
        (isPrintable_renderField hValues.1 (ih hValues.2))

/- Plain values are written without control characters. -/
theorem isPrintable_renderValue
    {json : Json}
    (hPlain : json.IsPlain) :
    IsPrintable (renderValue json) := by
  have hBracket : IsPrintable ['['] := isPrintable_of_all rfl
  have hBrace : IsPrintable ['\x7b'] := isPrintable_of_all rfl
  induction hPlain with
  | null => exact isPrintable_of_all rfl
  | bool value => cases value <;> exact isPrintable_of_all rfl
  | number n => exact isPrintable_toString n
  | string text => exact isPrintable_renderString (some text)
  | @array items hItems ih =>
      cases items with
      | nil => exact isPrintable_of_all rfl
      | cons item items =>
          rw [List.forall_mem_cons] at ih
          rw [renderValue]
          exact (hBracket.append ih.1).append
            (isPrintable_renderItems ih.2)
  | @object fields hNames hValues ih =>
      cases fields with
      | nil => exact isPrintable_of_all rfl
      | cons field fields =>
          rw [List.forall_mem_cons] at ih
          rw [renderValue_object]
          exact hBrace.append
            (isPrintable_renderField ih.1
              (isPrintable_renderFields ih.2))

end Json

end TreeKeeper
