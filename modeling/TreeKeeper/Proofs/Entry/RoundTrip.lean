import TreeKeeper.Proofs.Json.RoundTrip

/-
  Entries that are written as JSON texts and read again.  The
  text of an entry stands on one line and holds this entry,
  with all its attributes.

  Main declarations:
    * `Dictionary.ofList_pairs`
    * `Stat.ofJson?_toJson`
    * `Entry.ofJson?_toJson`
    * `Entry.ofText?_toText`
    * `Entry.isPrintable_toText`
-/

------------------------------------------------------------
-- Maps
------------------------------------------------------------

namespace TreeKeeper

namespace Dictionary

variable {α : Type}

theorem eq_of_pairs_eq
    {first second : Dictionary α}
    (hPairs : first.pairs = second.pairs) :
    first = second := by
  cases first
  cases second
  cases hPairs
  rfl

/- A pair with the greatest key comes last. -/
theorem insertPair_of_forall_lt
    {key : String}
    {pairs : List (String × α)}
    (hKeys : ∀ pair ∈ pairs, pair.1 < key)
    (value : α) :
    insertPair key value pairs = pairs ++ [(key, value)] := by
  induction pairs with
  | nil => rfl
  | cons pair rest ih =>
      rcases pair with ⟨known, other⟩
      rw [List.forall_mem_cons] at hKeys
      have hLess : known < key := hKeys.1
      have hNot : ¬ key < known := fun hGreater =>
        String.lt_irrefl key (String.lt_trans hGreater hLess)
      unfold insertPair
      rw [if_neg hNot, if_pos hLess, ih hKeys.2]
      rfl

/- Pairs in ascending order are written behind each other. -/
theorem pairs_foldl_insert
    (more : List (String × α))
    (map : Dictionary α)
    (hAscend : KeysAscend (map.pairs ++ more)) :
    (more.foldl (fun map p => map.insert p.1 p.2)
        map).pairs =
      map.pairs ++ more := by
  induction more generalizing map with
  | nil => exact (List.append_nil _).symm
  | cons pair more ih =>
      have hKeys : ∀ other ∈ map.pairs, other.1 < pair.1 := by
        intro other hOther
        unfold KeysAscend at hAscend
        rw [List.pairwise_append] at hAscend
        exact hAscend.2.2 other hOther pair
          List.mem_cons_self
      have hInsert :
          (map.insert pair.1 pair.2).pairs =
            map.pairs ++ [pair] :=
        insertPair_of_forall_lt hKeys pair.2
      rw [List.foldl_cons, ih]
      · rw [hInsert, List.append_assoc]
        rfl
      · rw [hInsert, List.append_assoc]
        exact hAscend

/- A map is what its pairs make. -/
theorem ofList_pairs
    (map : Dictionary α) :
    ofList map.pairs = map := by
  apply eq_of_pairs_eq
  exact pairs_foldl_insert map.pairs empty map.ascend

end Dictionary

------------------------------------------------------------
-- Numbers
------------------------------------------------------------

namespace Json

theorem integerOfDigits?_minus
    (digits : List Char) :
    integerOfDigits? ('-' :: digits) =
      match Numeral.ofDigits? 10 digits with
      | some 0 => none
      | some n => some (-(n : Int))
      | none => none :=
  rfl

theorem integer?_ofInt
    (n : Int) :
    (ofInt n).integer? = some n := by
  unfold ofInt integer?
  dsimp only
  rw [Numeral.toList_toString]
  by_cases hSign : 0 ≤ n
  · rw [if_pos hSign]
    rcases Numeral.exists_toDigits_eq_cons n.toNat with
      ⟨c, digits, hText, _, hMinus⟩
    have hRead := Numeral.ofDigits?_toDigits n.toNat
    unfold integerOfDigits?
    split
    · rename_i hSame
      rw [hText] at hSame
      exact absurd (List.cons.inj hSame).1 hMinus
    · rw [hRead, Option.map_some]
      exact congrArg some (Int.toNat_of_nonneg hSign)
  · rw [if_neg hSign]
    rw [integerOfDigits?_minus, Numeral.ofDigits?_toDigits]
    split
    · rename_i hZero
      have hNone := Option.some.inj hZero
      omega
    · rename_i m hSome
      have hValue := Option.some.inj hSome
      exact congrArg some (by omega)
    · rename_i hNone
      exact nomatch hNone

theorem natural?_ofInt
    {bound n : Nat}
    (hBound : n < bound) :
    (ofInt n).natural? bound = some n := by
  unfold natural?
  rw [integer?_ofInt]
  exact if_pos hBound

theorem word32?_ofInt
    (n : UInt32) :
    (ofInt n.toNat).word32? = some n := by
  unfold word32?
  rw [natural?_ofInt n.toNat_lt]
  exact congrArg some (UInt32.ofNat_toNat)

theorem word64?_ofInt
    (n : UInt64) :
    (ofInt n.toNat).word64? = some n := by
  unfold word64?
  rw [natural?_ofInt n.toNat_lt]
  exact congrArg some (UInt64.ofNat_toNat)

theorem integer64?_ofInt
    (n : Int64) :
    (ofInt n.toInt).integer64? = some n := by
  unfold integer64?
  rw [integer?_ofInt]
  dsimp only
  rw [if_pos ⟨n.minValue_le_toInt, n.toInt_le⟩]
  exact congrArg some n.ofInt_toInt

/- The texts of a map are read as its pairs. -/
theorem textPairs?_pairs
    (pairs : List (String × String)) :
    textPairs?
        (pairs.map fun (key, value) =>
          (some key, .string (some value))) =
      some pairs := by
  induction pairs with
  | nil => rfl
  | cons pair pairs ih =>
      rw [List.map_cons, textPairs?, ih]
      rfl

theorem dictionary?_ofDictionary
    (map : Dictionary String) :
    dictionary? (ofDictionary map) = some map := by
  unfold dictionary? ofDictionary
  dsimp only
  rw [textPairs?_pairs, Option.map_some,
    Dictionary.ofList_pairs]

theorem isPlain_ofDictionary
    (map : Dictionary String) :
    IsPlain (ofDictionary map) := by
  apply IsPlain.object
  · intro field hField
    rcases List.mem_map.1 hField with ⟨pair, _, rfl⟩
    exact nofun
  · intro field hField
    rcases List.mem_map.1 hField with ⟨pair, _, rfl⟩
    exact .string pair.2

theorem kind?_word
    (kind : FileKind) :
    kind? (.string (some kind.word)) = some kind := by
  cases kind <;> decide

end Json

------------------------------------------------------------
-- Attributes
------------------------------------------------------------

namespace Stat

theorem isPlain_toJson
    (stat : Stat) :
    stat.toJson.IsPlain := by
  apply Json.IsPlain.object
  · simp
  · simp only [List.forall_mem_cons]
    refine ⟨.string _, .number _, .number _, .number _,
      .number _, .number _, .number _, .number _, .number _,
      .number _, .number _, List.forall_mem_nil _⟩

/- Each attribute is found under its own name. -/
theorem exists_fields
    (stat : Stat) :
    ∃ fields,
      stat.toJson.record? fieldNames = some fields ∧
      Json.fieldOr fields "kind" Json.kind? .file =
        some stat.kind ∧
      Json.fieldOr fields "mode" Json.word32? 0 =
        some stat.mode ∧
      Json.fieldOr fields "size" Json.word64? 0 =
        some stat.size ∧
      Json.fieldOr fields "blocks" Json.word64? 0 =
        some stat.blocks ∧
      Json.fieldOr fields "uid" Json.word32? 0 =
        some stat.uid ∧
      Json.fieldOr fields "gid" Json.word32? 0 =
        some stat.gid ∧
      Json.fieldOr fields "ino" Json.word64? 0 =
        some stat.ino ∧
      Json.fieldOr fields "nlink" Json.word64? 0 =
        some stat.nlink ∧
      Json.fieldOr fields "atime" Json.integer64? 0 =
        some stat.atime ∧
      Json.fieldOr fields "mtime" Json.integer64? 0 =
        some stat.mtime ∧
      Json.fieldOr fields "ctime" Json.integer64? 0 =
        some stat.ctime :=
  ⟨_, rfl, Json.kind?_word _, Json.word32?_ofInt _,
    Json.word64?_ofInt _, Json.word64?_ofInt _,
    Json.word32?_ofInt _, Json.word32?_ofInt _,
    Json.word64?_ofInt _, Json.word64?_ofInt _,
    Json.integer64?_ofInt _, Json.integer64?_ofInt _,
    Json.integer64?_ofInt _⟩

theorem ofJson?_toJson
    (stat : Stat) :
    ofJson? stat.toJson = some stat := by
  rcases stat.exists_fields with
    ⟨fields, hRecord, hKind, hMode, hSize, hBlocks, hUid,
      hGid, hIno, hNlink, hAtime, hMtime, hCtime⟩
  unfold ofJson?
  simp [hRecord, hKind, hMode, hSize, hBlocks, hUid, hGid,
    hIno, hNlink, hAtime, hMtime, hCtime]

end Stat

------------------------------------------------------------
-- Entries
------------------------------------------------------------

namespace Entry

theorem isPlain_symlink
    (symlink : Option String) :
    Json.IsPlain
      (match symlink with
      | some target => .string (some target)
      | none => .null) := by
  cases symlink with
  | some target => exact .string target
  | none => exact .null

theorem isPlain_toJson
    (entry : Entry) :
    entry.toJson.IsPlain := by
  apply Json.IsPlain.object
  · simp
  · simp only [List.forall_mem_cons]
    exact ⟨.string _, .string _, isPlain_symlink _,
      entry.stat.isPlain_toJson,
      Json.isPlain_ofDictionary entry.xattrs,
      List.forall_mem_nil _⟩

theorem optionalText?_symlink
    (symlink : Option String) :
    Json.optionalText?
        (match symlink with
        | some target => .string (some target)
        | none => .null) =
      some symlink := by
  cases symlink <;> rfl

/- Each part of an entry is found under its own name. -/
theorem exists_fields
    (entry : Entry) :
    ∃ fields,
      entry.toJson.record? fieldNames = some fields ∧
      (fields.lookup "path").bind Json.text? =
        some entry.path ∧
      (fields.lookup "name").bind Json.text? =
        some entry.name ∧
      Json.fieldOr fields "symlink" Json.optionalText? none =
        some entry.symlink ∧
      Json.fieldOr fields "stat" Stat.ofJson? {} =
        some entry.stat ∧
      Json.fieldOr fields "xattrs" Json.dictionary?
          Dictionary.empty =
        some entry.xattrs :=
  ⟨_, rfl, rfl, rfl, optionalText?_symlink _,
    entry.stat.ofJson?_toJson,
    Json.dictionary?_ofDictionary entry.xattrs⟩

theorem ofJson?_toJson
    (entry : Entry) :
    ofJson? entry.toJson = some entry := by
  rcases entry.exists_fields with
    ⟨fields, hRecord, hPath, hName, hSymlink, hStat, hXattrs⟩
  rcases Option.bind_eq_some_iff.1 hPath with
    ⟨path, hPathField, hPathText⟩
  rcases Option.bind_eq_some_iff.1 hName with
    ⟨name, hNameField, hNameText⟩
  unfold ofJson?
  simp [hRecord, hPathField, hPathText, hNameField, hNameText,
    hSymlink, hStat, hXattrs]

/- The text of an entry holds this very entry. -/
theorem ofText?_toText
    (entry : Entry) :
    ofText? entry.toText = some entry := by
  unfold ofText? toText
  rw [Json.read?_render entry.isPlain_toJson,
    Option.bind_some]
  exact entry.ofJson?_toJson

/- It has no line breaks or other control characters. -/
theorem isPrintable_toText
    (entry : Entry) :
    Json.IsPrintable entry.toText.toList := by
  unfold toText Json.render
  rw [String.toList_ofList]
  exact Json.isPrintable_renderValue entry.isPlain_toJson

end Entry

end TreeKeeper
