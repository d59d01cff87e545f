import Mathlib.Algebra.Order.Floor.Div
import Mathlib.GroupTheory.GroupAction.Ring
import TreeKeeper.Proofs.Search.Formatting
import TreeKeeper.Proofs.Store.Saving
import TreeKeeper.Proofs.Text.Numeral
import TreeKeeper.Search.Basic

/-
  The blocks that listings and formats show: half as many as
  the entry has, rounded up.  One is added to the number of
  blocks before it is halved, in 64-bit words, so what is
  shown is exact wherever anything is shown.  At the largest
  number of blocks this sum is no word any more, and listings
  and formats with blocks in them show nothing at all.

  Key definitions include:
    * `Listing.words`
    * `Listing.ShowsBlocks`
    * `Format.renderShowing`
    * `Rendering.HasBlocks`

  Main declarations:
    * `Stat.kilobytes?_eq_some_iff`
    * `Listing.showsBlocks_lineWith_iff`
    * `Format.renderShowing_inj`
    * `Entry.shows_ceilDiv_iff`
    * `Search.putEntry_overflows_iff`
-/

------------------------------------------------------------
-- Rounding Up
------------------------------------------------------------

namespace TreeKeeper

namespace Stat

variable {stat : Stat}

theorem kilobytes?_eq_none_iff :
    stat.kilobytes? = none ↔
      ¬stat.blocks.toNat + 1 < UInt64.size := by
  unfold kilobytes?
  split <;> simp_all

/- Half of the blocks is exact where the sum is a word. -/
theorem kilobytes?_eq_some_iff
    {count : UInt64} :
    stat.kilobytes? = some count ↔
      stat.blocks.toNat + 1 < UInt64.size ∧
        count.toNat = stat.blocks.toNat ⌈/⌉ 2 := by
  have hHalf (hFits : stat.blocks.toNat + 1 < UInt64.size) :
      ((stat.blocks + 1) / 2).toNat =
        stat.blocks.toNat ⌈/⌉ 2 := by
    rw [UInt64.toNat_div, UInt64.toNat_add,
      Nat.ceilDiv_eq_add_pred_div]
    exact congrArg (· / 2) (Nat.mod_eq_of_lt hFits)
  unfold kilobytes?
  split
  · rename_i hFits
    rw [Option.some_inj, ← UInt64.toNat_inj, hHalf hFits]
    exact ⟨fun hSame => ⟨hFits, hSame.symm⟩,
      fun hSame => hSame.2.symm⟩
  · rename_i hBeyond
    exact ⟨nofun, fun hSame => absurd hSame.1 hBeyond⟩

end Stat

------------------------------------------------------------
-- Listings
------------------------------------------------------------

namespace Listing

/- The words of a text, with blanks in between. -/
def words (text : List Char) : List (List Char) :=
  (Text.splitOn ' ' text).filter (· ≠ [])

/- Whether the column of blocks in a line shows a number. -/
def ShowsBlocks (line : String) (count : Nat) : Prop :=
  (words line.toList)[1]? = some (toString count).toList

/- Blanks in front of a word make no word. -/
theorem words_pad
    {word : List Char}
    (hSome : word ≠ [])
    (hWord : ' ' ∉ word)
    (count : Nat)
    (rest : List Char) :
    words (List.replicate count ' ' ++ (word ++ ' ' :: rest)) =
      word :: words rest := by
  unfold words
  induction count with
  | zero =>
      rw [List.replicate_zero, List.nil_append,
        Text.splitOn_line hWord]
      exact List.filter_cons_of_pos (by simpa using hSome)
  | succ count ih =>
      rw [List.replicate_succ, List.cons_append, Text.splitOn,
        if_pos rfl]
      exact ih

theorem words_padLeft
    (width n : Nat)
    (rest : List Char) :
    words ((Text.padLeft width (toString n)).toList ++
        ' ' :: rest) =
      (toString n).toList :: words rest := by
  have hDigits : (toString n).toList = Nat.toDigits 10 n :=
    Nat.toList_repr
  have hBlank : ' ' ∉ (toString n).toList := by
    rw [hDigits]
    intro hMember
    have hDigit : ' '.isDigit = true :=
      Nat.isDigit_of_mem_toDigits (by omega) (by omega) hMember
    exact absurd hDigit (by decide)
  have hSome : (toString n).toList ≠ [] := by
    rw [hDigits]
    exact Nat.toDigits_ne_nil
  unfold Text.padLeft
  rw [String.toList_append, String.toList_ofList,
    List.append_assoc]
  exact words_pad hSome hBlank _ rest

/- Three columns and more, with what stands behind them. -/
theorem joinWith_columns
    (first second third behind : List Char)
    (rest : List (List Char)) :
    Text.joinWith [' '] (first :: second :: third :: rest) ++
        behind =
      first ++ ' ' :: (second ++ ' ' ::
        (Text.joinWith [' '] (third :: rest) ++ behind)) := by
  simp [Text.joinWith]

/- The second word of a line is its number of blocks. -/
theorem showsBlocks_lineWith_iff
    {entry : Entry}
    {now : Int64}
    {blocks : UInt64}
    {count : Nat} :
    ShowsBlocks (lineWith entry now blocks) count ↔
      blocks.toNat = count := by
  have hLine : ∃ rest, (lineWith entry now blocks).toList =
      (Text.padLeft 9 (toString entry.stat.ino.toNat)).toList ++
        ' ' :: ((Text.padLeft 6
          (toString blocks.toNat)).toList ++
            ' ' :: rest) := by
    unfold lineWith Text.join
    rw [String.toList_append, String.toList_ofList]
    exact ⟨_, joinWith_columns _ _ _ _ _⟩
  rcases hLine with ⟨rest, hLine⟩
  unfold ShowsBlocks
  rw [hLine, words_padLeft, words_padLeft]
  constructor
  · intro hShown
    exact Numeral.toString_injective (String.toList_injective
      (Option.some.inj hShown))
  · rintro rfl
    rfl

theorem line?_eq_none_iff
    {entry : Entry}
    {now : Int64} :
    line? entry now = none ↔
      ¬entry.stat.blocks.toNat + 1 < UInt64.size := by
  unfold line?
  rw [Option.map_eq_none_iff, Stat.kilobytes?_eq_none_iff]

/- A line shows half of the blocks wherever there is one. -/
theorem line?_shows_iff
    {entry : Entry}
    {now : Int64} :
    (∃ line, line? entry now = some line ∧
        ShowsBlocks line (entry.stat.blocks.toNat ⌈/⌉ 2)) ↔
      entry.stat.blocks.toNat + 1 < UInt64.size := by
  unfold line?
  constructor
  · rintro ⟨line, hLine, -⟩
    rcases Option.map_eq_some_iff.1 hLine with
      ⟨count, hCount, -⟩
    exact (Stat.kilobytes?_eq_some_iff.1 hCount).1
  · intro hFits
    rcases Option.ne_none_iff_exists'.1
        (fun hNone =>
          Stat.kilobytes?_eq_none_iff.1 hNone hFits) with
      ⟨count, hCount⟩
    exact ⟨_, Option.map_eq_some_iff.2 ⟨count, hCount, rfl⟩,
      showsBlocks_lineWith_iff.2
        (Stat.kilobytes?_eq_some_iff.1 hCount).2⟩

end Listing

------------------------------------------------------------
-- Formats
------------------------------------------------------------

namespace Format

/- What a piece prints where a number of blocks is shown. -/
def Piece.textShowing
    (count : Nat)
    (entry : Entry) : Piece → List Char
| directive .kilobytes => (toString count).toList
| piece => ((piece.render? entry).getD "").toList

/- What a format prints where a number of blocks is shown. -/
def renderShowing
    (count : Nat)
    (format : Format)
    (entry : Entry) : String :=
  String.ofList
    (format.pieces.flatMap (Piece.textShowing count entry))

variable {entry : Entry}
variable {format : Format}
variable {m n : Nat}

/- All pieces print something but one that shows blocks. -/
theorem Piece.map_render?
    {piece : Piece}
    (hShown :
      entry.stat.kilobytes?.map UInt64.toNat = some n ∨
        piece ≠ .directive .kilobytes) :
    (piece.render? entry).map String.toList =
      some (piece.textShowing n entry) := by
  cases piece with
  | literal text => rfl
  | directive d =>
      by_cases hBlocks : d = .kilobytes
      · subst hBlocks
        rcases Option.map_eq_some_iff.1
            (hShown.resolve_right (fun h => h rfl)) with
          ⟨count, hCount, rfl⟩
        simp [render?, Directive.render?, hCount, textShowing]
      · cases d <;> first | rfl | exact absurd rfl hBlocks

/-
  A format shows the blocks that the entry rounds up to, and
  without blocks in it the same for all.
-/
theorem render?_eq_some
    (hShown :
      entry.stat.kilobytes?.map UInt64.toNat = some n ∨
        .directive .kilobytes ∉ format.pieces) :
    format.render? entry =
      some (format.renderShowing n entry) := by
  apply eq_of_map_toList
  unfold renderShowing
  rw [toList_render?, Option.map_some, String.toList_ofList]
  rcases format with ⟨pieces⟩
  dsimp only at hShown ⊢
  induction pieces with
  | nil => rfl
  | cons piece pieces ih =>
      have hPiece :
          entry.stat.kilobytes?.map UInt64.toNat = some n ∨
            piece ≠ .directive .kilobytes := by
        refine hShown.imp_right fun hNone hSame => hNone ?_
        rw [hSame]
        exact List.mem_cons_self
      rw [printed, Piece.map_render? hPiece,
        ih (hShown.imp_right List.not_mem_of_not_mem_cons)]
      rfl

/- A format prints nothing if it cannot show the blocks. -/
theorem render?_eq_none
    (hNone : entry.stat.kilobytes? = none)
    (hShows : .directive .kilobytes ∈ format.pieces) :
    format.render? entry = none := by
  rw [← Option.map_eq_none_iff, toList_render?]
  rcases format with ⟨pieces⟩
  dsimp only at hShows ⊢
  induction pieces with
  | nil => exact absurd hShows List.not_mem_nil
  | cons piece pieces ih =>
      rw [printed]
      rcases List.mem_cons.1 hShows with rfl | hRest
      · simp [Piece.render?, Directive.render?, hNone]
      · rw [ih hRest]
        cases piece.render? entry <;> rfl

/- Other pieces do not show blocks. -/
theorem Piece.textShowing_of_ne
    {piece : Piece}
    (hOther : piece ≠ .directive .kilobytes) :
    piece.textShowing m entry = piece.textShowing n entry := by
  cases piece with
  | literal text => rfl
  | directive d =>
      cases d <;> first | rfl | exact absurd rfl hOther

/-
  What is printed is longer by the digits that each of the
  pieces that show blocks has more.
-/
theorem length_showing
    (entry : Entry)
    (m n : Nat)
    (pieces : List Piece) :
    (pieces.flatMap (Piece.textShowing m entry)).length +
        pieces.count (.directive .kilobytes) *
          (toString n).toList.length =
      (pieces.flatMap (Piece.textShowing n entry)).length +
        pieces.count (.directive .kilobytes) *
          (toString m).toList.length := by
  induction pieces with
  | nil => simp
  | cons piece pieces ih =>
      rw [List.flatMap_cons, List.flatMap_cons,
        List.length_append, List.length_append]
      by_cases hShows : piece = .directive .kilobytes
      · subst hShows
        have hText (count : Nat) :
            Piece.textShowing count entry
                (.directive .kilobytes) =
              (toString count).toList := rfl
        rw [List.count_cons_self, hText, hText, Nat.succ_mul,
          Nat.succ_mul]
        omega
      · have hText :
            piece.textShowing m entry =
              piece.textShowing n entry :=
          Piece.textShowing_of_ne hShows
        rw [hText, List.count_cons_of_ne hShows]
        omega

/- Texts put together from ones of the same lengths. -/
theorem eq_of_flatMap_eq
    {pieces : List Piece}
    {first second : Piece → List Char}
    (hLength : ∀ piece,
      (first piece).length = (second piece).length)
    (hSame : pieces.flatMap first = pieces.flatMap second) :
    ∀ piece ∈ pieces, first piece = second piece := by
  induction pieces with
  | nil => exact fun _ hPiece => absurd hPiece List.not_mem_nil
  | cons piece pieces ih =>
      rw [List.flatMap_cons, List.flatMap_cons] at hSame
      rcases List.append_inj hSame (hLength piece) with
        ⟨hHead, hTail⟩
      exact List.forall_mem_cons.2 ⟨hHead, ih hTail⟩

/- A format with blocks in it tells all numbers apart. -/
theorem renderShowing_inj
    (hShows : .directive .kilobytes ∈ format.pieces)
    (hSame :
      format.renderShowing m entry =
        format.renderShowing n entry) :
    m = n := by
  have hText :
      format.pieces.flatMap (Piece.textShowing m entry) =
        format.pieces.flatMap (Piece.textShowing n entry) := by
    have hLists := congrArg String.toList hSame
    unfold renderShowing at hLists
    rw [String.toList_ofList, String.toList_ofList] at hLists
    exact hLists
  have hDigits :
      (toString m).toList.length =
        (toString n).toList.length := by
    have hCount := length_showing entry m n format.pieces
    rw [hText, Nat.add_left_cancel_iff] at hCount
    exact (Nat.eq_of_mul_eq_mul_left
      (List.count_pos_iff.2 hShows) hCount).symm
  have hLength (piece : Piece) :
      (piece.textShowing m entry).length =
        (piece.textShowing n entry).length := by
    by_cases hPiece : piece = .directive .kilobytes
    · subst hPiece
      exact hDigits
    · rw [Piece.textShowing_of_ne hPiece]
  exact Numeral.toString_injective (String.toList_injective
    (eq_of_flatMap_eq hLength hText _ hShows))

/- A format prints nothing exactly if an overflow stops it. -/
theorem render?_eq_none_iff :
    format.render? entry = none ↔
      ¬entry.stat.blocks.toNat + 1 < UInt64.size ∧
        .directive .kilobytes ∈ format.pieces := by
  rw [← Stat.kilobytes?_eq_none_iff]
  constructor
  · intro hNone
    constructor
    · rw [Option.eq_none_iff_forall_ne_some]
      intro count hCount
      have hShown :
          format.render? entry =
            some (format.renderShowing count.toNat entry) :=
        render?_eq_some
          (.inl (congrArg (Option.map UInt64.toNat) hCount))
      rw [hNone] at hShown
      exact nomatch hShown
    · by_contra hOther
      have hShown :
          format.render? entry =
            some (format.renderShowing 0 entry) :=
        render?_eq_some (.inr hOther)
      rw [hNone] at hShown
      exact nomatch hShown
  · exact fun ⟨hBlocks, hShows⟩ =>
      render?_eq_none hBlocks hShows

/- A format prints a number exactly if it is the one shown. -/
theorem render?_eq_some_iff :
    format.render? entry =
        some (format.renderShowing n entry) ↔
      entry.stat.kilobytes?.map UInt64.toNat = some n ∨
        .directive .kilobytes ∉ format.pieces := by
  constructor
  · intro hSame
    by_cases hShows : .directive .kilobytes ∈ format.pieces
    · cases hBlocks : entry.stat.kilobytes? with
      | none =>
          rw [render?_eq_none hBlocks hShows] at hSame
          exact nomatch hSame
      | some count =>
          have hShown :
              format.render? entry =
                some (format.renderShowing count.toNat
                  entry) :=
            render?_eq_some
              (.inl (congrArg (Option.map UInt64.toNat)
                hBlocks))
          rw [hSame] at hShown
          exact .inl (congrArg some
            (renderShowing_inj hShows
              (Option.some.inj hShown)).symm)
    · exact .inr hShows
  · exact render?_eq_some

/- A format with blocks in it shows just half of them. -/
theorem render?_shows_iff :
    format.render? entry =
        some (format.renderShowing
          (entry.stat.blocks.toNat ⌈/⌉ 2) entry) ↔
      entry.stat.blocks.toNat + 1 < UInt64.size ∨
        .directive .kilobytes ∉ format.pieces := by
  rw [render?_eq_some_iff]
  apply or_congr_left
  rw [Option.map_eq_some_iff]
  constructor
  · rintro ⟨count, hCount, -⟩
    exact (Stat.kilobytes?_eq_some_iff.1 hCount).1
  · intro hFits
    rcases Option.ne_none_iff_exists'.1
        (fun hNone =>
          Stat.kilobytes?_eq_none_iff.1 hNone hFits) with
      ⟨count, hCount⟩
    exact ⟨count, hCount,
      (Stat.kilobytes?_eq_some_iff.1 hCount).2⟩

end Format

------------------------------------------------------------
-- Shown Blocks
------------------------------------------------------------

namespace Entry

/-
  Listings and formats show half of the blocks, rounded up,
  exactly where one more block is a word.  Beyond, at the
  largest number of blocks, an overflow stops both of them.
  Only a format without blocks in it prints what it should
  even there.
-/
theorem shows_ceilDiv_iff
    (entry : Entry) :
    (∀ now,
      (∃ line, Listing.line? entry now = some line ∧
          Listing.ShowsBlocks line
            (entry.stat.blocks.toNat ⌈/⌉ 2)) ↔
        entry.stat.blocks.toNat + 1 < UInt64.size) ∧
    (∀ now,
      Listing.line? entry now = none ↔
        ¬entry.stat.blocks.toNat + 1 < UInt64.size) ∧
    (∀ format : Format,
      format.render? entry =
          some (format.renderShowing
            (entry.stat.blocks.toNat ⌈/⌉ 2) entry) ↔
        entry.stat.blocks.toNat + 1 < UInt64.size ∨
          .directive .kilobytes ∉ format.pieces) ∧
    (∀ format : Format,
      format.render? entry = none ↔
        ¬entry.stat.blocks.toNat + 1 < UInt64.size ∧
          .directive .kilobytes ∈ format.pieces) :=
  ⟨fun _ => Listing.line?_shows_iff,
    fun _ => Listing.line?_eq_none_iff,
    fun _ => Format.render?_shows_iff,
    fun _ => Format.render?_eq_none_iff⟩

/-
  A snapshot can hold the largest number of blocks.  Half of
  them is a word, but neither listings nor `%k` show it.
-/
theorem halves_unshown_at_limit :
    let entry : Entry :=
      .ofPath "/a" { blocks := 18446744073709551615 }
    Snapshot.ofText (Snapshot.textOf [entry]) = .ok [entry] ∧
    entry.stat.blocks.toNat ⌈/⌉ 2 = 9223372036854775808 ∧
    (∀ now, Listing.line? entry now = none) ∧
    ∃ format,
      Format.ofText "%k" = .ok format ∧
      format.render? entry = none ∧
      format.renderShowing 9223372036854775808 entry =
        "9223372036854775808" := by
  intro entry
  have hHalf :
      entry.stat.blocks.toNat ⌈/⌉ 2 = 9223372036854775808 := by
    rw [Nat.ceilDiv_eq_add_pred_div]
    decide
  exact ⟨Snapshot.ofText_textOf _, hHalf, fun _ => rfl,
    ⟨[.directive .kilobytes]⟩, rfl, rfl, by decide +kernel⟩

end Entry

------------------------------------------------------------
-- Searches
------------------------------------------------------------

/- Whether blocks are shown where an entry is written. -/
def Rendering.HasBlocks : Rendering → Prop
| path _ => False
| listing => True
| format pieces => .directive .kilobytes ∈ pieces.pieces

namespace Rendering

theorem texts?_eq_none_iff
    {rendering : Rendering}
    {now : Int64}
    {entry : Entry} :
    rendering.texts? now entry = none ↔
      ¬entry.stat.blocks.toNat + 1 < UInt64.size ∧
        rendering.HasBlocks := by
  cases rendering with
  | path terminator => exact ⟨nofun, fun h => h.2.elim⟩
  | listing =>
      rw [texts?, Option.map_eq_none_iff,
        Listing.line?_eq_none_iff]
      exact (and_iff_left trivial).symm
  | format pieces =>
      rw [texts?, Option.map_eq_none_iff]
      exact Format.render?_eq_none_iff

end Rendering

namespace Search

variable {β : Type}

/- Writing texts fails only because there is no room. -/
theorem fault_of_putAll
    {search : Search β}
    {texts : List String}
    {fault : SearchFault}
    (hFault : (search.putAll texts).1 = some fault) :
    fault = .output .full := by
  induction texts generalizing search with
  | nil => exact nomatch hFault
  | cons text rest ih =>
      unfold putAll at hFault
      split at hFault
      · exact ih hFault
      · exact (Option.some.inj hFault).symm

/-
  An overflow ends a search at the first entry with too many
  blocks that it writes with its blocks, and nowhere else.
-/
theorem putEntry_overflows_iff
    {search : Search β}
    {rendering : Rendering}
    {entry : Entry} :
    (search.putEntry rendering entry).1 = some .overflow ↔
      ¬entry.stat.blocks.toNat + 1 < UInt64.size ∧
        rendering.HasBlocks := by
  have hTexts :
      rendering.texts? search.now entry = none ↔
        ¬entry.stat.blocks.toNat + 1 < UInt64.size ∧
          rendering.HasBlocks :=
    Rendering.texts?_eq_none_iff
  rw [← hTexts]
  unfold putEntry
  cases hTexts : rendering.texts? search.now entry with
  | none => exact iff_of_true rfl rfl
  | some texts =>
      refine iff_of_false (fun hFault => ?_) nofun
      exact nomatch fault_of_putAll hFault

end Search

end TreeKeeper
