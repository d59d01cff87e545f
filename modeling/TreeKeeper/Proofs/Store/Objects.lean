import TreeKeeper.Store.Directory

/-
  What is read of objects.  The mode word holds the kind of an
  object and its permissions in bits of their own, so both are
  read as they are, whatever else is recorded.

  Main declarations:
    * `FileKind.ofMode_of_typeBits`
    * `FileObject.kind_stat`
    * `FileObject.mode_stat`
-/

------------------------------------------------------------
-- Mode Words
------------------------------------------------------------

namespace TreeKeeper

/- The bits of a kind are told from those of the others. -/
theorem FileKind.ofMode_of_typeBits
    (kind : FileKind)
    {mode : UInt32}
    (hMode : mode &&& 0o170000 = kind.typeBits) :
    ofMode mode = kind := by
  unfold ofMode
  rw [hMode]
  cases kind <;> rfl

namespace FileObject

/- The permissions take none of the bits of the kind. -/
theorem modeWord_and_types (object : FileObject) :
    object.modeWord &&& 0o170000 = object.kind.typeBits := by
  have hKind :
      object.kind.typeBits &&& 0o170000 =
        object.kind.typeBits := by
    cases object.kind <;> decide
  have hApart : permissionBits &&& 0o170000 = 0 := by decide
  unfold modeWord
  generalize object.kind.typeBits = bits at hKind ⊢
  rw [← UInt32.toBitVec_inj] at hKind hApart ⊢
  simp only [UInt32.toBitVec_and, UInt32.toBitVec_or]
    at hKind hApart ⊢
  rw [BitVec.and_or_distrib_right, hKind, BitVec.and_assoc,
    hApart]
  simp

/- The kind takes none of the bits of the permissions. -/
theorem modeWord_and_permissions (object : FileObject) :
    object.modeWord &&& permissionBits =
      object.attributes.permissions &&& permissionBits := by
  have hKind :
      object.kind.typeBits &&& permissionBits = 0 := by
    cases object.kind <;> decide
  unfold modeWord
  generalize object.kind.typeBits = bits at hKind ⊢
  rw [← UInt32.toBitVec_inj] at hKind ⊢
  simp only [UInt32.toBitVec_and, UInt32.toBitVec_or]
    at hKind ⊢
  rw [BitVec.and_or_distrib_right, hKind, BitVec.and_assoc]
  simp

------------------------------------------------------------
-- Attributes
------------------------------------------------------------

/- What is read of an object tells its kind. -/
theorem kind_stat (object : FileObject) :
    object.stat.kind = object.kind :=
  FileKind.ofMode_of_typeBits object.kind
    object.modeWord_and_types

/- The permissions that are read are those of the object. -/
theorem mode_stat (object : FileObject) :
    object.stat.mode =
      object.attributes.permissions &&& permissionBits :=
  object.modeWord_and_permissions

end FileObject

end TreeKeeper
