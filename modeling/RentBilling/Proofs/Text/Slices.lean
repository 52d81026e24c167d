import RentBilling.Text.Utf8

/-!
Bytes of texts, and texts cut at a byte.

A text is ASCII if none of its bytes has the topmost bit (`all_isAsciiChar_of_utf8Bytes`), and then
its bytes are its characters (`utf8Bytes_eq_map`). A text can be cut only where a character ends:
`upTo?` and `startingAt?` give nothing at any other byte, and the two pieces where it can be cut
(`upTo?_append`, `startingAt?_append`).
-/

namespace RentBilling.Text

/-! ## Bytes -/

theorem utf8Bytes_eq_map {cs : List Char} (h : cs.all isAsciiChar) :
    utf8Bytes cs = cs.map fun c => c.val.toUInt8 := by
  induction cs with
  | nil => rfl
  | cons c cs ih =>
    rw [List.all_cons, Bool.and_eq_true] at h
    rw [utf8Bytes, List.flatMap_cons, ← utf8Bytes, ih h.2,
      String.utf8EncodeChar_eq_singleton (utf8Size_of_isAsciiChar h.1)]
    rfl

theorem length_utf8Bytes {cs : List Char} (h : cs.all isAsciiChar) :
    (utf8Bytes cs).length = cs.length := by
  rw [utf8Bytes_eq_map h, List.length_map]

/-- The byte of an ASCII character is its code. -/
theorem toNat_toUInt8 {c : Char} (h : isAsciiChar c) : c.val.toUInt8.toNat = c.toNat := by
  have hlt : c.val.toNat < 128 := of_decide_eq_true h
  rw [UInt32.toNat_toUInt8]
  exact Nat.mod_eq_of_lt (by omega)

/-- The last byte of a character outside ASCII has the topmost bit. -/
theorem exists_high_byte {c : Char} (h : ¬ isAsciiChar c) :
    ∃ byte ∈ String.utf8EncodeChar c, 128 ≤ byte.toNat := by
  have hhigh : ∀ byte : UInt8, 128 ≤ (byte ||| 0x80).toNat := fun byte => by
    rw [UInt8.toNat_or]
    exact Nat.right_le_or
  have hsize : c.utf8Size ≠ 1 := fun hone => by
    have hle := UInt32.le_iff_toNat_le.mp (Char.utf8Size_eq_one_iff.mp hone)
    exact h (decide_eq_true (Nat.lt_succ_of_le hle))
  rcases c.utf8Size_eq with hc | hc | hc | hc
  · exact absurd hc hsize
  · rw [String.utf8EncodeChar_eq_cons_cons hc]
    exact ⟨_, by simp, hhigh (c.val.toUInt8 &&& 0x3f)⟩
  · rw [String.utf8EncodeChar_eq_cons_cons_cons hc]
    exact ⟨_, by simp, hhigh (c.val.toUInt8 &&& 0x3f)⟩
  · rw [String.utf8EncodeChar_eq_cons_cons_cons_cons hc]
    exact ⟨_, by simp, hhigh (c.val.toUInt8 &&& 0x3f)⟩

theorem all_isAsciiChar_of_utf8Bytes {cs : List Char}
    (h : ∀ byte ∈ utf8Bytes cs, byte.toNat < 128) : cs.all isAsciiChar := by
  rw [List.all_eq_true]
  intro c hc
  refine Decidable.byContradiction fun hnot => ?_
  obtain ⟨byte, hbyte, hhigh⟩ := exists_high_byte hnot
  exact Nat.not_le.mpr (h byte (List.mem_flatMap.mpr ⟨c, hc, hbyte⟩)) hhigh

/-! ## Cuts -/

/-- The text up to a byte, if no character goes on there. -/
def upTo? (s : String) (i : Nat) : Option String :=
  if h : String.Pos.Raw.IsValid s ⟨i⟩ then some (s.sliceTo (s.pos ⟨i⟩ h)).copy else none

/-- The text from a byte on, if a character begins there or the text ends. -/
def startingAt? (s : String) (i : Nat) : Option String :=
  if h : String.Pos.Raw.IsValid s ⟨i⟩ then some (s.sliceFrom (s.pos ⟨i⟩ h)).copy else none

theorem utf8ByteSize_ofList (cs : List Char) : (String.ofList cs).utf8ByteSize = byteLength cs := by
  induction cs with
  | nil => rfl
  | cons c cs ih =>
    have hcons : String.ofList (c :: cs) = String.ofList [c] ++ String.ofList cs := by
      rw [← String.ofList_append]
      rfl
    rw [hcons, String.utf8ByteSize_append, ih, ← String.singleton_eq_ofList,
      String.utf8ByteSize_singleton, byteLength_cons]

section

variable {front back : List Char} {i : Nat}

theorem rawEndPos_of_byteLength (h : byteLength front = i) :
    ⟨i⟩ = (String.ofList front).rawEndPos := by
  rw [String.Pos.Raw.ext_iff, String.byteIdx_rawEndPos, utf8ByteSize_ofList, h]

theorem isValid_append (h : byteLength front = i) :
    String.Pos.Raw.IsValid (String.ofList (front ++ back)) ⟨i⟩ :=
  String.Pos.Raw.isValid_iff_exists_append.mpr
    ⟨.ofList front, .ofList back, String.ofList_append, rawEndPos_of_byteLength h⟩

theorem splits_append (h : byteLength front = i) :
    ((String.ofList (front ++ back)).pos ⟨i⟩ (isValid_append h)).Splits (.ofList front)
      (.ofList back) :=
  ⟨String.ofList_append, rawEndPos_of_byteLength h⟩

theorem upTo?_append (h : byteLength front = i) :
    upTo? (.ofList (front ++ back)) i = some (.ofList front) := by
  rw [upTo?, dif_pos (isValid_append h), (String.Pos.splits _).eq_left (splits_append h)]

theorem startingAt?_append (h : byteLength front = i) :
    startingAt? (.ofList (front ++ back)) i = some (.ofList back) := by
  rw [startingAt?, dif_pos (isValid_append h), (String.Pos.splits _).eq_right (splits_append h)]

end

end RentBilling.Text
