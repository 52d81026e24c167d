import RentBilling.Proofs.Pix.Records

/-!
Which texts are read as records, and which of them are written again.

Read texts fall into pieces. A piece is a record with its length in two characters, and where the
length is below ten a plus sign may stand in place of the zero (`Piece`). An ASCII text is read if
and only if it falls into pieces, and then as their records (`decodeFields_eq_ok_iff`). Records are
always written without signs. So the texts that are read are those that can be written, and come
back as they were, exactly as long as there is no sign in them (`keeps_iff`).

Reading cuts a text at positions that are counted in bytes. `cutFields?` reads with cuts that give
nothing where a position is no border between characters or lies outside the text; it always gives
the same as reading (`cutFields?_eq`).
-/

namespace RentBilling.Pix

open Numeral Text

/-! ## Pieces -/

/-- A record as it stands in a text. -/
structure Piece where
  record : Record
  /-- The length is written with a plus sign and one digit. -/
  signed : Bool

namespace Piece

def lengthChars (p : Piece) : List Char :=
  if p.signed then '+' :: digits p.record.2.toList.length else padded 2 p.record.2.toList.length

/-- Tag, length, value. -/
def chars (p : Piece) : List Char := p.record.1.toList ++ p.lengthChars ++ p.record.2.toList

/-- The tag has two digits, and the length fits in its two characters. -/
structure Fits (p : Piece) : Prop where
  record : p.record.Fits
  signed : p.signed → p.record.2.toList.length < 10

end Piece

theorem padded_ofDigits {c d : Char} (hc : c.isDigit) (hd : d.isDigit) :
    padded 2 (ofDigits [c, d]) = [c, d] ∧ ofDigits [c, d] ≤ maxValue := by
  have hdigits : ∀ e ∈ [c, d], e.isDigit := by simp [hc, hd]
  exact ⟨(padded_ofDigits_eq_iff hdigits (by decide)).mpr (by simp),
    Nat.le_of_lt_succ (ofDigits_lt hdigits)⟩

theorem digits_ofDigits {d : Char} (hd : d.isDigit) :
    digits (ofDigits [d]) = [d] ∧ ofDigits [d] < 10 := by
  have hall : ∀ n < 10, digits (ofDigits [n.digitChar]) = [n.digitChar] ∧
      ofDigits [n.digitChar] < 10 := by decide
  obtain ⟨n, hn, rfl⟩ := exists_digitChar hd
  exact hall n hn

/-- The two characters of a length are its digits, or a sign and its digit. -/
theorem readLength?_eq_some_iff {c d : Char} {n : ℕ} :
    readLength? c d = some n ↔
      (padded 2 n = [c, d] ∧ n ≤ maxValue) ∨ ('+' :: digits n = [c, d] ∧ n < 10) := by
  constructor
  · intro h
    unfold readLength? at h
    split at h
    · rename_i hd
      split at h
      · rename_i hc
        obtain rfl := Option.some.inj h
        exact .inl (padded_ofDigits hc hd)
      · split at h
        · rename_i hplus
          obtain rfl := Option.some.inj h
          obtain ⟨hdigits, hsmall⟩ := digits_ofDigits hd
          exact .inr ⟨by rw [hdigits, hplus], hsmall⟩
        · contradiction
    · contradiction
  · rintro (⟨h, -⟩ | ⟨h, -⟩)
    · exact readLength?_padded h
    · obtain ⟨rfl, hdigits⟩ := List.cons.inj h
      have hd : d.isDigit := isDigit_of_mem_digits (by rw [hdigits]; simp)
      have hplus : ¬ ('+' : Char).isDigit := by decide
      rw [readLength?, if_pos hd, if_neg hplus, if_pos rfl, ← hdigits, ofDigits_digits]

/-! ## Reading pieces -/

/-- Whatever is read is nothing, or a record with its length and what follows. -/
theorem readRecords_ok_cases {cs : List Char} {rs : List Record} (h : readRecords cs = .ok rs) :
    (cs = [] ∧ rs = []) ∨
      ∃ a b c d value rest records, a.isDigit ∧ b.isDigit ∧
        readLength? c d = some value.length ∧ cs = a :: b :: c :: d :: (value ++ rest) ∧
        readRecords rest = .ok records ∧ rs = (.ofList [a, b], .ofList value) :: records := by
  unfold readRecords at h
  split at h
  · exact .inl ⟨rfl, (Except.ok.inj h).symm⟩
  · rename_i a b c d rest
    dsimp only at h
    split at h
    · rename_i htag
      split at h
      · contradiction
      · rename_i n hn
        split at h
        · contradiction
        · rename_i hlong
          obtain ⟨records, hrest, h⟩ := bind_eq_ok.mp h
          obtain rfl := Except.ok.inj h
          have hlength : (rest.take n).length = n := by rw [List.length_take]; omega
          refine .inr ⟨a, b, c, d, rest.take n, rest.drop n, records, htag.1, htag.2, ?_, ?_,
            hrest, rfl⟩
          · rw [hlength, hn]
          · rw [List.take_append_drop]
    · contradiction
  · contradiction

theorem isTag_of_isDigit {a b : Char} (ha : a.isDigit) (hb : b.isDigit) :
    IsTag (.ofList [a, b]) := by
  refine ⟨by rw [String.toList_ofList]; rfl, ?_⟩
  rw [String.toList_ofList, List.all_cons, List.all_cons, ha, hb]
  rfl

/-- A record with its length is a piece. -/
theorem exists_piece {a b c d : Char} {value : List Char} (ha : a.isDigit) (hb : b.isDigit)
    (h : readLength? c d = some value.length) :
    ∃ p : Piece, p.Fits ∧ p.record = (.ofList [a, b], .ofList value) ∧
      p.chars = a :: b :: c :: d :: value := by
  have htag := isTag_of_isDigit ha hb
  rcases readLength?_eq_some_iff.mp h with ⟨hcd, hn⟩ | ⟨hcd, hn⟩
  · refine ⟨⟨(.ofList [a, b], .ofList value), false⟩, ⟨⟨htag, ?_⟩, by simp⟩, rfl, ?_⟩
    · rwa [String.toList_ofList]
    · simp [Piece.chars, Piece.lengthChars, hcd]
  · refine ⟨⟨(.ofList [a, b], .ofList value), true⟩, ⟨⟨htag, ?_⟩, fun _ => ?_⟩, rfl, ?_⟩
    · rw [String.toList_ofList]
      exact Nat.le_trans (Nat.le_of_lt hn) (by decide)
    · rwa [String.toList_ofList]
    · simp [Piece.chars, Piece.lengthChars, hcd]

namespace Piece.Fits

/-- The length of a piece is read from its two characters. -/
theorem readLength?_lengthChars {p : Piece} (h : p.Fits) :
    ∃ c d, p.lengthChars = [c, d] ∧ readLength? c d = some p.record.2.toList.length := by
  unfold lengthChars
  cases hs : p.signed with
  | false =>
    obtain ⟨c, d, hcd⟩ := padded_two h.record.short
    exact ⟨c, d, hcd, readLength?_padded hcd⟩
  | true =>
    have hdigits : digits p.record.2.toList.length = [p.record.2.toList.length.digitChar] :=
      Nat.toDigits_of_lt_base (h.signed hs)
    refine ⟨'+', p.record.2.toList.length.digitChar, by rw [hdigits]; rfl, ?_⟩
    exact readLength?_eq_some_iff.mpr (.inr ⟨by rw [hdigits], h.signed hs⟩)

theorem readRecords_append {p : Piece} (h : p.Fits) (rest : List Char) :
    readRecords (p.chars ++ rest) = (readRecords rest).map (p.record :: ·) := by
  obtain ⟨c, d, hcd, hread⟩ := h.readLength?_lengthChars
  rw [chars, hcd]
  exact readRecords_record_append h.record.isTag hread rest

end Piece.Fits

theorem readRecords_pieces {ps : List Piece} (h : ∀ p ∈ ps, p.Fits) :
    readRecords (ps.flatMap Piece.chars) = .ok (ps.map Piece.record) := by
  induction ps with
  | nil => rw [List.flatMap_nil, readRecords, List.map_nil]
  | cons p ps ih =>
    rw [List.forall_mem_cons] at h
    rw [List.flatMap_cons, h.1.readRecords_append, ih h.2]
    rfl

theorem pieces_of_readRecords {cs : List Char} {rs : List Record} (h : readRecords cs = .ok rs) :
    ∃ ps : List Piece, (∀ p ∈ ps, p.Fits) ∧ cs = ps.flatMap Piece.chars ∧
      rs = ps.map Piece.record := by
  induction rs generalizing cs with
  | nil =>
    rcases readRecords_ok_cases h with ⟨rfl, -⟩ | ⟨_, _, _, _, _, _, _, _, _, _, _, _, hrs⟩
    · exact ⟨[], by simp, rfl, rfl⟩
    · contradiction
  | cons r rs ih =>
    rcases readRecords_ok_cases h with
      ⟨-, hrs⟩ | ⟨a, b, c, d, value, rest, records, ha, hb, hn, rfl, hrest, hrs⟩
    · contradiction
    · obtain ⟨rfl, rfl⟩ := List.cons.inj hrs
      obtain ⟨p, hp, hrecord, hchars⟩ := exists_piece ha hb hn
      obtain ⟨ps, hps, rfl, rfl⟩ := ih hrest
      refine ⟨p :: ps, List.forall_mem_cons.mpr ⟨hp, hps⟩, ?_, ?_⟩
      · rw [List.flatMap_cons, hchars]; rfl
      · rw [List.map_cons, hrecord]

/-- The text is ASCII, and it is these pieces one after another. -/
structure FallsInto (s : String) (ps : List Piece) : Prop where
  ascii : isAscii s
  fits : ∀ p ∈ ps, p.Fits
  chars : s.toList = ps.flatMap Piece.chars

/-- A text is read if and only if it falls into pieces. -/
theorem decodeFields_eq_ok_iff {s : String} {rs : List Record} :
    decodeFields s = .ok rs ↔ ∃ ps, FallsInto s ps ∧ rs = ps.map Piece.record := by
  unfold decodeFields
  constructor
  · intro h
    split at h
    · rename_i hascii
      obtain ⟨ps, hps, hs, hrs⟩ := pieces_of_readRecords (mapError_eq_ok.mp h)
      exact ⟨ps, ⟨hascii, hps, hs⟩, hrs⟩
    · contradiction
  · rintro ⟨ps, hs, rfl⟩
    rw [if_pos hs.ascii, hs.chars, readRecords_pieces hs.fits]
    rfl

/-! ## Writing records again -/

theorem Piece.chars_eq_writeRecord {p : Piece} (h : p.signed = false) :
    p.chars = writeRecord p.record := by
  rw [chars, lengthChars, h, writeRecord]
  rfl

theorem Piece.Fits.length_chars {p : Piece} (h : p.Fits) :
    (writeRecord p.record).length = p.chars.length := by
  obtain ⟨c, d, hcd, -⟩ := h.readLength?_lengthChars
  obtain ⟨a, b, hab⟩ := padded_two h.record.short
  rw [writeRecord, chars, hab, hcd]
  simp

/-- A written length has no sign. -/
theorem Piece.not_signed_of_eq {p : Piece} (h : writeRecord p.record = p.chars) :
    p.signed = false := by
  by_contra hs
  rw [Bool.not_eq_false] at hs
  rw [writeRecord, chars, lengthChars, if_pos hs, List.append_assoc, List.append_assoc] at h
  have hlength := List.append_cancel_right (List.append_cancel_left h)
  have hplus : '+' ∈ padded 2 p.record.2.toList.length := by rw [hlength]; simp
  exact ne_of_isDigit (isDigit_of_mem_padded hplus) (by decide) rfl

/-- Writing the records again gives the text exactly if no length in it has a sign. -/
theorem flatMap_writeRecord_iff {ps : List Piece} (h : ∀ p ∈ ps, p.Fits) :
    (ps.map Piece.record).flatMap writeRecord = ps.flatMap Piece.chars ↔
      ∀ p ∈ ps, p.signed = false := by
  induction ps with
  | nil => simp
  | cons p ps ih =>
    rw [List.forall_mem_cons] at h
    rw [List.map_cons, List.flatMap_cons, List.flatMap_cons, List.forall_mem_cons, ← ih h.2]
    constructor
    · intro heq
      obtain ⟨hp, hps⟩ := List.append_inj heq h.1.length_chars
      exact ⟨Piece.not_signed_of_eq hp, hps⟩
    · rintro ⟨hp, hps⟩
      rw [hps, Piece.chars_eq_writeRecord hp]

/-- The text is ASCII, and it is these records one after another, each length in two digits. -/
structure Writes (s : String) (rs : List Record) : Prop where
  ascii : isAscii s
  fits : ∀ r ∈ rs, r.Fits
  chars : s.toList = rs.flatMap writeRecord

theorem decodeFields_of_writes {s : String} {rs : List Record} (h : Writes s rs) :
    decodeFields s = .ok rs := by
  rw [decodeFields, if_pos h.ascii, h.chars, readRecords_flatMap h.fits]
  rfl

theorem FallsInto.writes {s : String} {ps : List Piece} (h : FallsInto s ps)
    (hp : ∀ p ∈ ps, p.signed = false) : Writes s (ps.map Piece.record) where
  ascii := h.ascii
  fits := List.forall_mem_map.mpr fun p hmem => (h.fits p hmem).record
  chars := h.chars.trans ((flatMap_writeRecord_iff h.fits).mpr hp).symm

/-- Reading accepts the written texts only, and keeps everything, exactly where there is no sign. -/
theorem keeps_iff {s : String} :
    (((∃ rs, decodeFields s = .ok rs) ↔ ∃ rs, Writes s rs) ∧
      ∀ rs, decodeFields s = .ok rs → rs.flatMap writeRecord = s.toList) ↔
      ∀ ps, FallsInto s ps → ∀ p ∈ ps, p.signed = false := by
  constructor
  · rintro ⟨-, hback⟩ ps hps
    have hread := decodeFields_eq_ok_iff.mpr ⟨ps, hps, rfl⟩
    exact (flatMap_writeRecord_iff hps.fits).mp ((hback _ hread).trans hps.chars)
  · intro hsigns
    have hwrites : ∀ rs, decodeFields s = .ok rs → Writes s rs := by
      intro rs hread
      obtain ⟨ps, hps, rfl⟩ := decodeFields_eq_ok_iff.mp hread
      exact hps.writes (hsigns ps hps)
    refine ⟨⟨?_, ?_⟩, fun rs hread => (hwrites rs hread).chars.symm⟩
    · rintro ⟨rs, hread⟩
      exact ⟨rs, hwrites rs hread⟩
    · rintro ⟨rs, h⟩
      exact ⟨rs, decodeFields_of_writes h⟩

/-! ## Cutting by bytes -/

/-- The run cut behind its first `n` bytes; nothing if it has less, or if a character does not end
there. -/
def cutAt? : ℕ → List Char → Option (List Char × List Char)
  | 0, cs => some ([], cs)
  | _ + 1, [] => none
  | n + 1, c :: cs =>
    if c.utf8Size ≤ n + 1 then
      (cutAt? (n + 1 - c.utf8Size) cs).map fun (front, back) => (c :: front, back)
    else none

/-- The number that a length means, of whatever many characters. -/
def lengthOf? : List Char → Option ℕ
  | [c, d] => readLength? c d
  | _ => none

/-- The record with this tag and length, and what follows its value in the run. -/
def cutValue? (tag length cs : List Char) : Option (Except Malformation (Record × List Char)) :=
  if tag.all Char.isDigit then
    match lengthOf? length with
    | none => some (.error (.badLength (.ofList length) (.ofList tag)))
    | some n =>
      if byteLength cs < n then some (.error (.shortValue (.ofList tag)))
      else (cutAt? n cs).map fun (value, rest) => .ok ((.ofList tag, .ofList value), rest)
  else some (.error (.badTag (.ofList tag)))

/-- The first record and what follows it. Tag, length and value are cut off one after another. -/
def cutRecord? (cs : List Char) : Option (Except Malformation (Record × List Char)) :=
  if byteLength cs < 4 then some (.error (.shortHeader (.ofList cs)))
  else
    (cutAt? 2 cs).bind fun (tag, cs) =>
    (cutAt? 2 cs).bind fun (length, cs) => cutValue? tag length cs

theorem cutAt?_eq_some {n : ℕ} {cs front back : List Char}
    (h : cutAt? n cs = some (front, back)) : cs = front ++ back ∧ byteLength front = n := by
  induction cs generalizing n front with
  | nil =>
    cases n with
    | zero =>
      obtain ⟨rfl, rfl⟩ := Prod.mk.inj (Option.some.inj h)
      exact ⟨rfl, rfl⟩
    | succ n => cases h
  | cons c cs ih =>
    cases n with
    | zero =>
      obtain ⟨rfl, rfl⟩ := Prod.mk.inj (Option.some.inj h)
      exact ⟨rfl, rfl⟩
    | succ n =>
      rw [cutAt?] at h
      split at h
      · obtain ⟨⟨front', back'⟩, hcut, heq⟩ := Option.map_eq_some_iff.mp h
        obtain ⟨rfl, rfl⟩ := Prod.mk.inj heq
        obtain ⟨rfl, hbytes⟩ := ih hcut
        exact ⟨rfl, by rw [byteLength_cons, hbytes]; omega⟩
      · cases h

theorem length_le_of_cutValue? {tag length cs rest : List Char} {r : Record}
    (h : cutValue? tag length cs = some (.ok (r, rest))) : rest.length ≤ cs.length := by
  unfold cutValue? at h
  split at h
  · split at h
    · cases h
    · split at h
      · cases h
      · obtain ⟨⟨value, rest'⟩, hvalue, heq⟩ := Option.map_eq_some_iff.mp h
        obtain ⟨-, rfl⟩ := Prod.mk.inj (Except.ok.inj heq)
        obtain ⟨rfl, -⟩ := cutAt?_eq_some hvalue
        simp
  · cases h

/-- What is left is shorter, by the tag at least. -/
theorem length_lt_of_cutRecord? {cs rest : List Char} {r : Record}
    (h : cutRecord? cs = some (.ok (r, rest))) : rest.length < cs.length := by
  unfold cutRecord? at h
  split at h
  · cases h
  · obtain ⟨⟨tag, cs₁⟩, htag, h₁⟩ := Option.bind_eq_some_iff.mp h
    obtain ⟨⟨length, cs₂⟩, hlength, h₂⟩ := Option.bind_eq_some_iff.mp h₁
    have hrest := length_le_of_cutValue? h₂
    obtain ⟨rfl, hbytes⟩ := cutAt?_eq_some htag
    obtain ⟨rfl, -⟩ := cutAt?_eq_some hlength
    have hne : tag ≠ [] := by
      rintro rfl
      cases hbytes
    have hpos := List.length_pos_iff.mpr hne
    simp only [List.length_append]
    omega

/-- The records of a run of characters, read with cuts. -/
def cutRecords? (cs : List Char) : Option (Except Malformation (List Record)) :=
  if cs = [] then some (.ok [])
  else
    match _h : cutRecord? cs with
    | none => none
    | some (.error e) => some (.error e)
    | some (.ok (r, rest)) => (cutRecords? rest).map fun records => records.map (r :: ·)
termination_by cs.length
decreasing_by exact length_lt_of_cutRecord? _h

/-- The records of a text, read with cuts. -/
def cutFields? (payload : String) : Option (Except Error (List Record)) :=
  if isAscii payload then (cutRecords? payload.toList).map (·.mapError .malformed)
  else some (.error (.malformed .notAscii))

/-- In ASCII there is a border behind each byte. -/
theorem cutAt?_of_ascii {cs : List Char} (ha : cs.all isAsciiChar) {n : ℕ} (hn : n ≤ cs.length) :
    cutAt? n cs = some (cs.take n, cs.drop n) := by
  induction cs generalizing n with
  | nil =>
    obtain rfl := Nat.le_zero.mp hn
    rfl
  | cons c cs ih =>
    rw [List.all_cons, Bool.and_eq_true] at ha
    cases n with
    | zero => rfl
    | succ n =>
      rw [cutAt?, utf8Size_of_isAsciiChar ha.1, if_pos (by omega), Nat.add_sub_cancel,
        ih ha.2 (Nat.le_of_succ_le_succ hn)]
      rfl

theorem cutRecord?_of_short {cs : List Char} (ha : cs.all isAsciiChar) (h : cs.length < 4) :
    cutRecord? cs = some (.error (.shortHeader (.ofList cs))) := by
  rw [cutRecord?, byteLength_eq_length ha, if_pos h]

theorem cutRecord?_of_long {a b c d : Char} {rest : List Char}
    (ha : (a :: b :: c :: d :: rest).all isAsciiChar) :
    cutRecord? (a :: b :: c :: d :: rest) = cutValue? [a, b] [c, d] rest := by
  have ha' : (c :: d :: rest).all isAsciiChar := by
    simp only [List.all_cons, Bool.and_eq_true] at ha ⊢
    exact ha.2.2
  have hlong : ¬ (a :: b :: c :: d :: rest).length < 4 := by simp
  rw [cutRecord?, byteLength_eq_length ha, if_neg hlong, cutAt?_of_ascii ha (by simp),
    Option.bind_some]
  dsimp only [List.take, List.drop]
  rw [cutAt?_of_ascii ha' (by simp), Option.bind_some]
  rfl

theorem readRecords_of_short {cs : List Char} (hne : cs ≠ []) (h : cs.length < 4) :
    readRecords cs = .error (.shortHeader (.ofList cs)) := by
  unfold readRecords
  split
  · contradiction
  · simp only [List.length_cons] at h
    omega
  · rfl

/-- One round of reading: no cut fails, and it ends as reading ends, or leaves the rest to be
read. -/
theorem cutRecord?_eq {cs : List Char} (ha : cs.all isAsciiChar) (hne : cs ≠ []) :
    (∃ e, cutRecord? cs = some (.error e) ∧ readRecords cs = .error e) ∨
      ∃ r rest, cutRecord? cs = some (.ok (r, rest)) ∧ rest.all isAsciiChar ∧
        readRecords cs = (readRecords rest).map (r :: ·) := by
  by_cases hshort : cs.length < 4
  · exact .inl ⟨_, cutRecord?_of_short ha hshort, readRecords_of_short hne hshort⟩
  · obtain ⟨a, b, c, d, rest, rfl⟩ : ∃ a b c d rest, cs = a :: b :: c :: d :: rest := by
      rcases cs with _ | ⟨a, _ | ⟨b, _ | ⟨c, _ | ⟨d, rest⟩⟩⟩⟩
      iterate 4 exact absurd (by simp) hshort
      exact ⟨a, b, c, d, rest, rfl⟩
    have ha' : rest.all isAsciiChar := by
      simp only [List.all_cons, Bool.and_eq_true] at ha
      exact ha.2.2.2.2
    have htag : [a, b].all Char.isDigit ↔ a.isDigit ∧ b.isDigit := by simp
    rw [cutRecord?_of_long ha, cutValue?, lengthOf?, byteLength_eq_length ha',
      readRecords.eq_def (a :: _)]
    dsimp only
    by_cases hdigits : a.isDigit ∧ b.isDigit
    · rw [if_pos (htag.mpr hdigits), if_pos hdigits]
      cases hn : readLength? c d with
      | none => exact .inl ⟨_, rfl, rfl⟩
      | some n =>
        dsimp only
        by_cases hlong : rest.length < n
        · rw [if_pos hlong, if_pos hlong]
          exact .inl ⟨_, rfl, rfl⟩
        · rw [if_neg hlong, if_neg hlong, cutAt?_of_ascii ha' (Nat.le_of_not_lt hlong)]
          refine .inr ⟨_, rest.drop n, rfl, ?_, ?_⟩
          · exact List.all_eq_true.mpr fun x hx =>
              List.all_eq_true.mp ha' x (List.mem_of_mem_drop hx)
          · cases readRecords (rest.drop n) <;> rfl
    · rw [if_neg (fun h => hdigits (htag.mp h)), if_neg hdigits]
      exact .inl ⟨_, rfl, rfl⟩

theorem cutRecords?_of_error {cs : List Char} {e : Malformation} (hne : cs ≠ [])
    (h : cutRecord? cs = some (.error e)) : cutRecords? cs = some (.error e) := by
  rw [cutRecords?, if_neg hne]
  split <;> simp_all

theorem cutRecords?_of_ok {cs rest : List Char} {r : Record} (hne : cs ≠ [])
    (h : cutRecord? cs = some (.ok (r, rest))) :
    cutRecords? cs = (cutRecords? rest).map fun records => records.map (r :: ·) := by
  rw [cutRecords?, if_neg hne]
  split <;> simp_all

/-- No cut of a whole reading fails. -/
theorem cutRecords?_eq {cs : List Char} (ha : cs.all isAsciiChar) :
    cutRecords? cs = some (readRecords cs) := by
  induction hn : cs.length using Nat.strong_induction_on generalizing cs with
  | _ n ih =>
    by_cases hne : cs = []
    · rw [cutRecords?, if_pos hne, hne, readRecords]
    · rcases cutRecord?_eq ha hne with ⟨e, hcut, hread⟩ | ⟨r, rest, hcut, hrest, hread⟩
      · rw [cutRecords?_of_error hne hcut, hread]
      · have hlt : rest.length < n := hn ▸ length_lt_of_cutRecord? hcut
        rw [cutRecords?_of_ok hne hcut, ih rest.length hlt hrest rfl, hread]
        rfl

theorem cutFields?_eq (s : String) : cutFields? s = some (decodeFields s) := by
  unfold cutFields? decodeFields
  split
  · rename_i hascii
    rw [cutRecords?_eq hascii, Option.map_some]
  · rfl

/-- **What is read.** A text is read if and only if it is ASCII and falls into pieces. The texts
read are those that can be written, and every one is written back as it was, exactly as long as no
length has a sign. No cut that reading makes falls outside the text or into a character. -/
theorem decodeFields_grammar (s : String) :
    (∀ rs, decodeFields s = .ok rs ↔ ∃ ps, FallsInto s ps ∧ rs = ps.map Piece.record) ∧
    ((((∃ rs, decodeFields s = .ok rs) ↔ ∃ rs, Writes s rs) ∧
      ∀ rs, decodeFields s = .ok rs → rs.flatMap writeRecord = s.toList) ↔
      ∀ ps, FallsInto s ps → ∀ p ∈ ps, p.signed = false) ∧
    cutFields? s = some (decodeFields s) :=
  ⟨fun _ => decodeFields_eq_ok_iff, keeps_iff, cutFields?_eq s⟩

/-- One record whose length has a sign. -/
def signedSample : Piece := ⟨("00", "a"), true⟩

theorem fallsInto_signedSample : FallsInto "00+1a" [signedSample] where
  ascii := by decide
  fits := by
    intro p hp
    obtain rfl := List.mem_singleton.mp hp
    exact ⟨⟨by decide, by decide⟩, by decide⟩
  chars := by decide

theorem decodeFields_grammar_signed :
    decodeFields "00+1a" = .ok [("00", "a")] ∧
      cutFields? "00+1a" = some (.ok [("00", "a")]) ∧
      ¬ (((∃ rs, decodeFields "00+1a" = .ok rs) ↔ ∃ rs, Writes "00+1a" rs) ∧
        ∀ rs, decodeFields "00+1a" = .ok rs → rs.flatMap writeRecord = "00+1a".toList) := by
  obtain ⟨hreads, hkeeps, hcuts⟩ := decodeFields_grammar "00+1a"
  have hread := (hreads [("00", "a")]).mpr ⟨[signedSample], fallsInto_signedSample, rfl⟩
  refine ⟨hread, hread ▸ hcuts, fun h => ?_⟩
  have hunsigned := hkeeps.mp h [signedSample] fallsInto_signedSample
  exact absurd (hunsigned signedSample (.head _)) (by decide)

/-- A length with a sign is read, and written back it is another text. -/
theorem not_written_back :
    ¬ ∀ (s : String) (rs : List Record), decodeFields s = .ok rs →
      rs.flatMap writeRecord = s.toList := by
  intro h
  have hread := decodeFields_eq_ok_iff.mpr ⟨[signedSample], fallsInto_signedSample, rfl⟩
  exact absurd (h _ _ hread) (by decide)

end RentBilling.Pix
