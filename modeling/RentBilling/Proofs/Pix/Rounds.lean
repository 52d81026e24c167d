import RentBilling.Proofs.Pix.Grammar

/-!
Reading round by round.

Reading keeps the records read so far and what is left of the text. A round cuts one record off the
front of the rest and puts it behind the others (`Progress.round?`). It takes tag, length and value,
and so at least four bytes (`Progress.byteLength_of_round?`), and in ASCII none of its cuts fails
(`Progress.Ascii.exists_round?`). Hence reading ends, and with the records that the text falls into
or the first thing that is wrong with it (`Progress.rounds?_start`).

A round looks at nothing behind the record it cuts off (`Opens.append`). So a text that is read as a
whole is read in the same rounds whatever stands behind it (`rounds?_of_readRecords`), and reading
then goes on as if the rest were a text of its own (`decodeFields_append`).
-/

namespace RentBilling.Pix

open Text

/-! ## One record -/

theorem cutAt?_byteLength (front back : List Char) :
    cutAt? (byteLength front) (front ++ back) = some (front, back) := by
  induction front with
  | nil => cases back <;> rfl
  | cons c front ih =>
    have hc : 0 < c.utf8Size := c.utf8Size_pos
    obtain ⟨n, hn⟩ : ∃ n, c.utf8Size + byteLength front = n + 1 :=
      Nat.exists_eq_add_one.mpr (by omega)
    have hrest : n + 1 - c.utf8Size = byteLength front := by omega
    rw [byteLength_cons, hn, List.cons_append, cutAt?, if_pos (by omega), hrest, ih]
    rfl

/-- A run can be cut where a character ends, and there only. -/
theorem cutAt?_eq_some_iff {n : ℕ} {cs front back : List Char} :
    cutAt? n cs = some (front, back) ↔ cs = front ++ back ∧ byteLength front = n := by
  refine ⟨cutAt?_eq_some, ?_⟩
  rintro ⟨rfl, rfl⟩
  exact cutAt?_byteLength front back

/-- The run begins with this record, its length in these characters, and `rest` comes behind it. -/
structure Opens (cs : List Char) (r : Record) (length rest : List Char) : Prop where
  chars : cs = r.1.toList ++ (length ++ (r.2.toList ++ rest))
  tagBytes : byteLength r.1.toList = 2
  tagDigits : r.1.toList.all Char.isDigit
  lengthBytes : byteLength length = 2
  lengthOf : lengthOf? length = some (byteLength r.2.toList)

theorem cutValue?_eq_ok_iff {tag length cs rest : List Char} {r : Record} :
    cutValue? tag length cs = some (.ok (r, rest)) ↔
      tag.all Char.isDigit ∧ r.1.toList = tag ∧ lengthOf? length = some (byteLength r.2.toList) ∧
        cs = r.2.toList ++ rest := by
  unfold cutValue?
  constructor
  · intro h
    split at h
    · rename_i hdigits
      split at h
      · cases h
      · rename_i n hn
        split at h
        · cases h
        · obtain ⟨⟨value, rest'⟩, hcut, heq⟩ := Option.map_eq_some_iff.mp h
          obtain ⟨rfl, rfl⟩ := Prod.mk.inj (Except.ok.inj heq)
          obtain ⟨rfl, rfl⟩ := cutAt?_eq_some_iff.mp hcut
          exact ⟨hdigits, String.toList_ofList, by rw [hn, String.toList_ofList],
            by rw [String.toList_ofList]⟩
    · cases h
  · rintro ⟨hdigits, rfl, hn, rfl⟩
    have hlong : ¬ byteLength (r.2.toList ++ rest) < byteLength r.2.toList := by
      rw [byteLength_append]
      omega
    rw [if_pos hdigits, hn]
    dsimp only
    rw [if_neg hlong, cutAt?_byteLength]
    simp only [Option.map_some, String.ofList_toList]

/-- A record is cut off exactly if the run begins with it. -/
theorem cutRecord?_eq_ok_iff {cs rest : List Char} {r : Record} :
    cutRecord? cs = some (.ok (r, rest)) ↔ ∃ length, Opens cs r length rest := by
  unfold cutRecord?
  constructor
  · intro h
    split at h
    · cases h
    · obtain ⟨⟨tag, cs₁⟩, htag, h₁⟩ := Option.bind_eq_some_iff.mp h
      obtain ⟨⟨length, cs₂⟩, hlength, h₂⟩ := Option.bind_eq_some_iff.mp h₁
      obtain ⟨rfl, htagBytes⟩ := cutAt?_eq_some_iff.mp htag
      obtain ⟨rfl, hlengthBytes⟩ := cutAt?_eq_some_iff.mp hlength
      obtain ⟨hdigits, rfl, hn, rfl⟩ := cutValue?_eq_ok_iff.mp h₂
      exact ⟨length, rfl, htagBytes, hdigits, hlengthBytes, hn⟩
  · rintro ⟨length, rfl, htagBytes, hdigits, hlengthBytes, hn⟩
    have hlong : ¬ byteLength (r.1.toList ++ (length ++ (r.2.toList ++ rest))) < 4 := by
      simp only [byteLength_append]
      omega
    rw [if_neg hlong, cutAt?_eq_some_iff.mpr ⟨rfl, htagBytes⟩, Option.bind_some]
    dsimp only
    rw [cutAt?_eq_some_iff.mpr ⟨rfl, hlengthBytes⟩, Option.bind_some]
    exact cutValue?_eq_ok_iff.mpr ⟨hdigits, rfl, hn, rfl⟩

namespace Opens

variable {cs length rest : List Char} {r : Record}

theorem append (h : Opens cs r length rest) (more : List Char) :
    Opens (cs ++ more) r length (rest ++ more) where
  chars := by simp only [h.chars, List.append_assoc]
  tagBytes := h.tagBytes
  tagDigits := h.tagDigits
  lengthBytes := h.lengthBytes
  lengthOf := h.lengthOf

theorem byteLength_eq (h : Opens cs r length rest) :
    byteLength cs = 4 + byteLength r.2.toList + byteLength rest := by
  rw [h.chars, byteLength_append, byteLength_append, byteLength_append, h.tagBytes, h.lengthBytes]
  omega

end Opens

/-- The record in front is cut off alike whatever stands behind. -/
theorem cutRecord?_append {cs rest : List Char} {r : Record}
    (h : cutRecord? cs = some (.ok (r, rest))) (more : List Char) :
    cutRecord? (cs ++ more) = some (.ok (r, rest ++ more)) := by
  obtain ⟨length, hopens⟩ := cutRecord?_eq_ok_iff.mp h
  exact cutRecord?_eq_ok_iff.mpr ⟨length, hopens.append more⟩

/-! ## Rounds -/

/-- How far reading has come. -/
inductive Progress where
  /-- These records have been read, and this is left of the text. -/
  | reading (records : List Record) (rest : List Char)
  | ended (result : Except Error (List Record))

namespace Progress

/-- Before the first round. A text that is not ASCII is refused without one. -/
def start (payload : String) : Progress :=
  if isAscii payload then .reading [] payload.toList else .ended (.error (.malformed .notAscii))

/-- One round; nothing if one of its cuts fails. What has ended stays as it is. -/
def round? : Progress → Option Progress
  | .reading records rest =>
    if rest = [] then some (.ended (.ok records))
    else (cutRecord? rest).map fun
      | .ok (r, rest) => .reading (records ++ [r]) rest
      | .error e => .ended (.error (.malformed e))
  | .ended result => some (.ended result)

/-- So many rounds, one after another. -/
def rounds? : ℕ → Progress → Option Progress
  | 0, p => some p
  | n + 1, p => p.round?.bind (rounds? n)

variable {records records' : List Record} {rest rest' : List Char}

theorem rounds?_ended (n : ℕ) (result : Except Error (List Record)) :
    (ended result).rounds? n = some (.ended result) := by
  induction n with
  | zero => rfl
  | succ n ih => rw [rounds?, round?, Option.bind_some, ih]

theorem round?_of_ok {r : Record} (records : List Record)
    (h : cutRecord? rest = some (.ok (r, rest'))) :
    (reading records rest).round? = some (.reading (records ++ [r]) rest') := by
  have hne : rest ≠ [] := by
    rintro rfl
    cases h
  rw [round?, if_neg hne, h, Option.map_some]

theorem round?_of_error {e : Malformation} (records : List Record) (hne : rest ≠ [])
    (h : cutRecord? rest = some (.error e)) :
    (reading records rest).round? = some (.ended (.error (.malformed e))) := by
  rw [round?, if_neg hne, h, Option.map_some]

/-- A round after which reading goes on has cut a record off. -/
theorem cutRecord?_of_round? (h : (reading records rest).round? = some (.reading records' rest')) :
    ∃ r, records' = records ++ [r] ∧ cutRecord? rest = some (.ok (r, rest')) := by
  rw [round?] at h
  split at h
  · cases h
  · obtain ⟨e | ⟨r, cs⟩, hcut, heq⟩ := Option.map_eq_some_iff.mp h
    · cases heq
    · obtain ⟨rfl, rfl⟩ := Progress.reading.inj heq
      exact ⟨r, rfl, hcut⟩

/-! ## What a round takes -/

/-- A round takes a tag, a length and a value. -/
theorem byteLength_of_round? (h : (reading records rest).round? = some (.reading records' rest')) :
    byteLength rest' + 4 ≤ byteLength rest := by
  obtain ⟨r, -, hcut⟩ := cutRecord?_of_round? h
  obtain ⟨length, hopens⟩ := cutRecord?_eq_ok_iff.mp hcut
  have hbytes := hopens.byteLength_eq
  omega

theorem byteLength_of_rounds? {n : ℕ}
    (h : (reading records rest).rounds? n = some (.reading records' rest')) :
    byteLength rest' + 4 * n ≤ byteLength rest := by
  induction n generalizing records rest with
  | zero =>
    obtain ⟨-, rfl⟩ := Progress.reading.inj (Option.some.inj h)
    omega
  | succ n ih =>
    obtain ⟨p, hround, hrounds⟩ := Option.bind_eq_some_iff.mp h
    cases p with
    | reading records₁ rest₁ =>
      have hfirst := byteLength_of_round? hround
      have hlast := ih hrounds
      omega
    | ended result =>
      rw [rounds?_ended] at hrounds
      cases hrounds

/-! ## What a round leads to -/

/-- What is left is ASCII. -/
def Ascii : Progress → Prop
  | .reading _ rest => rest.all isAsciiChar
  | .ended _ => True

/-- What reading ends with from here: the records so far and those of the rest, or what is wrong
with the rest. -/
def outcome : Progress → Except Error (List Record)
  | .reading records rest => ((readRecords rest).map (records ++ ·)).mapError .malformed
  | .ended result => result

theorem ascii_start (payload : String) : (start payload).Ascii := by
  unfold start
  split
  · assumption
  · trivial

theorem outcome_start (payload : String) : (start payload).outcome = decodeFields payload := by
  unfold start decodeFields
  split
  · rw [outcome]
    cases readRecords payload.toList <;> rfl
  · rfl

/-- In ASCII no cut of a round fails, and the round leads to the same outcome. -/
theorem Ascii.exists_round? {p : Progress} (h : p.Ascii) :
    ∃ q, p.round? = some q ∧ q.Ascii ∧ q.outcome = p.outcome := by
  cases p with
  | ended result => exact ⟨.ended result, rfl, trivial, rfl⟩
  | reading records rest =>
    by_cases hne : rest = []
    · refine ⟨.ended (.ok records), by rw [round?, if_pos hne], trivial, ?_⟩
      rw [hne, outcome, outcome, readRecords, Except.map, List.append_nil]
      rfl
    · rcases cutRecord?_eq h hne with ⟨e, hcut, hread⟩ | ⟨r, rest', hcut, ha, hread⟩
      · refine ⟨_, round?_of_error records hne hcut, trivial, ?_⟩
        rw [outcome, outcome, hread]
        rfl
      · refine ⟨_, round?_of_ok records hcut, ha, ?_⟩
        rw [outcome, outcome, hread]
        cases readRecords rest' with
        | error e => rfl
        | ok rs => simp [Except.map, Except.mapError]

theorem Ascii.exists_rounds? {p : Progress} (h : p.Ascii) (n : ℕ) :
    ∃ q, p.rounds? n = some q ∧ q.Ascii ∧ q.outcome = p.outcome := by
  induction n generalizing p with
  | zero => exact ⟨p, rfl, h, rfl⟩
  | succ n ih =>
    obtain ⟨q, hround, hq, houtcome⟩ := h.exists_round?
    obtain ⟨last, hrounds, hlast, hsame⟩ := ih hq
    exact ⟨last, by rw [rounds?, hround, Option.bind_some, hrounds], hlast,
      hsame.trans houtcome⟩

/-- The rounds come to an end, and it is what decoding gives. -/
theorem rounds?_start (payload : String) {n : ℕ} (hn : byteLength payload.toList < 4 * n) :
    (start payload).rounds? n = some (.ended (decodeFields payload)) := by
  obtain ⟨q, hrounds, -, houtcome⟩ := (ascii_start payload).exists_rounds? n
  rw [outcome_start] at houtcome
  cases q with
  | ended result => rw [hrounds, ← houtcome, outcome]
  | reading records rest =>
    -- Reading that still goes on would have taken more bytes than the text has.
    exfalso
    unfold start at hrounds
    split at hrounds
    · have hbytes := byteLength_of_rounds? hrounds
      omega
    · rw [rounds?_ended] at hrounds
      cases hrounds

end Progress

/-! ## Going on -/

theorem readRecords_of_decodeFields {s : String} {rs : List Record}
    (h : decodeFields s = .ok rs) : s.toList.all isAsciiChar ∧ readRecords s.toList = .ok rs := by
  rw [decodeFields] at h
  split at h
  · rename_i hascii
    exact ⟨hascii, mapError_eq_ok.mp h⟩
  · cases h

theorem eq_nil_of_readRecords {cs : List Char} (h : readRecords cs = .ok []) : cs = [] := by
  rcases readRecords_ok_cases h with ⟨hnil, -⟩ | ⟨_, _, _, _, _, _, _, _, _, _, _, _, hrs⟩
  · exact hnil
  · cases hrs

theorem cutRecord?_of_readRecords {cs : List Char} {r : Record} {rs : List Record}
    (ha : cs.all isAsciiChar) (h : readRecords cs = .ok (r :: rs)) :
    ∃ rest, cutRecord? cs = some (.ok (r, rest)) ∧ rest.all isAsciiChar ∧
      readRecords rest = .ok rs := by
  have hne : cs ≠ [] := by
    rintro rfl
    rw [readRecords] at h
    cases h
  rcases cutRecord?_eq ha hne with ⟨e, -, hread⟩ | ⟨r', rest, hcut, hrest, hread⟩
  · rw [hread] at h
    cases h
  · rw [hread] at h
    obtain ⟨rs', hrs, hcons⟩ := map_eq_ok.mp h
    obtain ⟨rfl, rfl⟩ := List.cons.inj hcons
    exact ⟨rest, hcut, hrest, hrs⟩

/-- A run that is read as a whole is read alike whatever stands behind it, one round for each of its
records; then the rounds go on with what stands there. -/
theorem rounds?_of_readRecords {cs : List Char} {rs : List Record} (ha : cs.all isAsciiChar)
    (h : readRecords cs = .ok rs) (records : List Record) (more : List Char) :
    (Progress.reading records (cs ++ more)).rounds? rs.length =
      some (.reading (records ++ rs) more) := by
  induction rs generalizing cs records with
  | nil =>
    obtain rfl := eq_nil_of_readRecords h
    rw [List.nil_append, List.append_nil]
    rfl
  | cons r rs ih =>
    obtain ⟨rest, hcut, hrest, hread⟩ := cutRecord?_of_readRecords ha h
    -- The first round sees one record only, so that what stands behind the run stays where it is.
    have hround := Progress.round?_of_ok records (cutRecord?_append hcut more)
    rw [List.length_cons, Progress.rounds?, hround, Option.bind_some, ih hrest hread,
      List.append_assoc, List.singleton_append]

theorem rounds?_append {a : String} {xs : List Record} (h : decodeFields a = .ok xs) (b : String) :
    (Progress.reading [] (a ++ b).toList).rounds? xs.length = some (.reading xs b.toList) := by
  obtain ⟨hascii, hread⟩ := readRecords_of_decodeFields h
  rw [String.toList_append]
  exact rounds?_of_readRecords hascii hread [] b.toList

/-- What stands behind a text that is read is read like a text of its own. -/
theorem decodeFields_append_of_ok {a : String} {xs : List Record} (h : decodeFields a = .ok xs)
    (b : String) : decodeFields (a ++ b) = (decodeFields b).map (xs ++ ·) := by
  obtain ⟨ha, -⟩ := readRecords_of_decodeFields h
  have happend : isAscii (a ++ b) = isAscii b := by
    rw [isAscii, String.toList_append, List.all_append, ha, Bool.true_and, isAscii]
  by_cases hb : isAscii b
  · -- The rounds over `a` keep the outcome and lead in front of `b`.
    have hstart : Progress.start (a ++ b) = .reading [] (a ++ b).toList :=
      if_pos (happend.trans hb)
    obtain ⟨q, hrounds, -, houtcome⟩ := (Progress.ascii_start (a ++ b)).exists_rounds? xs.length
    rw [Progress.outcome_start] at houtcome
    rw [hstart, rounds?_append h b] at hrounds
    obtain rfl := Option.some.inj hrounds
    rw [← houtcome, Progress.outcome, decodeFields, if_pos hb]
    cases readRecords b.toList <;> rfl
  · rw [decodeFields, decodeFields, happend, if_neg hb, if_neg hb]
    rfl

/-- **Reading goes on behind what was read.** If a text is read, then with another text behind it
its records come first, those of the other text follow, and what is wrong with the other text is
what is wrong with both together. The rounds stand exactly between the two texts once the records of
the first have been read. A round takes four bytes at least. Whatever the text, no cut of any round
fails, and reading has ended after one round for every four bytes and one more. -/
theorem decodeFields_append :
    (∀ (a b : String) (xs : List Record), decodeFields a = .ok xs →
      (∀ ys, decodeFields b = .ok ys → decodeFields (a ++ b) = .ok (xs ++ ys)) ∧
      (∀ e, decodeFields b = .error e → decodeFields (a ++ b) = .error e) ∧
      (Progress.reading [] (a ++ b).toList).rounds? xs.length = some (.reading xs b.toList)) ∧
    (∀ (records records' : List Record) (rest rest' : List Char),
      (Progress.reading records rest).round? = some (.reading records' rest') →
        byteLength rest' + 4 ≤ byteLength rest) ∧
    ∀ s : String,
      (∀ n, ∃ p, (Progress.start s).rounds? n = some p) ∧
      (Progress.start s).rounds? (byteLength s.toList / 4 + 1) =
        some (.ended (decodeFields s)) := by
  refine ⟨fun a b xs ha => ⟨fun ys hb => ?_, fun e hb => ?_, rounds?_append ha b⟩,
    fun _ _ _ _ => Progress.byteLength_of_round?, fun s => ⟨fun n => ?_, ?_⟩⟩
  · rw [decodeFields_append_of_ok ha, hb]
    rfl
  · rw [decodeFields_append_of_ok ha, hb]
    rfl
  · obtain ⟨p, hrounds, -⟩ := (Progress.ascii_start s).exists_rounds? n
    exact ⟨p, hrounds⟩
  · exact Progress.rounds?_start s (by omega)

/-- The value in front would make a header for the text behind it. -/
theorem decodeFields_append_header :
    decodeFields "00040102" = .ok [("00", "0102")] ∧
      decodeFields "BR" = .error (.malformed (.shortHeader "BR")) ∧
      decodeFields ("00040102" ++ "BR") = .error (.malformed (.shortHeader "BR")) ∧
      decodeFields "0102BR" = .ok [("01", "BR")] ∧
      decodeFields ("00040102" ++ "0102BR") = .ok [("00", "0102"), ("01", "BR")] ∧
      (Progress.reading [] ("00040102" ++ "0102BR").toList).round? =
        some (.reading [("00", "0102")] "0102BR".toList) ∧
      byteLength "0102BR".toList + 4 ≤ byteLength ("00040102" ++ "0102BR").toList := by
  obtain ⟨hgoesOn, hbytes, -⟩ := decodeFields_append
  have hfront : decodeFields "00040102" = .ok [("00", "0102")] := by decide +kernel
  have hshort : decodeFields "BR" = .error (.malformed (.shortHeader "BR")) := by decide +kernel
  have hread : decodeFields "0102BR" = .ok [("01", "BR")] := by decide +kernel
  obtain ⟨-, herror, -⟩ := hgoesOn "00040102" "BR" _ hfront
  obtain ⟨hok, -, hrounds⟩ := hgoesOn "00040102" "0102BR" _ hfront
  have hround : (Progress.reading [] ("00040102" ++ "0102BR").toList).round? =
      some (.reading [("00", "0102")] "0102BR".toList) := by
    simpa only [List.length_singleton, Progress.rounds?, Option.bind_fun_some] using hrounds
  exact ⟨hfront, hshort, herror _ hshort, hread, hok _ hread, hround, hbytes _ _ _ _ hround⟩

end RentBilling.Pix
