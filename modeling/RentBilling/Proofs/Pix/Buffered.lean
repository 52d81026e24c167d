import RentBilling.Proofs.Pix.Faults

/-!
Fields written into a text, piece by piece.

A field goes behind what a text already holds: its tag, its length and its value are put down one
after the other (`Field.push`). A group first gathers its inner fields in a text of its own, and
every check comes before the first piece, so a field that is refused leaves no piece behind
(`Field.push_eq`). A run of fields does: the text then ends with the fields before the refused one
(`pushAll_eq`), and only because that text is dropped is the whole run all or nothing.

Fields are refused exactly if one of them or of those within them is not sound, and the first such
field in post-order is the one that is reported (`encodeFields_sound`).
-/

namespace RentBilling.Pix

open Numeral Text

/-! ## Sound fields -/

/-- The field is among these or within one of them, on any level. -/
inductive Field.Within : Field → List Field → Prop where
  | here {field : Field} {fields : List Field} (h : field ∈ fields) : Within field fields
  | inside {field : Field} {tag : String} {inner fields : List Field}
      (h : .group tag inner ∈ fields) (below : Within field inner) : Within field fields

/-- A text is ASCII, and what the field holds has at most 99 bytes. The fields within it are not
looked at. -/
def Field.Sound : Field → Prop
  | .text _ value => isAscii value ∧ byteLength value.toList ≤ 99
  | .group _ fields => byteLength (contentAll fields) ≤ 99

/-- The field is not sound, and this is the error for it. A text that is neither ASCII nor short is
reported as not ASCII. -/
inductive Field.Offends : Field → Error → Prop where
  | notAscii {tag value : String} (h : ¬ isAscii value) :
      Offends (.text tag value) (.nonAscii tag)
  | longText {tag value : String} (ascii : isAscii value) (h : 99 < byteLength value.toList) :
      Offends (.text tag value) (.fieldTooLong tag (byteLength value.toList))
  | longGroup {tag : String} {fields : List Field} (h : 99 < byteLength (contentAll fields)) :
      Offends (.group tag fields) (.fieldTooLong tag (byteLength (contentAll fields)))

theorem mem_postOrderAll {field : Field} {fields : List Field} :
    field ∈ postOrderAll fields ↔ ∃ f ∈ fields, field ∈ f.postOrder := by
  induction fields with
  | nil => simp [postOrderAll]
  | cons f fields ih => rw [postOrderAll, List.mem_append, ih, List.exists_mem_cons_iff]

theorem Field.self_mem_postOrder (field : Field) : field ∈ field.postOrder := by
  cases field with
  | text tag value => exact List.mem_singleton_self _
  | group tag fields => exact List.mem_append_right _ (List.mem_singleton_self _)

mutual

theorem Field.within_of_mem_postOrder {field f : Field} {fields : List Field} (hf : f ∈ fields)
    (h : field ∈ f.postOrder) : field.Within fields := by
  match f with
  | .text tag value =>
    obtain rfl := List.mem_singleton.mp h
    exact .here hf
  | .group tag inner =>
    rcases List.mem_append.mp h with h | h
    · exact .inside hf (within_of_mem_postOrderAll h)
    · obtain rfl := List.mem_singleton.mp h
      exact .here hf

theorem within_of_mem_postOrderAll {field : Field} {fields : List Field}
    (h : field ∈ postOrderAll fields) : field.Within fields := by
  match fields with
  | [] => cases h
  | f :: fields =>
    rcases List.mem_append.mp h with h | h
    · exact Field.within_of_mem_postOrder (.head _) h
    · cases within_of_mem_postOrderAll h with
      | here h => exact .here (.tail _ h)
      | inside h below => exact .inside (.tail _ h) below

end

/-- The post-order lists the fields on every level, and nothing else. -/
theorem mem_postOrderAll_iff {field : Field} {fields : List Field} :
    field ∈ postOrderAll fields ↔ field.Within fields := by
  refine ⟨within_of_mem_postOrderAll, fun h => ?_⟩
  induction h with
  | here h => exact mem_postOrderAll.mpr ⟨_, h, field.self_mem_postOrder⟩
  | inside h below ih => exact mem_postOrderAll.mpr ⟨_, h, List.mem_append_left _ ih⟩

theorem tooLong?_eq_none_iff {tag : String} {value : List Char} :
    tooLong? tag value = none ↔ byteLength value ≤ 99 := by
  unfold tooLong? maxValue
  split <;> simp [*]

theorem tooLong?_eq_some_iff {tag : String} {value : List Char} {e : Error} :
    tooLong? tag value = some e ↔
      99 < byteLength value ∧ e = .fieldTooLong tag (byteLength value) := by
  unfold tooLong? maxValue
  split
  · rename_i hshort
    exact iff_of_false (Option.some_ne_none _).symm fun h => Nat.not_lt.mpr hshort h.1
  · rename_i hlong
    rw [Option.some.injEq, eq_comm]
    exact ⟨fun he => ⟨Nat.not_le.mp hlong, he⟩, And.right⟩

theorem Field.ownFault?_eq_none_iff {field : Field} : field.ownFault? = none ↔ field.Sound := by
  cases field with
  | text tag value =>
    rw [ownFault?, Sound]
    by_cases ha : isAscii value
    · rw [if_pos ha, tooLong?_eq_none_iff]
      exact ⟨fun h => ⟨ha, h⟩, And.right⟩
    · rw [if_neg ha]
      exact iff_of_false (Option.some_ne_none _) fun h => ha h.1
  | group tag fields => exact tooLong?_eq_none_iff

theorem Field.ownFault?_eq_some_iff {field : Field} {e : Error} :
    field.ownFault? = some e ↔ field.Offends e := by
  constructor
  · intro h
    cases field with
    | text tag value =>
      rw [ownFault?] at h
      split at h
      · rename_i ha
        obtain ⟨hlong, rfl⟩ := tooLong?_eq_some_iff.mp h
        exact .longText ha hlong
      · rename_i ha
        obtain rfl := Option.some.inj h
        exact .notAscii ha
    | group tag fields =>
      obtain ⟨hlong, rfl⟩ := tooLong?_eq_some_iff.mp h
      exact .longGroup hlong
  · intro h
    cases h with
    | notAscii h => exact if_neg h
    | longText ascii h =>
      rw [ownFault?, if_pos ascii]
      exact tooLong?_eq_some_iff.mpr ⟨h, rfl⟩
    | longGroup h => exact tooLong?_eq_some_iff.mpr ⟨h, rfl⟩

theorem firstFault?_eq_none_iff {fields : List Field} :
    firstFault? fields = none ↔ ∀ field : Field, field.Within fields → field.Sound := by
  simp only [firstFault?, List.findSome?_eq_none_iff, Field.ownFault?_eq_none_iff,
    mem_postOrderAll_iff]

theorem firstFault?_eq_some_iff {fields : List Field} {e : Error} :
    firstFault? fields = some e ↔ ∃ before field after,
      postOrderAll fields = before ++ field :: after ∧ field.Offends e ∧
        ∀ f ∈ before, f.Sound := by
  simp only [firstFault?, List.findSome?_eq_some_iff, Field.ownFault?_eq_none_iff,
    Field.ownFault?_eq_some_iff]

/-! ## Piece by piece -/

/-- Puts a tag, a length and a value behind a text, if the value is short enough. -/
def pushRecord (tag value out : String) : String × Option Error :=
  if maxValue < byteLength value.toList then
    (out, some (.fieldTooLong tag (byteLength value.toList)))
  else
    let tagged := out ++ tag
    let measured := tagged ++ .ofList (padded 2 (byteLength value.toList))
    (measured ++ value, none)

mutual

/-- Puts the field behind a text. A group gathers its inner fields in an empty text first. -/
def Field.push : Field → String → String × Option Error
  | .text tag value, out =>
    if isAscii value then pushRecord tag value out else (out, some (.nonAscii tag))
  | .group tag fields, out =>
    match pushAll fields "" with
    | (value, none) => pushRecord tag value out
    | (_, some e) => (out, some e)

/-- Puts the fields behind a text one after another and stops at the first that is refused. What has
been put down by then stays in the text. -/
def pushAll : List Field → String → String × Option Error
  | [], out => (out, none)
  | field :: fields, out =>
    match field.push out with
    | (out, none) => pushAll fields out
    | (out, some e) => (out, some e)

end

/-- The text that a run ended with, unless a field was refused. -/
def finished : String × Option Error → Except Error String
  | (out, none) => .ok out
  | (_, some e) => .error e

/-- What stands in the text once the fields in front have been put down, up to the first that is
refused. -/
def writtenBefore (fields : List Field) : List Char :=
  contentAll (fields.takeWhile fun field => (firstFault? [field]).isNone)

theorem writtenBefore_of_none {fields : List Field} (h : firstFault? fields = none) :
    writtenBefore fields = contentAll fields := by
  have hall : fields.takeWhile (fun field => (firstFault? [field]).isNone) = fields := by
    induction fields with
    | nil => rfl
    | cons field fields ih =>
      rw [firstFault?_cons, Option.or_eq_none_iff] at h
      rw [List.takeWhile_cons_of_pos (by rw [h.1]; rfl), ih h.2]
  rw [writtenBefore, hall]

theorem pushRecord_eq (tag value out : String) :
    pushRecord tag value out = match tooLong? tag value.toList with
      | none => (out ++ .ofList (framed tag value.toList), none)
      | some e => (out, some e) := by
  unfold pushRecord tooLong?
  by_cases hshort : byteLength value.toList ≤ maxValue
  · rw [if_neg (Nat.not_lt.mpr hshort), if_pos hshort]
    simp [framed, String.ofList_append, String.append_assoc]
  · rw [if_pos (Nat.not_le.mp hshort), if_neg hshort]

mutual

/-- A field is put down as a whole, or nothing of it is. -/
theorem Field.push_eq (field : Field) (out : String) :
    field.push out = match firstFault? [field] with
      | none => (out ++ .ofList (contentAll [field]), none)
      | some e => (out, some e) := by
  match field with
  | .text tag value =>
    rw [Field.push, firstFault?_text, contentAll, contentAll, List.append_nil]
    split
    · exact pushRecord_eq tag value out
    · rfl
  | .group tag fields =>
    rw [Field.push, pushAll_eq fields, firstFault?_group, contentAll, contentAll, List.append_nil]
    cases hinner : firstFault? fields with
    | none =>
      have hvalue : ("" ++ String.ofList (writtenBefore fields)).toList = contentAll fields := by
        rw [String.empty_append, String.toList_ofList, writtenBefore_of_none hinner]
      dsimp only
      rw [pushRecord_eq, hvalue]
      rfl
    | some e => rfl

/-- A run puts down the fields before the first that is refused, or all of them. -/
theorem pushAll_eq (fields : List Field) (out : String) :
    pushAll fields out = (out ++ .ofList (writtenBefore fields), firstFault? fields) := by
  match fields with
  | [] => simp [pushAll, writtenBefore, contentAll, firstFault?, postOrderAll]
  | field :: fields =>
    rw [pushAll, Field.push_eq field, firstFault?_cons field fields, writtenBefore]
    cases hfield : firstFault? [field] with
    | none =>
      rw [List.takeWhile_cons_of_pos (by rw [hfield]; rfl),
        contentAll_cons field (fields.takeWhile _)]
      dsimp only
      rw [pushAll_eq fields, writtenBefore, String.append_assoc, String.ofList_append]
      rfl
    | some e =>
      rw [List.takeWhile_cons_of_neg (by rw [hfield]; simp)]
      simp [contentAll]

end

/-! ## The two ways to write -/

theorem encodeFields_eq (fields : List Field) :
    encodeFields fields = match firstFault? fields with
      | none => .ok (.ofList (contentAll fields))
      | some e => .error e := by
  rw [encodeFields, writeAll_eq, written]
  cases firstFault? fields <;> rfl

theorem encodeFields_eq_ok_iff {fields : List Field} {s : String} :
    encodeFields fields = .ok s ↔ firstFault? fields = none ∧ s = .ofList (contentAll fields) := by
  rw [encodeFields_eq]
  cases firstFault? fields <;> simp [eq_comm]

theorem encodeFields_eq_error_iff {fields : List Field} {e : Error} :
    encodeFields fields = .error e ↔ firstFault? fields = some e := by
  rw [encodeFields_eq]
  cases firstFault? fields <;> simp

/-- Fields are written by putting them into an empty text. -/
theorem finished_pushAll (fields : List Field) :
    finished (pushAll fields "") = encodeFields fields := by
  rw [pushAll_eq, encodeFields_eq]
  cases h : firstFault? fields with
  | none =>
    rw [finished, writtenBefore_of_none h, String.empty_append]
  | some e => rfl

theorem Field.appendTo_eq_push (field : Field) (out : String) :
    field.appendTo out = field.push out := by
  have hfault : field.postOrder.findSome? ownFault? = firstFault? [field] := by
    rw [firstFault?, postOrderAll, postOrderAll, List.append_nil]
  rw [appendTo, Field.write_eq_written, hfault, written, Field.push_eq, contentAll, contentAll,
    List.append_nil]
  cases firstFault? [field] <;> rfl

/-- **Which fields can be written.** Fields are written if and only if every field on every level is
sound, and then as their contents one after another; otherwise the first field in post-order that is
not sound is reported, with the whole length of what it holds. Writing goes piece by piece into an
empty text, which is dropped when a field is refused. One field goes behind a text as a whole, just
as it is written by itself, or is refused and leaves the text as it was. -/
theorem encodeFields_sound :
    (∀ (fields : List Field) (s : String), encodeFields fields = .ok s ↔
      (∀ field : Field, field.Within fields → field.Sound) ∧ s = .ofList (contentAll fields)) ∧
    (∀ (fields : List Field) (e : Error), encodeFields fields = .error e ↔
      ∃ before field after, postOrderAll fields = before ++ field :: after ∧ field.Offends e ∧
        ∀ f ∈ before, f.Sound) ∧
    (∀ fields : List Field, finished (pushAll fields "") = encodeFields fields) ∧
    ∀ (field : Field) (out : String), field.appendTo out = field.push out ∧
      (∀ s, encodeFields [field] = .ok s → field.push out = (out ++ s, none)) ∧
      ∀ e, encodeFields [field] = .error e → field.push out = (out, some e) := by
  refine ⟨fun fields s => ?_, fun fields e => ?_, finished_pushAll, fun field out =>
    ⟨field.appendTo_eq_push out, fun s h => ?_, fun e h => ?_⟩⟩
  · rw [encodeFields_eq_ok_iff, firstFault?_eq_none_iff]
  · rw [encodeFields_eq_error_iff, firstFault?_eq_some_iff]
  · obtain ⟨hnone, rfl⟩ := encodeFields_eq_ok_iff.mp h
    rw [field.push_eq, hnone]
  · rw [field.push_eq, encodeFields_eq_error_iff.mp h]

/-- Sixty characters. -/
def sixty : String := .ofList (List.replicate 60 'x')

/-- Two sound texts in a group that cannot hold both. -/
def overfull : Field := .group "26" [.text "00" sixty, .text "01" sixty]

/-- The group comes before the text behind it, whose fault is of another kind. -/
theorem encodeFields_sound_overfull :
    encodeFields [.text "00" "01", overfull, .text "59" "ç"] = .error (.fieldTooLong "26" 128) ∧
      overfull.appendTo "000201" = ("000201", some (.fieldTooLong "26" 128)) := by
  obtain ⟨-, hfirst, -, happend⟩ := encodeFields_sound
  have hlength : byteLength (contentAll [.text "00" sixty, .text "01" sixty]) = 128 := by
    decide +kernel
  have hoffends : overfull.Offends (.fieldTooLong "26" 128) :=
    hlength ▸ .longGroup (by rw [hlength]; decide)
  have hsixty : ∀ tag : String, (Field.text tag sixty).Sound := fun _ => by
    rw [Field.Sound]
    decide +kernel
  have hformat : (Field.text "00" "01").Sound := by
    rw [Field.Sound]
    decide +kernel
  have halone : encodeFields [overfull] = .error (.fieldTooLong "26" 128) :=
    (hfirst _ _).mpr ⟨[.text "00" sixty, .text "01" sixty], overfull, [], rfl, hoffends,
      by simp [hsixty]⟩
  refine ⟨(hfirst _ _).mpr ⟨[.text "00" "01", .text "00" sixty, .text "01" sixty], overfull,
    [.text "59" "ç"], rfl, hoffends, by simp [hsixty, hformat]⟩, ?_⟩
  obtain ⟨hpush, -, hrefused⟩ := happend overfull "000201"
  rw [hpush, hrefused _ halone]

end RentBilling.Pix
