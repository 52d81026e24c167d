import RentBilling.Proofs.Pix.Records

/-!
Which fields cannot be written.

Every field of a tree is looked at by itself: a text must be ASCII, and what a field holds must be
short enough once it is written (`Field.ownFault?`). A tree is written exactly if none of its fields
has a fault; otherwise the first fault in post-order, inner fields before their group, is the one
that is reported (`writeAll_eq`).
-/

namespace RentBilling.Pix

open Numeral Text

/-- A value behind its tag and its length, however long it is. -/
def framed (tag : String) (value : List Char) : List Char :=
  tag.toList ++ padded 2 (byteLength value) ++ value

mutual

/-- What a field holds, written without any check. -/
def Field.content : Field → List Char
  | .text _ value => value.toList
  | .group _ fields => contentAll fields

/-- Fields one after another, written without any check. -/
def contentAll : List Field → List Char
  | [] => []
  | field :: fields => framed field.tag field.content ++ contentAll fields

end

mutual

/-- The fields of a tree, each behind the fields in it. -/
def Field.postOrder : Field → List Field
  | .text tag value => [.text tag value]
  | .group tag fields => postOrderAll fields ++ [.group tag fields]

def postOrderAll : List Field → List Field
  | [] => []
  | field :: fields => field.postOrder ++ postOrderAll fields

end

/-- The fault of a value that is too long. -/
def tooLong? (tag : String) (value : List Char) : Option Error :=
  if byteLength value ≤ maxValue then none else some (.fieldTooLong tag (byteLength value))

/-- What is wrong with a field apart from the fields in it. -/
def Field.ownFault? : Field → Option Error
  | .text tag value =>
    if isAscii value then tooLong? tag value.toList else some (.nonAscii tag)
  | .group tag fields => tooLong? tag (contentAll fields)

/-- The first fault among fields and all that is in them. -/
def firstFault? (fields : List Field) : Option Error :=
  (postOrderAll fields).findSome? Field.ownFault?

/-- A fault, or else what is written. -/
def written (fault? : Option Error) (cs : List Char) : Except Error (List Char) :=
  fault?.elim (.ok cs) .error

theorem record_eq_written (tag : String) (value : List Char) :
    record tag value = written (tooLong? tag value) (framed tag value) := by
  unfold record tooLong?
  split <;> rfl

mutual

theorem Field.write_eq_written (field : Field) :
    field.write =
      written (field.postOrder.findSome? Field.ownFault?) (framed field.tag field.content) := by
  match field with
  | .text tag value =>
    rw [Field.write, Field.postOrder, List.findSome?_singleton, Field.ownFault?]
    split
    · exact record_eq_written tag value.toList
    · rfl
  | .group tag fields =>
    rw [Field.write, writeAll_eq fields, firstFault?, Field.postOrder, List.findSome?_append,
      List.findSome?_singleton, Field.ownFault?]
    cases (postOrderAll fields).findSome? Field.ownFault? with
    | none => exact record_eq_written tag (contentAll fields)
    | some e => rfl

/-- **What can be written.** Fields are written one after another unless one of them, or one within
them, has a fault; then the first fault in post-order is reported. -/
theorem writeAll_eq (fields : List Field) :
    writeAll fields = written (firstFault? fields) (contentAll fields) := by
  match fields with
  | [] => rfl
  | field :: fields =>
    rw [writeAll, Field.write_eq_written field, writeAll_eq fields, firstFault?, firstFault?,
      postOrderAll, List.findSome?_append]
    cases field.postOrder.findSome? Field.ownFault? with
    | some e => rfl
    | none =>
      cases (postOrderAll fields).findSome? Field.ownFault? <;> rfl

end

/-! ## Fields in a row -/

theorem firstFault?_append (as bs : List Field) :
    firstFault? (as ++ bs) = (firstFault? as).or (firstFault? bs) := by
  have hpost : postOrderAll (as ++ bs) = postOrderAll as ++ postOrderAll bs := by
    induction as with
    | nil => rfl
    | cons a as ih => rw [List.cons_append, postOrderAll, postOrderAll, ih, List.append_assoc]
  rw [firstFault?, hpost, List.findSome?_append]
  rfl

theorem firstFault?_cons (field : Field) (fields : List Field) :
    firstFault? (field :: fields) = (firstFault? [field]).or (firstFault? fields) :=
  firstFault?_append [field] fields

theorem contentAll_append (as bs : List Field) :
    contentAll (as ++ bs) = contentAll as ++ contentAll bs := by
  induction as with
  | nil => rfl
  | cons a as ih => rw [List.cons_append, contentAll, contentAll, ih, List.append_assoc]

theorem contentAll_cons (field : Field) (fields : List Field) :
    contentAll (field :: fields) = contentAll [field] ++ contentAll fields :=
  contentAll_append [field] fields

theorem firstFault?_text (tag value : String) :
    firstFault? [.text tag value] =
      if isAscii value then tooLong? tag value.toList else some (.nonAscii tag) := by
  rw [firstFault?, postOrderAll, Field.postOrder, postOrderAll, List.append_nil,
    List.findSome?_singleton, Field.ownFault?]

theorem firstFault?_group (tag : String) (fields : List Field) :
    firstFault? [.group tag fields] =
      (firstFault? fields).or (tooLong? tag (contentAll fields)) := by
  rw [firstFault?, postOrderAll, Field.postOrder, postOrderAll, List.append_nil,
    List.findSome?_append, List.findSome?_singleton, Field.ownFault?]
  rfl

/-- The value is ASCII and short enough. -/
def Writable (value : String) : Prop := isAscii value ∧ byteLength value.toList ≤ maxValue

instance (value : String) : Decidable (Writable value) := inferInstanceAs (Decidable (_ ∧ _))

theorem firstFault?_textFields {rs : List Record} (h : ∀ r ∈ rs, Writable r.2) :
    firstFault? (textFields rs) = none := by
  induction rs with
  | nil => rfl
  | cons r rs ih =>
    rw [List.forall_mem_cons] at h
    have hr : firstFault? [.text r.1 r.2] = none := by
      rw [firstFault?_text, if_pos h.1.1]
      exact if_pos h.1.2
    have hcons : textFields (r :: rs) = .text r.1 r.2 :: textFields rs := rfl
    rw [hcons, firstFault?_cons, hr, ih h.2]
    rfl

/-! ## Lengths -/

/-- Behind a tag of two characters, two digits hold the length of a short value. -/
theorem byteLength_framed {tag : String} {value : List Char} (ht : byteLength tag.toList = 2)
    (h : byteLength value ≤ maxValue) : byteLength (framed tag value) = 4 + byteLength value := by
  have hdigits : byteLength (padded 2 (byteLength value)) = 2 := by
    rw [byteLength_eq_length (List.all_eq_true.mpr fun c hc =>
      isAsciiChar_of_isDigit (isDigit_of_mem_padded hc))]
    exact length_padded_of_lt (by decide) (Nat.lt_succ_of_le h)
  rw [framed, byteLength_append, byteLength_append, ht, hdigits]

end RentBilling.Pix
