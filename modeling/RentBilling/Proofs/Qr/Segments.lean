import Mathlib.Algebra.BigOperators.Group.List.Basic
import RentBilling.Qr.Segment

/-!
Room for the segments of some data.

Cutting loses nothing and makes no empty segments (`flatMap_bytes_cut`, `bytes_ne_nil_of_mem_cut`),
and merging never makes the segments larger (`totalSize_mergeAll_le`). A segment takes at most 20
bits and another 8 for each of its bytes, so data with at most a 28th of the bits of the largest
version is sure to have a symbol, whatever it is made of (`plan?_isSome`). Nor does merging lose
anything, and no way of packing takes less than ten bits for three bytes, so data that is too long
for that has no symbol (`plan?_eq_none`).
-/

namespace RentBilling.Qr

/-! ## Cutting -/

namespace Segment

namespace Run

/-- The bytes of a run, in order. -/
def bytes : Run → List UInt8
  | empty => []
  | plain _ bytes => bytes.reverse
  | pairs bytes => bytes.reverse
  | halfPair bytes first => bytes.reverse ++ [first]

/-- A run that has begun holds a byte. -/
def Begun : Run → Prop
  | empty => True
  | plain _ bytes => bytes ≠ []
  | pairs bytes => bytes ≠ []
  | halfPair .. => True

theorem begun_begin (b : UInt8) : (begin b).Begun := by
  unfold begin
  split <;> simp [Begun]

theorem bytes_begin (b : UInt8) : (begin b).bytes = [b] := by
  unfold begin
  split <;> rfl

theorem flatMap_bytes_close (run : Run) : run.close.flatMap Segment.bytes = run.bytes := by
  cases run with
  | empty => rfl
  | plain mode bs => simp [close, bytes]
  | pairs bs => simp [close, bytes]
  | halfPair bs first => cases bs <;> simp [close, bytes]

theorem Begun.bytes_ne_nil_of_mem_close {run : Run} (h : run.Begun) :
    ∀ s ∈ run.close, s.bytes ≠ [] := by
  cases run with
  | empty => simp [close]
  | plain mode bs => simpa [close, Begun] using h
  | pairs bs => simpa [close, Begun] using h
  | halfPair bs first => cases bs <;> simp [close]

theorem of_extend? {run run' : Run} {b : UInt8} (h : run.extend? b = some run') :
    run'.Begun ∧ run'.bytes = run.bytes ++ [b] := by
  cases run with
  | empty =>
    obtain rfl := Option.some.inj h
    exact ⟨begun_begin b, bytes_begin b⟩
  | plain mode bs =>
    rw [extend?, Option.ite_none_right_eq_some] at h
    obtain ⟨-, h⟩ := h
    obtain rfl := Option.some.inj h
    exact ⟨List.cons_ne_nil _ _, List.reverse_cons⟩
  | pairs bs =>
    -- Only a byte that can begin a pair goes on with a run of pairs.
    rw [extend?] at h
    cases hk : kindOf b <;> simp only [hk, reduceCtorEq, Option.some.injEq] at h <;>
      exact ⟨h ▸ trivial, h ▸ rfl⟩
  | halfPair bs first =>
    rw [extend?, Option.ite_none_right_eq_some] at h
    obtain ⟨-, h⟩ := h
    obtain rfl := Option.some.inj h
    exact ⟨List.cons_ne_nil _ _, by simp [bytes]⟩

end Run

theorem flatMap_bytes_cutAfter (run : Run) (bs : List UInt8) :
    (cutAfter run bs).flatMap Segment.bytes = run.bytes ++ bs := by
  induction bs generalizing run with
  | nil => rw [cutAfter, run.flatMap_bytes_close, List.append_nil]
  | cons b bs ih =>
    rw [cutAfter]
    cases hext : run.extend? b with
    | some run' =>
      dsimp only
      rw [ih, (Run.of_extend? hext).2, List.append_assoc]
      rfl
    | none =>
      dsimp only
      rw [List.flatMap_append, run.flatMap_bytes_close, ih, Run.bytes_begin]
      rfl

/-- The segments of cut data hold its bytes in their order. -/
theorem flatMap_bytes_cut (bs : List UInt8) : (cut bs).flatMap Segment.bytes = bs :=
  flatMap_bytes_cutAfter .empty bs

theorem bytes_ne_nil_of_mem_cutAfter {run : Run} (h : run.Begun) (bs : List UInt8) :
    ∀ s ∈ cutAfter run bs, s.bytes ≠ [] := by
  induction bs generalizing run with
  | nil => exact h.bytes_ne_nil_of_mem_close
  | cons b bs ih =>
    rw [cutAfter]
    cases hext : run.extend? b with
    | some run' => exact ih (Run.of_extend? hext).1
    | none =>
      exact List.forall_mem_append.mpr ⟨h.bytes_ne_nil_of_mem_close, ih (Run.begun_begin b)⟩

theorem bytes_ne_nil_of_mem_cut {bs : List UInt8} : ∀ s ∈ cut bs, s.bytes ≠ [] := by
  have hbegun : Run.empty.Begun := trivial
  exact bytes_ne_nil_of_mem_cutAfter hbegun bs

/-! ## Sizes -/

variable (g : Version.Group)

theorem lengthBits_le (mode : Mode) : mode.lengthBits g ≤ 16 := by
  cases mode <;> cases g <;> decide

theorem dataBits_le (mode : Mode) (n : Nat) : mode.dataBits n ≤ 8 * n := by
  cases mode <;> simp only [Mode.dataBits] <;> omega

theorem size_le {s : Segment} (h : s.bytes ≠ []) : s.size g ≤ 28 * s.bytes.length := by
  have hlength := lengthBits_le g s.mode
  have hdata := dataBits_le s.mode s.bytes.length
  have hpos := List.length_pos_iff.mpr h
  unfold size
  omega

theorem totalSize_cons (s : Segment) (segments : List Segment) :
    totalSize g (s :: segments) = s.size g + totalSize g segments := rfl

theorem totalSize_le {segments : List Segment} (h : ∀ s ∈ segments, s.bytes ≠ []) :
    totalSize g segments ≤ 28 * (segments.flatMap Segment.bytes).length := by
  induction segments with
  | nil => exact Nat.zero_le _
  | cons s segments ih =>
    rw [List.forall_mem_cons] at h
    have hs := size_le g h.1
    have hrest := ih h.2
    rw [totalSize_cons, List.flatMap_cons, List.length_append]
    omega

/-- Segments are only merged where that costs no more. -/
theorem totalSize_mergeInto_le (s : Segment) (segments : List Segment) :
    totalSize g (mergeInto g s segments) ≤ s.size g + totalSize g segments := by
  induction segments generalizing s with
  | nil => exact Nat.le_refl _
  | cons t segments ih =>
    rw [mergeInto, totalSize_cons]
    split
    · have hmerged := ih (s.merge t)
      omega
    · have hrest := ih t
      rw [totalSize_cons]
      omega

theorem totalSize_mergeAll_le (segments : List Segment) :
    totalSize g (mergeAll g segments) ≤ totalSize g segments := by
  cases segments with
  | nil => exact Nat.le_refl _
  | cons s segments => exact totalSize_mergeInto_le g s segments

/-! ## A version with room -/

variable {g}

theorem mem_all_largest : g.largest ∈ Version.all := by
  cases g <;> decide

/-- A group takes segments whenever its largest version has room for them. -/
theorem fit?_isSome {level : Level} {pieces : List Segment}
    (h : totalSize g (mergeAll g pieces) ≤ g.largest.capacity level) :
    (fit? level pieces g).isSome := by
  unfold fit?
  rw [if_pos h, Option.isSome_map, List.find?_isSome]
  exact ⟨g.largest, mem_all_largest, decide_eq_true h⟩

/-- Data has a symbol if 28 bits for each of its bytes fit into the largest version. -/
theorem plan?_isSome {level : Level} {bs : List UInt8}
    (h : 28 * bs.length ≤ (Version.Group.largest .large).capacity level) :
    (plan? level bs).isSome := by
  have hsize : totalSize .large (mergeAll .large (cut bs)) ≤
      (Version.Group.largest .large).capacity level :=
    calc totalSize .large (mergeAll .large (cut bs))
        ≤ totalSize .large (cut bs) := totalSize_mergeAll_le ..
      _ ≤ 28 * ((cut bs).flatMap Segment.bytes).length := totalSize_le _ bytes_ne_nil_of_mem_cut
      _ = 28 * bs.length := by rw [flatMap_bytes_cut]
      _ ≤ _ := h
  unfold plan?
  rw [List.findSome?_isSome_iff]
  exact ⟨.large, by simp, fit?_isSome hsize⟩

/-! ## No room -/

theorem flatMap_bytes_mergeInto (s : Segment) (segments : List Segment) :
    (mergeInto g s segments).flatMap Segment.bytes =
      s.bytes ++ segments.flatMap Segment.bytes := by
  induction segments generalizing s with
  | nil => rw [mergeInto, List.flatMap_cons]
  | cons t segments ih =>
    rw [mergeInto, List.flatMap_cons]
    split
    · rw [ih, merge, List.append_assoc]
    · rw [List.flatMap_cons, ih]

theorem flatMap_bytes_mergeAll (segments : List Segment) :
    (mergeAll g segments).flatMap Segment.bytes = segments.flatMap Segment.bytes := by
  cases segments with
  | nil => rfl
  | cons s segments => rw [mergeAll, flatMap_bytes_mergeInto, List.flatMap_cons]

/-- Three digits take ten bits, and nothing packs more densely. -/
theorem length_bytes_le_size (s : Segment) : 10 * s.bytes.length ≤ 3 * s.size g := by
  unfold size
  cases s.mode <;> simp only [Mode.dataBits] <;> omega

theorem length_bytes_le_totalSize (segments : List Segment) :
    10 * (segments.flatMap Segment.bytes).length ≤ 3 * totalSize g segments := by
  induction segments with
  | nil => exact Nat.zero_le _
  | cons s segments ih =>
    have hs := length_bytes_le_size (g := g) s
    rw [totalSize_cons, List.flatMap_cons, List.length_append]
    omega

/-- Data has no symbol if ten bits for three of its bytes fit into no version. -/
theorem plan?_eq_none {level : Level} {bs : List UInt8}
    (h : ∀ g : Version.Group, 3 * g.largest.capacity level < 10 * bs.length) :
    plan? level bs = none := by
  unfold plan?
  rw [List.findSome?_eq_none_iff]
  intro g _
  have hsize := length_bytes_le_totalSize (g := g) (mergeAll g (cut bs))
  rw [flatMap_bytes_mergeAll, flatMap_bytes_cut] at hsize
  have hcapacity := h g
  unfold fit?
  rw [if_neg (by omega)]

end Segment

end RentBilling.Qr
