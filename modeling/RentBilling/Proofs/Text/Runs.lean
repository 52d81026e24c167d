import Mathlib.Data.List.TakeWhile

/-!
Runs of elements of one kind at the front of a list.

If what follows a run is empty or begins with an element of another kind, the run is what is taken
off the front (`takeWhile_append_of_stop`), and a list falls into a run and a rest in one way only
(`append_inj_of_stop`).
-/

namespace RentBilling.Text

variable {α : Type} {p : α → Bool} {as bs xs ys : List α}

theorem takeWhile_append_of_stop (has : ∀ a ∈ as, p a) (hxs : ∀ x ∈ xs.head?, p x = false) :
    (as ++ xs).takeWhile p = as := by
  have hnil : xs.takeWhile p = [] := by
    cases xs with
    | nil => rfl
    | cons x xs => exact List.takeWhile_cons_of_neg (by simp [hxs x rfl])
  rw [List.takeWhile_append_of_pos has, hnil, List.append_nil]

theorem dropWhile_append_of_stop (has : ∀ a ∈ as, p a) (hxs : ∀ x ∈ xs.head?, p x = false) :
    (as ++ xs).dropWhile p = xs := by
  have hwhole : (as ++ xs).takeWhile p ++ (as ++ xs).dropWhile p = as ++ xs :=
    List.takeWhile_append_dropWhile
  rw [takeWhile_append_of_stop has hxs] at hwhole
  exact List.append_cancel_left hwhole

theorem append_inj_of_stop (has : ∀ a ∈ as, p a) (hxs : ∀ x ∈ xs.head?, p x = false)
    (hbs : ∀ b ∈ bs, p b) (hys : ∀ y ∈ ys.head?, p y = false) (h : as ++ xs = bs ++ ys) :
    as = bs ∧ xs = ys := by
  constructor
  · rw [← takeWhile_append_of_stop has hxs, h, takeWhile_append_of_stop hbs hys]
  · rw [← dropWhile_append_of_stop has hxs, h, dropWhile_append_of_stop hbs hys]

end RentBilling.Text
