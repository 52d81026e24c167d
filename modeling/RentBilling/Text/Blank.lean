/-!
Blank characters and trimming.

A text is blank if every character of it is. Trimming drops the blank characters at both ends and
keeps those inside; a trimmed text has nothing left to trim (`trim_trim`).
-/

namespace RentBilling.Text

/-- The characters that stand for white space in any script (Unicode's class `White_Space`). -/
def isBlank (c : Char) : Bool :=
  let n := c.toNat
  (9 ≤ n && n ≤ 13) || n == 0x20 || n == 0x85 || n == 0xA0 || n == 0x1680 ||
    (0x2000 ≤ n && n ≤ 0x200A) || n == 0x2028 || n == 0x2029 || n == 0x202F || n == 0x205F ||
    n == 0x3000

/-! ## Trimming a list of characters -/

/-- Drops the blank characters at the front. -/
def trimFront (cs : List Char) : List Char := cs.dropWhile isBlank

/-- Drops the blank characters at the back. -/
def trimBack (cs : List Char) : List Char := (cs.reverse.dropWhile isBlank).reverse

/-- Drops the blank characters at both ends. -/
def trimChars (cs : List Char) : List Char := trimBack (trimFront cs)

theorem dropWhile_dropWhile {α : Type} (p : α → Bool) (l : List α) :
    (l.dropWhile p).dropWhile p = l.dropWhile p := by
  induction l with
  | nil => rfl
  | cons a l ih =>
    by_cases h : p a
    · simp [h, ih]
    · simp [h]

theorem trimBack_trimBack (cs : List Char) : trimBack (trimBack cs) = trimBack cs := by
  simp [trimBack, dropWhile_dropWhile]

/-- Trimming the back keeps a first character that is not blank. -/
theorem trimBack_cons_of_not_isBlank {c : Char} (h : isBlank c = false) (cs : List Char) :
    trimBack (c :: cs) = c :: trimBack cs := by
  simp only [trimBack, List.reverse_cons]
  rw [List.dropWhile_append]
  split
  · rename_i he
    simp_all
  · simp

/-- What is left once the front is trimmed does not begin with a blank. -/
theorem not_isBlank_of_trimFront {cs r : List Char} {c : Char} (h : trimFront cs = c :: r) :
    isBlank c = false := by
  have hhead := List.head?_dropWhile_not isBlank cs
  rw [trimFront] at h
  simpa [h] using hhead

theorem trimFront_trimChars (cs : List Char) : trimFront (trimChars cs) = trimChars cs := by
  unfold trimChars
  cases h : trimFront cs with
  | nil => rfl
  | cons c r =>
    have hc := not_isBlank_of_trimFront h
    rw [trimBack_cons_of_not_isBlank hc]
    simp [trimFront, hc]

theorem trimChars_trimChars (cs : List Char) : trimChars (trimChars cs) = trimChars cs := by
  rw [trimChars, trimFront_trimChars, trimChars, trimBack_trimBack]

/-- Nothing is trimmed off characters none of which is blank. -/
theorem trimChars_of_not_isBlank {cs : List Char} (h : ∀ c ∈ cs, isBlank c = false) :
    trimChars cs = cs := by
  have hfront : ∀ l : List Char, (∀ c ∈ l, isBlank c = false) → l.dropWhile isBlank = l := by
    intro l hl
    cases l with
    | nil => rfl
    | cons c l => simp [hl c (.head l)]
  rw [trimChars, trimFront, hfront cs h, trimBack,
    hfront cs.reverse fun c hc => h c (List.mem_reverse.mp hc), List.reverse_reverse]

/-! ## Texts -/

/-- The text without the blank characters at its ends. -/
def trim (s : String) : String := .ofList (trimChars s.toList)

/-- No character but blank ones. -/
def isBlankText (s : String) : Bool := s.toList.all isBlank

theorem toList_trim (s : String) : (trim s).toList = trimChars s.toList := by simp [trim]

theorem trim_trim (s : String) : trim (trim s) = trim s := by
  simp [trim, trimChars_trimChars]

end RentBilling.Text
