import RentBilling.Json.Reader
import RentBilling.Json.Writer
import RentBilling.Proofs.Numeral.Decimal

/-!
Written values read back.

The reader goes through a written value character by character and ends with that value, on top of
whatever containers were open before (`run_chars`); a number is only known to have ended by what
stands behind it (`Ends`). So the text of any value is read as this value, and nothing is left over
(`read_render`).
-/

namespace RentBilling.Json

open Numeral

namespace State

/-- The state after a run of characters. -/
def run (state : State) (cs : List Char) : Option State := cs.foldlM step state

theorem run_nil (state : State) : state.run [] = some state := rfl

theorem run_cons (state : State) (c : Char) (cs : List Char) :
    state.run (c :: cs) = (state.step c).bind fun next => next.run cs := rfl

theorem run_append (state : State) (as bs : List Char) :
    state.run (as ++ bs) = (state.run as).bind fun next => next.run bs := by
  simp [run, List.foldlM_append]

theorem run_append_of_eq {state next : State} {as : List Char} (h : state.run as = some next)
    (bs : List Char) : state.run (as ++ bs) = next.run bs := by
  rw [run_append, h, Option.bind_some]

theorem run_cons_of_eq {state next : State} {c : Char} (h : state.step c = some next)
    (cs : List Char) : state.run (c :: cs) = next.run cs := by
  rw [run_cons, h, Option.bind_some]

/-! ## Strings -/

variable (role : StringRole) (units : List TextUnit)

theorem step_hex {d n count : Nat} (hd : d < 16) (hcount : count ≠ 3) :
    (string role units (.hex count n)).step (hexDigit d) =
      some (string role units (.hex (count + 1) (16 * n + d))) := by
  simp [step, stepString, hexValue?_hexDigit d hd, hcount]

theorem step_lastHex {d n : Nat} (hd : d < 16) :
    (string role units (.hex 3 n)).step (hexDigit d) =
      some (string role (.ofNat (16 * n + d) :: units) .plain) := by
  simp [step, stepString, hexValue?_hexDigit d hd]

/-- Four digits of an escape give the unit of their number. -/
theorem run_fixedHex {n : Nat} (h : n < 16 ^ 4) :
    (string role units (.hex 0 0)).run (fixedHex hexDigit 4 n) =
      some (string role (.ofNat n :: units) .plain) := by
  have hlt : ∀ m : Nat, m % 16 < 16 := fun m => Nat.mod_lt m (by decide)
  have hsum : 16 * (16 * (16 * (16 * 0 + n / 16 / 16 / 16 % 16) + n / 16 / 16 % 16) + n / 16 % 16) +
      n % 16 = n := by omega
  simp only [fixedHex, List.nil_append, List.cons_append]
  rw [run_cons_of_eq (step_hex role units (hlt _) (by decide)),
    run_cons_of_eq (step_hex role units (hlt _) (by decide)),
    run_cons_of_eq (step_hex role units (hlt _) (by decide)),
    run_cons_of_eq (step_lastHex role units (hlt _)), run_nil, hsum]

/-- A character is read back from how it stands in a string. -/
theorem run_escaped (c : Char) :
    (string role units .plain).run (escaped c) = some (string role (.char c :: units) .plain) := by
  unfold escaped
  split
  · subst c; rfl
  split
  · subst c; rfl
  split
  · subst c; rfl
  split
  · subst c; rfl
  split
  · subst c; rfl
  split
  · subst c; rfl
  split
  · subst c; rfl
  rename_i hquote hbackslash _ _ _ _ _
  split
  · rename_i hcontrol
    have hunit : TextUnit.ofNat c.toNat = .char c := by
      rw [TextUnit.ofNat, if_neg (by omega), Char.ofNat_toNat]
    have hu : (string role units .plain).run ['\\', 'u'] =
        some (string role units (.hex 0 0)) := rfl
    rw [run_append_of_eq hu, run_fixedHex role units (by omega), hunit]
  · rename_i hcontrol
    have hstep : (string role units .plain).step c =
        some (string role (.char c :: units) .plain) := by
      simp [step, stepString, hquote, hbackslash, hcontrol]
    rw [run_cons_of_eq hstep, run_nil]

theorem run_escapedChars (cs : List Char) :
    (string role units .plain).run (cs.flatMap escaped) =
      some (string role (cs.reverse.map .char ++ units) .plain) := by
  induction cs generalizing units with
  | nil => rfl
  | cons c cs ih =>
    rw [List.flatMap_cons, run_append_of_eq (run_escaped role units c), ih]
    simp

theorem joinUnits_chars (after cs : List Char) :
    joinUnits after (cs.map .char) = some (cs.reverse ++ after) := by
  induction cs generalizing after with
  | nil => rfl
  | cons c cs ih =>
    rw [List.map_cons, joinUnits, ih]
    simp

/-- The state after a string: it is a value, or the key that a value has to follow. -/
def afterString (text : Option String) : State :=
  match role with
  | .value stack => after (.string text) stack
  | .key members stack => colon members text stack

theorem endString_eq :
    endString role units = afterString role ((joinUnits [] units).map String.ofList) := by
  cases role <;> rfl

/-- A string is read back once its opening quote has been taken. -/
theorem run_stringChars {state : State} (h : state.step '"' = some (string role [] .plain))
    (text : Option String) : state.run (stringChars text) = some (afterString role text) := by
  cases text with
  | none =>
    have hchars : stringChars none =
        '"' :: (['\\', 'u'] ++ fixedHex hexDigit 4 0xD800) ++ ['"'] := by decide
    have hescape : (string role [] .plain).run ['\\', 'u'] = some (string role [] (.hex 0 0)) := rfl
    have hend : (string role [.ofNat 0xD800] .plain).step '"' = some (afterString role none) := by
      have hstep : (string role [.ofNat 0xD800] .plain).step '"' =
          some (endString role [.ofNat 0xD800]) := rfl
      rw [hstep, endString_eq]
      rfl
    rw [hchars, List.cons_append, run_cons_of_eq h, List.append_assoc, run_append_of_eq hescape,
      run_append_of_eq (run_fixedHex role [] (by decide)), run_cons_of_eq hend, run_nil]
  | some s =>
    have hend : endString role (s.toList.reverse.map .char) = afterString role (some s) := by
      rw [endString_eq, joinUnits_chars, List.reverse_reverse, List.append_nil, Option.map_some,
        String.ofList_toList]
    have hstep : (string role (s.toList.reverse.map .char) .plain).step '"' =
        some (endString role (s.toList.reverse.map .char)) := rfl
    have hchars : stringChars (some s) = '"' :: (s.toList.flatMap escaped ++ ['"']) := rfl
    rw [hchars, run_cons_of_eq h,
      run_append_of_eq (run_escapedChars role [] s.toList), List.append_nil, run_cons_of_eq hstep,
      run_nil, hend]

/-! ## Numbers -/

theorem digits_of_lt {n : Nat} (h : n < 10) : digits n = [n.digitChar] := by
  rw [digits, Nat.toDigits_of_lt_base h]

theorem digits_of_le {n : Nat} (h : 10 ≤ n) :
    digits n = digits (n / 10) ++ [(n % 10).digitChar] := by
  rw [digits, Nat.toDigits_of_base_le (by decide) h]
  rfl

theorem isDigit_digitChar : ∀ n < 10, n.digitChar.isDigit := by decide

theorem digitValue_digitChar : ∀ n < 10, NumberPhase.digitValue n.digitChar = n := by decide

theorem digitChar_ne_zero : ∀ n < 10, 0 < n → n.digitChar ≠ '0' := by decide

variable (stack : List Frame)

/-- A digit begins a number. -/
theorem step_value_digit {c : Char} (h : c.isDigit) (h0 : c ≠ '0') :
    (value stack).step c = some (number (.whole false (NumberPhase.digitValue c)) stack) := by
  have hne : ∀ d : Char, d.isDigit = false → c ≠ d := fun _ hd => ne_of_isDigit h hd
  simp [step, isSpace, beginValue, h, h0, hne ' ' (by decide), hne '\n' (by decide),
    hne '\t' (by decide), hne '\r' (by decide), hne '[' (by decide), hne '\x7b' (by decide),
    hne '"' (by decide), hne '-' (by decide)]

theorem run_digits_of_pos {n : Nat} (h : 0 < n) :
    (value stack).run (digits n) = some (number (.whole false n) stack) := by
  induction n using Nat.strong_induction_on with
  | _ n ih =>
    by_cases hlt : n < 10
    · rw [digits_of_lt hlt, run_cons_of_eq (step_value_digit stack (isDigit_digitChar n hlt)
        (digitChar_ne_zero n hlt h)), digitValue_digitChar n hlt, run_nil]
    · have hlast : n % 10 < 10 := Nat.mod_lt n (by decide)
      have hstep : (number (.whole false (n / 10)) stack).step (n % 10).digitChar =
          some (number (.whole false n) stack) := by
        simp only [step, NumberPhase.step, isDigit_digitChar _ hlast, if_true,
          digitValue_digitChar _ hlast, Nat.div_add_mod]
      rw [digits_of_le (Nat.le_of_not_lt hlt), run_append_of_eq (ih (n / 10) (by omega) (by omega)),
        run_cons_of_eq hstep, run_nil]

/-! ## Values -/

/-- A value has been read up to its end, as far as what stands behind it tells. -/
inductive Ends (v : Json) (stack : List Frame) : State → Prop where
  | after : Ends v stack (after v stack)
  | number {phase : NumberPhase} (hvalue : phase.value? = some v)
    (hend : ∀ c ∈ [',', ']', '\x7d'], phase.step c = none) : Ends v stack (number phase stack)

theorem Ends.step_eq {v : Json} {stack : List Frame} {state : State} (h : Ends v stack state)
    {c : Char} (hc : c ∈ [',', ']', '\x7d']) : state.step c = stepAfter v stack c := by
  cases h with
  | after => rfl
  | number hvalue hend => rw [step, hend c hc, hvalue]; rfl

theorem Ends.result?_eq {v : Json} {state : State} (h : Ends v [] state) :
    state.result? = some (v, false) := by
  cases h with
  | after => rfl
  | number hvalue hend => rw [result?, hvalue]; rfl

theorem run_natural (n : Nat) :
    ∃ state, (value stack).run (digits n) = some state ∧ Ends (.natural n) stack state := by
  rcases Nat.eq_zero_or_pos n with rfl | hpos
  · exact ⟨_, rfl, .number rfl (by simp [NumberPhase.step])⟩
  · exact ⟨_, run_digits_of_pos stack hpos, .number rfl (by simp [NumberPhase.step])⟩

/-- No value begins with a blank or with a bracket that closes. -/
theorem exists_first_char (v : Json) :
    ∃ c cs, chars v = c :: cs ∧ isSpace c = false ∧ c ≠ ']' := by
  cases v with
  | natural n =>
    obtain ⟨c, cs, hcs⟩ := List.exists_cons_of_ne_nil (digits_ne_nil n)
    have hc : c.isDigit := isDigit_of_mem_digits (hcs ▸ List.mem_cons_self)
    have hne : ∀ d : Char, d.isDigit = false → c ≠ d := fun _ hd => ne_of_isDigit hc hd
    refine ⟨c, cs, hcs, ?_, hne ']' (by decide)⟩
    simp [isSpace, hne ' ' (by decide), hne '\n' (by decide), hne '\t' (by decide),
      hne '\r' (by decide)]
  | null => exact ⟨'n', _, rfl, by decide, by decide⟩
  | bool b => cases b <;> exact ⟨_, _, rfl, by decide, by decide⟩
  | otherNumber => exact ⟨'-', _, rfl, by decide, by decide⟩
  | string text => cases text <;> exact ⟨'"', _, rfl, by decide, by decide⟩
  | array items => cases items <;> exact ⟨'[', _, rfl, by decide, by decide⟩
  | object members => cases members <;> exact ⟨'\x7b', _, rfl, by decide, by decide⟩

/-- The first item of an array is read like any value. -/
theorem run_firstItem (v : Json) (rest : List Char) :
    (firstItem stack).run (chars v ++ rest) =
      (value (.array [] :: stack)).run (chars v ++ rest) := by
  obtain ⟨c, cs, hcs, hspace, hclose⟩ := exists_first_char v
  have hstep : (firstItem stack).step c = (value (.array [] :: stack)).step c := by
    simp [step, hspace, hclose]
  rw [hcs, List.cons_append, run_cons, run_cons, hstep]

end State

open State

mutual

/-- A written value is read, whatever containers are open. -/
theorem run_chars (v : Json) (stack : List Frame) :
    ∃ state, (State.value stack).run (chars v) = some state ∧ Ends v stack state := by
  match v with
  | .null => exact ⟨_, rfl, .after⟩
  | .bool true => exact ⟨_, rfl, .after⟩
  | .bool false => exact ⟨_, rfl, .after⟩
  | .natural n => exact run_natural stack n
  | .otherNumber => exact ⟨_, rfl, .number rfl (by simp [NumberPhase.step])⟩
  | .string text =>
    exact ⟨_, run_stringChars (.value stack) rfl text, .after⟩
  | .array [] => exact ⟨_, rfl, .after⟩
  | .array (item :: items) =>
    obtain ⟨state, hrun, hends⟩ := run_chars item (.array [] :: stack)
    have hopen : (State.value stack).step '[' = some (firstItem stack) := rfl
    refine ⟨_, ?_, .after⟩
    have hchars : chars (.array (item :: items)) = '[' :: (chars item ++ restItems items) := rfl
    rw [hchars, run_cons_of_eq hopen, run_firstItem, run_append_of_eq hrun,
      run_restItems items hends]
    rfl
  | .object [] => exact ⟨_, rfl, .after⟩
  | .object ((key, first) :: members) =>
    obtain ⟨state, hrun, hends⟩ := run_chars first (.object [] key :: stack)
    have hopen : (State.value stack).step '\x7b' = some (firstKey stack) := rfl
    have hcolon : (colon [] key stack).step ':' = some (.value (.object [] key :: stack)) := rfl
    refine ⟨_, ?_, .after⟩
    have hchars : chars (.object ((key, first) :: members)) =
        '\x7b' :: (stringChars key ++ ':' :: (chars first ++ restMembers members)) :=
      List.append_assoc ('\x7b' :: stringChars key) (':' :: chars first) (restMembers members)
    rw [hchars, run_cons_of_eq hopen, run_append_of_eq (run_stringChars (.key [] stack) rfl key),
      afterString, run_cons_of_eq hcolon, run_append_of_eq hrun, run_restMembers members hends]
    rfl

/-- The items behind the first ones are read until the array is closed. -/
theorem run_restItems (items : List Json) {v : Json} {sofar : List Json} {stack : List Frame}
    {state : State} (h : Ends v (.array sofar :: stack) state) :
    state.run (restItems items) = some (after (.array ((v :: sofar).reverse ++ items)) stack) := by
  match items with
  | [] =>
    have hclose : state.step ']' = some (after (.array (v :: sofar).reverse) stack) :=
      h.step_eq (by decide)
    have hchars : restItems [] = [']'] := rfl
    rw [hchars, run_cons_of_eq hclose, run_nil, List.append_nil]
  | item :: items =>
    have hcomma : state.step ',' = some (.value (.array (v :: sofar) :: stack)) :=
      h.step_eq (by decide)
    obtain ⟨next, hrun, hends⟩ := run_chars item (.array (v :: sofar) :: stack)
    have hchars : restItems (item :: items) = ',' :: (chars item ++ restItems items) := rfl
    rw [hchars, run_cons_of_eq hcomma, run_append_of_eq hrun, run_restItems items hends]
    simp

/-- The members behind the first ones are read until the object is closed. -/
theorem run_restMembers (members : List (Option String × Json)) {v : Json} {key : Option String}
    {sofar : List (Option String × Json)} {stack : List Frame} {state : State}
    (h : Ends v (.object sofar key :: stack) state) :
    state.run (restMembers members) =
      some (after (.object (((key, v) :: sofar).reverse ++ members)) stack) := by
  match members with
  | [] =>
    have hclose : state.step '\x7d' = some (after (.object ((key, v) :: sofar).reverse) stack) :=
      h.step_eq (by decide)
    have hchars : restMembers [] = ['\x7d'] := rfl
    rw [hchars, run_cons_of_eq hclose, run_nil, List.append_nil]
  | (name, item) :: members =>
    have hcomma : state.step ',' = some (nextKey ((key, v) :: sofar) stack) :=
      h.step_eq (by decide)
    have hcolon : (colon ((key, v) :: sofar) name stack).step ':' =
        some (.value (.object ((key, v) :: sofar) name :: stack)) := rfl
    obtain ⟨next, hrun, hends⟩ := run_chars item (.object ((key, v) :: sofar) name :: stack)
    have hchars : restMembers ((name, item) :: members) =
        ',' :: (stringChars name ++ ':' :: (chars item ++ restMembers members)) :=
      List.append_assoc (',' :: stringChars name) (':' :: chars item) (restMembers members)
    rw [hchars, run_cons_of_eq hcomma,
      run_append_of_eq (run_stringChars (.key ((key, v) :: sofar) stack) rfl name), afterString,
      run_cons_of_eq hcolon, run_append_of_eq hrun, run_restMembers members hends]
    simp

end

/-- **Written values read back.** The text of a value is read as that value, to its end. -/
theorem read_render (v : Json) : read v.render = some (v, false) := by
  obtain ⟨state, hrun, hends⟩ := run_chars v []
  have hfold : (chars v).foldlM State.step (.value []) = some state := hrun
  rw [read, render, String.toList_ofList, readChars, hfold, Option.bind_some, hends.result?_eq]

end RentBilling.Json
