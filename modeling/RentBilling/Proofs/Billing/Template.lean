import Mathlib.Data.List.Basic
import RentBilling.Billing.Template
import RentBilling.Proofs.Outcome
import RentBilling.Proofs.Text.Blank

/-!
The key of a template.

A new template has no key. Each text that is set then replaces the key, a blank one by none, so that
the last text alone decides (`pixKey_foldl_withPixKey`).
-/

namespace RentBilling.Template

open Text

theorem pixKey_of? {name : String} {items : List TemplateItem} {t : Template}
    (h : of? name items = .ok t) : t.pixKey = none := by
  unfold of? at h
  split at h
  · cases h
  · obtain rfl := Except.ok.inj h
    rfl

theorem pixKey_withPixKey (t : Template) (key : String) :
    (t.withPixKey key).pixKey = trimmed? key := (trimmed?_eq key).symm

theorem pixKey_foldl_withPixKey (t : Template) (keys : List String) :
    (keys.foldl withPixKey t).pixKey = (keys.getLast?.map trimmed?).getD t.pixKey := by
  obtain rfl | ⟨before, key, rfl⟩ := List.eq_nil_or_concat' keys
  · rfl
  · rw [List.foldl_append, List.getLast?_concat]
    exact pixKey_withPixKey _ key

end RentBilling.Template
