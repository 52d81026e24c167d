import RentBilling.Proofs.Pix.Refusals

/-!
What becomes known of a key when its payload is made.

The fault of a key is found from its length and from whether it is ASCII, and so is the length of
the payload (`DifferInKey.firstFault?_eq`, `DifferInKey.byteLength_eq`). The log line of a payload
has this length and nothing else. Whoever sees the log and the errors, but no payload, cannot tell
two keys apart that are alike in these two respects (`encode_hides_key`).
-/

namespace RentBilling.Pix

open Text

/-! ## The log -/

namespace Request

/-- A request that is refused leaves no line in the log. -/
theorem encode_of_error {r : Request} {e : Error} (h : r.encode.result = .error e) :
    r.encode = ⟨[], .error e⟩ := by
  unfold encode at h ⊢
  cases hbody : writeAll r.fields with
  | error e' =>
    rw [hbody] at h
    obtain rfl := Except.error.inj h
    rfl
  | ok body =>
    rw [hbody] at h
    contradiction

/-- The only line in the log is that of the finished payload, with its length. -/
theorem encode_of_ok {r : Request} {p : String} (h : r.encode.result = .ok p) :
    r.encode = ⟨[.payloadEncoded (byteLength p.toList)], .ok p⟩ := by
  unfold encode at h ⊢
  cases hbody : writeAll r.fields with
  | error e =>
    rw [hbody] at h
    contradiction
  | ok body =>
    rw [hbody] at h
    obtain rfl := Except.ok.inj h
    show (⟨[.payloadEncoded (byteLength (close body))], _⟩ : Logged _) = _
    rw [String.toList_ofList]

/-! ## Two keys -/

/-- The requests differ at most in their keys, and these have as many bytes and are both ASCII or
both not. -/
structure DifferInKey (r s : Request) : Prop where
  merchantName : r.merchantName = s.merchantName
  merchantCity : r.merchantCity = s.merchantCity
  amount : r.amount = s.amount
  txid : r.txid = s.txid
  keyLength : byteLength r.pixKey.toList = byteLength s.pixKey.toList
  keyAscii : isAscii r.pixKey = isAscii s.pixKey

namespace DifferInKey

variable {r s : Request}

theorem firstFault?_eq (h : r.DifferInKey s) : firstFault? r.fields = firstFault? s.fields := by
  have hkey : heldFault? "26" "01" 22 r.pixKey = heldFault? "26" "01" 22 s.pixKey := by
    unfold heldFault?
    rw [h.keyAscii, h.keyLength]
  rw [firstFault?_fields, firstFault?_fields, hkey, h.txid]

theorem byteLength_eq (h : r.DifferInKey s) {p p' : String} (hp : r.encode.result = .ok p)
    (hp' : s.encode.result = .ok p') : byteLength p.toList = byteLength p'.toList := by
  have hamount : r.amountLength = s.amountLength := by
    unfold amountLength amountRecords
    rw [h.amount]
  rw [byteLength_of_encode hp, byteLength_of_encode hp', h.keyLength, h.merchantName,
    h.merchantCity, h.txid, hamount]

end DifferInKey

/-- **Keys stay hidden.** Of two requests that differ only in their keys, where the keys have as
many bytes and are both ASCII or both not, either both are refused with the same error and without a
line in the log, or both have payloads, of the same length, and the log has one and the same line
for them. All that this line holds is the length of the payload. -/
theorem encode_hides_key {r s : Request} (h : r.DifferInKey s) :
    ((∃ e, r.encode = ⟨[], .error e⟩ ∧ s.encode = ⟨[], .error e⟩) ∨
      ∃ p p' n, r.encode = ⟨[.payloadEncoded n], .ok p⟩ ∧
        s.encode = ⟨[.payloadEncoded n], .ok p'⟩ ∧ byteLength p.toList = n ∧
        byteLength p'.toList = n) ∧
    ∀ n, (Event.payloadEncoded n).message = "pix payload encoded" ∧
      (Event.payloadEncoded n).fields = [("len", .count n)] := by
  refine ⟨?_, fun n => ⟨rfl, rfl⟩⟩
  have hfault := h.firstFault?_eq
  cases hr : firstFault? r.fields with
  | some e =>
    left
    rw [hr] at hfault
    exact ⟨e, encode_of_error (encode_eq_error_iff.mpr hr),
      encode_of_error (encode_eq_error_iff.mpr hfault.symm)⟩
  | none =>
    right
    rw [hr] at hfault
    have hp : r.encode.result = .ok _ := encode_eq_ok_iff.mpr ⟨hr, rfl⟩
    have hp' : s.encode.result = .ok _ := encode_eq_ok_iff.mpr ⟨hfault.symm, rfl⟩
    have hlength := h.byteLength_eq hp hp'
    refine ⟨_, _, _, encode_of_ok hp, ?_, rfl, hlength.symm⟩
    rw [hlength]
    exact encode_of_ok hp'

/-! ## Keys that differ -/

/-- A request for this key. -/
def keyed (key : String) : Request := ⟨key, "Ana", "Rio", some ⟨295000⟩, defaultTxid⟩

/-- Two keys that have payloads, and two that are refused, one of one character and one of two. -/
theorem encode_hides_key_keyed :
    ((keyed "ana@pix").DifferInKey (keyed "bia@pix") ∧
      ∃ p p' n, (keyed "ana@pix").encode = ⟨[.payloadEncoded n], .ok p⟩ ∧
        (keyed "bia@pix").encode = ⟨[.payloadEncoded n], .ok p'⟩ ∧ p ≠ p') ∧
    (keyed "€").DifferInKey (keyed "çx") ∧
      ∃ e, (keyed "€").encode = ⟨[], .error e⟩ ∧ (keyed "çx").encode = ⟨[], .error e⟩ := by
  have hpayloads : (keyed "ana@pix").DifferInKey (keyed "bia@pix") :=
    ⟨rfl, rfl, rfl, rfl, by decide, by decide⟩
  have hrefused : (keyed "€").DifferInKey (keyed "çx") :=
    ⟨rfl, rfl, rfl, rfl, by decide, by decide⟩
  refine ⟨⟨hpayloads, ?_⟩, hrefused, ?_⟩
  · have hnone : firstFault? (keyed "ana@pix").fields = none := by decide +kernel
    obtain ⟨e, he, -⟩ | ⟨p, p', n, hp, hp', -⟩ := (encode_hides_key hpayloads).1
    · have hsome := encode_eq_error_iff.mp (congrArg Logged.result he)
      rw [hnone] at hsome
      contradiction
    · refine ⟨p, p', n, hp, hp', fun heq => ?_⟩
      subst heq
      have hsame := samePayment_of_encode (congrArg Logged.result hp) (congrArg Logged.result hp')
      exact absurd hsame.pixKey (by decide)
  · have hsome : firstFault? (keyed "€").fields = some (.nonAscii "01") := by decide +kernel
    obtain herror | ⟨p, p', n, hp, -⟩ := (encode_hides_key hrefused).1
    · exact herror
    · have hnone := (encode_eq_ok_iff.mp (congrArg Logged.result hp)).1
      rw [hsome] at hnone
      contradiction

end Request

end RentBilling.Pix
