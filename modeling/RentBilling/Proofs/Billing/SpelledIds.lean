import RentBilling.Proofs.Billing.Identifiers
import RentBilling.Proofs.ItemId.Canonical

/-!
Identifiers of items and amounts that were read from texts.

Texts with the same digits are read as one identifier, so a template is refused for two items whose
texts have them, and an amount is found under any text that has those of its own. How the texts are
spelled makes no difference to either (`ids_are_their_digits`).
-/

namespace RentBilling

open ItemId

/-! ## Items -/

namespace TemplateItem

variable {item item' : TemplateItem} {s? t? : Option String}

/-- The identifier of the item was read from this text. Without a text it has none. -/
def ReadFrom (item : TemplateItem) (text? : Option String) : Prop :=
  text?.map ofText = item.id.map .ok

theorem ReadFrom.exists_text (h : item.ReadFrom s?) {id : ItemId} (hid : item.id = some id) :
    ∃ s, s? = some s ∧ ofText s = .ok id := by
  unfold ReadFrom at h
  rw [hid] at h
  exact Option.map_eq_some_iff.mp h

theorem ReadFrom.exists_id {s : String} (h : item.ReadFrom (some s)) :
    ∃ id, item.id = some id ∧ ofText s = .ok id := by
  obtain ⟨id, hid, hs⟩ := Option.map_eq_some_iff.mp (Eq.symm h)
  exact ⟨id, hid, hs.symm⟩

/-- Items clash if their texts have the same digits. -/
theorem clash_iff_sameDigits (hs : item.ReadFrom s?) (ht : item'.ReadFrom t?) :
    item.Clash item' ↔ ∃ s t, s? = some s ∧ t? = some t ∧ SameDigits s t := by
  constructor
  · intro ⟨id, hid, hid'⟩
    obtain ⟨s, hs?, hs⟩ := hs.exists_text hid
    obtain ⟨t, ht?, ht⟩ := ht.exists_text hid'
    exact ⟨s, t, hs?, ht?, (ofText_eq_iff_sameDigits hs ht).mp rfl⟩
  · intro ⟨s, t, hs?, ht?, hsame⟩
    subst hs? ht?
    obtain ⟨a, ha, hs⟩ := hs.exists_id
    obtain ⟨b, hb, ht⟩ := ht.exists_id
    obtain rfl := (ofText_eq_iff_sameDigits hs ht).mpr hsame
    exact ⟨a, ha, hb⟩

end TemplateItem

/-- Items are refused if the texts of two of them have the same digits. -/
theorem Template.of?_refused_iff_sameDigits {name : String}
    {named : List (Option String × TemplateItem)} (h : ∀ n ∈ named, n.2.ReadFrom n.1) :
    (∃ e, of? name (named.map Prod.snd) = .error e) ↔
      ∃ n n' s t, [n, n'].Sublist named ∧ n.1 = some s ∧ n'.1 = some t ∧ SameDigits s t := by
  rw [of?_refused_iff, ClashFree, List.pairwise_map, List.pairwise_iff_forall_sublist]
  simp only [not_forall, Classical.not_not, exists_prop]
  refine exists₂_congr fun n n' => ?_
  constructor
  · rintro ⟨hsub, hclash⟩
    obtain ⟨s, t, hs, ht, hsame⟩ := (TemplateItem.clash_iff_sameDigits
      (h n (hsub.subset (.head _))) (h n' (hsub.subset (.tail _ (.head _))))).mp hclash
    exact ⟨s, t, hsub, hs, ht, hsame⟩
  · rintro ⟨s, t, hsub, hs, ht, hsame⟩
    exact ⟨hsub, (TemplateItem.clash_iff_sameDigits (h n (hsub.subset (.head _)))
      (h n' (hsub.subset (.tail _ (.head _))))).mpr ⟨s, t, hs, ht, hsame⟩⟩

/-! ## Amounts -/

/-- An amount given under some text is found under every text with the same digits. The last one
given counts. -/
theorem Overrides.find?_eq_some_iff_sameDigits {given : List (String × ItemId × Centavos)}
    (h : ∀ g ∈ given, ofText g.1 = .ok g.2.1) {text : String} {id : ItemId}
    (htext : ofText text = .ok id) {amount : Centavos} :
    (ofPairs (given.map Prod.snd)).find? id = some amount ↔ ∃ before g after,
      given = before ++ g :: after ∧ SameDigits g.1 text ∧ g.2.2 = amount ∧
        ∀ later ∈ after, ¬ SameDigits later.1 text := by
  have hsame : ∀ g ∈ given, g.2.1 = id ↔ SameDigits g.1 text := fun g hg =>
    ofText_eq_iff_sameDigits (h g hg) htext
  rw [find?_ofPairs, lastAmount?_eq_some_iff]
  constructor
  · intro ⟨front, back, hgiven, hback⟩
    obtain ⟨before, rest, rfl, rfl, hrest⟩ := List.map_eq_append_iff.mp hgiven
    obtain ⟨g, after, rfl, hg, rfl⟩ := List.map_eq_cons_iff.mp hrest
    refine ⟨before, g, after, rfl, (hsame g (by simp)).mp (by rw [hg]), by rw [hg], ?_⟩
    intro later hlater hdigits
    have hid : later.2.1 = id := (hsame later (by simp [hlater])).mpr hdigits
    exact hback later.2 (List.mem_map_of_mem hlater) hid
  · intro ⟨before, g, after, hgiven, hdigits, hamount, hafter⟩
    subst hgiven
    have hid : g.2.1 = id := (hsame g (by simp)).mpr hdigits
    refine ⟨before.map Prod.snd, after.map Prod.snd, ?_, ?_⟩
    · rw [List.map_append, List.map_cons, ← hid, ← hamount]
    · intro later hlater hid'
      obtain ⟨g', hg', rfl⟩ := List.mem_map.mp hlater
      exact hafter g' hg' ((hsame g' (by simp [hg'])).mp hid')

namespace ItemId

/-- **Identifiers and their digits.** The texts that are read are those that spell 32 digits: bare,
in groups, and these between braces or after the scheme, in either case. An identifier is written
with its digits in lower case and in groups, whatever text it was read from, and is read back from
that. Two texts are read as one identifier if and only if their digits are the same, letter case
apart. Identifiers stand in the order of their written forms. So a template is refused exactly if
two of its items have texts with the same digits, and an amount that was given under one text is
found under every text with its digits, unless one given later replaced it. -/
theorem ids_are_their_digits :
    (∀ id : ItemId, ofText id.text = .ok id) ∧
    (∀ text : String, (∃ id, ofText text = .ok id) ↔ ∃ ds, HasDigits text ds) ∧
    (∀ text ds, HasDigits text ds → ∃ id, ofText text = .ok id ∧
      id.text = .ofList (hyphenated (ds.map Char.toLower))) ∧
    (∀ s t ds es, HasDigits s ds → HasDigits t es →
      (ofText s = ofText t ↔ ds.map Char.toLower = es.map Char.toLower)) ∧
    (∀ a b : ItemId, a < b ↔ a.text < b.text) ∧
    (∀ (name : String) (named : List (Option String × TemplateItem)),
      (∀ n ∈ named, n.2.ReadFrom n.1) →
        ((∃ e, Template.of? name (named.map Prod.snd) = .error e) ↔ ∃ n n' s t,
          [n, n'].Sublist named ∧ n.1 = some s ∧ n'.1 = some t ∧ SameDigits s t)) ∧
    ∀ given : List (String × ItemId × Centavos), (∀ g ∈ given, ofText g.1 = .ok g.2.1) →
      ∀ (text : String) (id : ItemId) (amount : Centavos), ofText text = .ok id →
        ((Overrides.ofPairs (given.map Prod.snd)).find? id = some amount ↔ ∃ before g after,
          given = before ++ g :: after ∧ SameDigits g.1 text ∧ g.2.2 = amount ∧
            ∀ later ∈ after, ¬ SameDigits later.1 text) := by
  refine ⟨ofText_text, fun text => ?_, fun text ds => HasDigits.exists_text, ?_,
    fun a b => lt_iff_text_lt, fun name named => Template.of?_refused_iff_sameDigits,
    fun given h text id amount htext => Overrides.find?_eq_some_iff_sameDigits h htext⟩
  · constructor
    · intro ⟨id, hid⟩
      obtain ⟨ds, hds, -⟩ := ofText_eq_ok_iff.mp hid
      exact ⟨ds, hds⟩
    · intro ⟨ds, hds⟩
      obtain ⟨id, hid, -⟩ := hds.exists_text
      exact ⟨id, hid⟩
  · intro s t ds es hs ht
    obtain ⟨a, ha, -⟩ := hs.exists_text
    obtain ⟨b, hb, -⟩ := ht.exists_text
    rw [ha, hb, Except.ok.injEq, ofText_eq_iff_sameDigits ha hb]
    constructor
    · intro ⟨ds', es', hs', ht', hsame⟩
      rwa [hs.unique hs', ht.unique ht']
    · intro hsame
      exact ⟨ds, es, hs, ht, hsame⟩

/-! ## Ten in two spellings -/

def namedTen : String := "URN:uuid:00000000-0000-0000-0000-00000000000A"

def bareTen : String := "0000000000000000000000000000000a"

/-- Water and light, with identifiers that were read from these two texts. -/
def tenTwice : List (Option String × TemplateItem) :=
  [(some namedTen, ⟨some ⟨10#128⟩, "Agua", ⟨0⟩, .varying, 0⟩),
    (none, ⟨none, "Aluguel", ⟨285000⟩, .fixed, 1⟩),
    (some bareTen, ⟨some ⟨10#128⟩, "Luz", ⟨0⟩, .varying, 2⟩)]

/-- The two items clash, and an amount given under the one text is found under the other. -/
theorem ids_are_their_digits_ten :
    HasDigits namedTen (List.replicate 31 '0' ++ ['A']) ∧
      (∃ id, ofText namedTen = .ok id ∧ id.text = "00000000-0000-0000-0000-00000000000a") ∧
      (∀ n ∈ tenTwice, n.2.ReadFrom n.1) ∧
      (∃ e, Template.of? "Casa" (tenTwice.map Prod.snd) = .error e) ∧
      ofText bareTen = .ok ⟨10#128⟩ ∧
      (Overrides.ofPairs [(⟨10#128⟩, ⟨8000⟩)]).find? ⟨10#128⟩ = some ⟨8000⟩ := by
  obtain ⟨-, -, hwritten, -, -, hclash, hamount⟩ := ids_are_their_digits
  have hnamed : ofText namedTen = .ok ⟨10#128⟩ := by decide +kernel
  have hbare : ofText bareTen = .ok ⟨10#128⟩ := by decide +kernel
  have hdigits : HasDigits namedTen (List.replicate 31 '0' ++ ['A']) :=
    spelledDigits?_eq_some_iff.mp (by decide +kernel)
  have hsame : SameDigits namedTen bareTen := (ofText_eq_iff_sameDigits hnamed hbare).mp rfl
  have hread : ∀ n ∈ tenTwice, n.2.ReadFrom n.1 := by
    intro n hn
    simp only [tenTwice, List.mem_cons, List.not_mem_nil, or_false] at hn
    rcases hn with rfl | rfl | rfl
    · exact congrArg some hnamed
    · rfl
    · exact congrArg some hbare
  refine ⟨hdigits, ?_, hread, ?_, hbare, ?_⟩
  · obtain ⟨id, hid, htext⟩ := hwritten namedTen _ hdigits
    have hten : hyphenated ((List.replicate 31 '0' ++ ['A']).map Char.toLower) =
        "00000000-0000-0000-0000-00000000000a".toList := by decide
    exact ⟨id, hid, by rw [htext, hten, String.ofList_toList]⟩
  · exact (hclash "Casa" tenTwice hread).mpr
      ⟨_, _, namedTen, bareTen, .cons_cons _ (.cons _ (.cons_cons _ .slnil)), rfl, rfl, hsame⟩
  · exact (hamount [(namedTen, ⟨10#128⟩, ⟨8000⟩)] (by simpa using hnamed) bareTen ⟨10#128⟩ ⟨8000⟩
      hbare).mpr ⟨[], _, [], rfl, hsame, rfl, nofun⟩

end ItemId

end RentBilling
