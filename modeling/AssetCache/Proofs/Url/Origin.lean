import AssetCache.Config

/-!
# A written origin has no slash at its end

The origin of a configuration that was validated is written out as scheme, host and
port, and none of these ends in a slash: a host in brackets ends in a bracket, the
name of a host holds no slash at all, and a port is made of digits. So the trimming
that `Key.urlFor` does changes nothing about it (`trimOrigin_of_checkOrigin`).

The name of a host is the delicate case, for its labels may be written in Punycode.
-/

set_option autoImplicit false

namespace AssetCache.Url

/-! ## Punycode -/

namespace Punycode

/-- Only the code point of a slash stands for one. -/
theorem ofNat_ne_slash {n : Nat} (h : n ≠ 47) : Char.ofNat n ≠ '/' := by
  intro heq
  have hval : (Char.ofNat n).toNat = 47 := congrArg Char.toNat heq
  rw [Char.ofNat] at hval
  by_cases hvalid : n.isValidChar
  · rw [dif_pos hvalid] at hval
    exact h hval
  · rw [dif_neg hvalid] at hval
    cases hval

theorem digitChar_ne_slash (d : Nat) : digitChar d ≠ '/' := by
  rw [digitChar]
  split
  · exact ofNat_ne_slash (by omega)
  · exact ofNat_ne_slash (by omega)

theorem slash_notMem_digits (bias position distance : Nat) :
    '/' ∉ digits bias position distance := by
  fun_induction digits bias position distance with
  | case1 =>
    rw [List.mem_singleton]
    exact fun heq => digitChar_ne_slash _ heq.symm
  | case2 =>
    rename_i ih
    rw [List.mem_cons, not_or]
    exact ⟨fun heq => digitChar_ne_slash _ heq.symm, ih⟩

theorem slash_notMem_step (basic n : Nat) {w : Written} (h : '/' ∉ w.reversed) (c : Char) :
    '/' ∉ (step basic n w c).reversed := by
  rw [step]
  split
  · exact h
  · split
    · rw [List.mem_append, List.mem_reverse, not_or]
      exact ⟨slash_notMem_digits _ _ _, h⟩
    · exact h

theorem slash_notMem_foldl (basic n : Nat) (label : List Char) :
    ∀ {w : Written}, '/' ∉ w.reversed → '/' ∉ (label.foldl (step basic n) w).reversed := by
  induction label with
  | nil => intro w h; exact h
  | cons c rest ih => intro w h; exact ih (slash_notMem_step basic n h c)

theorem slash_notMem_place (label : List Char) (basic : Nat) (codes : List Nat) :
    ∀ (start : Nat) {w : Written}, '/' ∉ w.reversed →
      '/' ∉ (place label basic start w codes).reversed := by
  induction codes with
  | nil => intro start w h; exact h
  | cons n rest ih => intro start w h; exact ih _ (slash_notMem_foldl basic n label h)

/-- Only a slash of the label itself is written. -/
theorem slash_notMem_encode {label : List Char} (h : '/' ∉ label) : '/' ∉ encode label := by
  have hbasic : '/' ∉ label.filter isBasic := fun hmem => h (List.mem_filter.mp hmem).1
  rw [encode, List.mem_append, List.mem_reverse, not_or]
  refine ⟨?_, slash_notMem_place _ _ _ _ List.not_mem_nil⟩
  split
  · exact List.not_mem_nil
  · rw [List.mem_append, not_or, List.mem_singleton]
    exact ⟨hbasic, by decide⟩

end Punycode

/-! ## Hosts -/

namespace DomainName

theorem slash_notMem_labels {name : List Char} (h : '/' ∉ name) :
    ∀ label ∈ labels name, '/' ∉ label := by
  induction name with
  | nil =>
    intro label hlabel
    rw [List.mem_singleton.mp hlabel]
    exact List.not_mem_nil
  | cons c rest ih =>
    rw [List.mem_cons, not_or] at h
    intro label hlabel
    rw [labels] at hlabel
    split at hlabel
    · rw [List.mem_singleton.mp hlabel, List.mem_singleton]
      exact h.1
    next first more hfirst =>
      have hrest : ∀ label ∈ first :: more, '/' ∉ label := hfirst ▸ ih h.2
      split at hlabel
      · rcases List.mem_cons.mp hlabel with rfl | hlabel
        · exact List.not_mem_nil
        · exact hrest label hlabel
      · rcases List.mem_cons.mp hlabel with rfl | hlabel
        · rw [List.mem_cons, not_or]
          exact ⟨h.1, hrest first List.mem_cons_self⟩
        · exact hrest label (List.mem_cons_of_mem _ hlabel)

theorem slash_notMem_labelAscii {label : List Char} (h : '/' ∉ label) :
    '/' ∉ labelAscii label := by
  rw [labelAscii]
  split
  · exact h
  · rw [List.mem_append, not_or]
    exact ⟨by decide, Punycode.slash_notMem_encode h⟩

theorem slash_notMem_join {parts : List (List Char)} (h : ∀ part ∈ parts, '/' ∉ part) :
    '/' ∉ join parts := by
  rw [join]
  induction parts with
  | nil => exact List.not_mem_nil
  | cons part rest ih =>
    have hrest := ih fun p hp => h p (List.mem_cons_of_mem _ hp)
    cases rest with
    | nil =>
      rw [List.intercalate_singleton]
      exact h part List.mem_cons_self
    | cons next more =>
      rw [List.intercalate_cons_cons, List.mem_append, List.mem_append, not_or, not_or,
        List.mem_singleton]
      exact ⟨⟨h part List.mem_cons_self, by decide⟩, hrest⟩

/-- The name of a host holds no slash. -/
theorem slash_notMem_toAscii? {name written : List Char} (h : toAscii? name = some written) :
    '/' ∉ written := by
  rw [toAscii?] at h
  obtain ⟨settled, _, h⟩ := Option.bind_eq_some_iff.mp h
  dsimp only at h
  split at h
  · cases h
  next hforbidden =>
    have hsettled : '/' ∉ settled := fun hmem =>
      hforbidden (List.any_eq_true.mpr ⟨'/', hmem, by decide⟩)
    obtain ⟨texts, _, h⟩ := Option.bind_eq_some_iff.mp h
    split at h
    · cases h
    · rw [← Option.some.inj h]
      refine slash_notMem_join fun part hpart => ?_
      obtain ⟨label, hlabel, rfl⟩ := List.mem_map.mp hpart
      exact slash_notMem_labelAscii (slash_notMem_labels hsettled label hlabel)

end DomainName

namespace Host

open Text (Decimal.chars)

/-- A text that does not end in a slash, and is not empty. -/
def EndsOpen (text : List Char) : Prop := ∃ front last, text = front ++ [last] ∧ last ≠ '/'

theorem EndsOpen.of_notMem {text : List Char} (hne : text ≠ []) (h : '/' ∉ text) :
    EndsOpen text := by
  refine ⟨text.dropLast, text.getLast hne, (List.dropLast_concat_getLast hne).symm, ?_⟩
  exact fun heq => h (heq ▸ List.getLast_mem hne)

theorem EndsOpen.append {text : List Char} (h : EndsOpen text) (front : List Char) :
    EndsOpen (front ++ text) := by
  obtain ⟨more, last, rfl, hlast⟩ := h
  exact ⟨front ++ more, last, (List.append_assoc _ _ _).symm, hlast⟩

theorem endsOpen_chars (n : Nat) : EndsOpen (Decimal.chars n) := by
  refine .of_notMem Nat.toDigits_ne_nil fun hmem => ?_
  have hdigit := Nat.isDigit_of_mem_toDigits (by decide) (by decide) hmem
  cases hdigit

theorem endsOpen_ipv4Chars (n : Nat) : EndsOpen (ipv4Chars n) :=
  ((endsOpen_chars (n % 256)).append ['.']).append _

/-- The written form of a host does not end in a slash. -/
theorem endsOpen_normalize {text host : List Char} (h : normalize text = .ok host) :
    EndsOpen host := by
  unfold normalize at h
  split at h
  · rw [bracketed] at h
    split at h
    · cases h
      exact ⟨_, ']', rfl, by decide⟩
    · cases h
  · rw [named] at h
    split at h
    · cases h
    next name hname =>
      split at h
      · cases h
      next hne =>
        split at h
        · split at h
          · cases h
            exact endsOpen_ipv4Chars _
          · cases h
        · cases h
          obtain ⟨decoded, _, hascii⟩ := Option.bind_eq_some_iff.mp hname
          refine .of_notMem (fun heq => hne ?_) (DomainName.slash_notMem_toAscii? hascii)
          rw [heq]
          rfl

end Host

/-- A chain that ends in a value has a first link that does. -/
theorem exists_ok_of_bind {ε α β : Type} {first : Except ε α} {next : α → Except ε β} {value : β}
    (h : first >>= next = .ok value) : ∃ middle, first = .ok middle ∧ next middle = .ok value := by
  cases first with
  | ok middle => exact ⟨middle, rfl, h⟩
  | error error => cases h

theorem exists_ok_of_map {ε α β : Type} {first : Except ε α} {f : α → β} {value : β}
    (h : first.map f = .ok value) : ∃ middle, first = .ok middle ∧ f middle = value := by
  cases first with
  | ok middle => exact ⟨middle, rfl, Except.ok.inj h⟩
  | error error => cases h

/-- A web address is made of a host in its written form. -/
theorem endsOpen_webAddress {secure : Bool} {text : List Char} {address : WebAddress}
    (h : Address.webAddress secure text = .ok address) : Host.EndsOpen address.originChars := by
  have hhost : Host.EndsOpen address.host := by
    rw [Address.webAddress] at h
    obtain ⟨authority, _, h⟩ := exists_ok_of_bind h
    dsimp only at h
    split at h
    · cases h
    · obtain ⟨host, hnormal, h⟩ := exists_ok_of_bind h
      obtain ⟨port, _, h⟩ := exists_ok_of_bind h
      cases h
      exact Host.endsOpen_normalize hnormal
  rw [WebAddress.originChars]
  cases address.port with
  | none =>
    rw [List.append_nil]
    exact hhost.append _
  | some port =>
    exact ((Host.endsOpen_chars port).append [':']).append _

theorem endsOpen_parse {text : String} {address : WebAddress}
    (h : Address.parse text = .ok (.web address)) : Host.EndsOpen address.originChars := by
  rw [Address.parse] at h
  split at h
  · cases h
  · dsimp only at h
    split at h
    · obtain ⟨read, hread, heq⟩ := exists_ok_of_map h
      cases heq
      exact endsOpen_webAddress hread
    · split at h
      · obtain ⟨read, hread, heq⟩ := exists_ok_of_map h
        cases heq
        exact endsOpen_webAddress hread
      · obtain ⟨_, _, heq⟩ := exists_ok_of_map h
        cases heq

end AssetCache.Url

namespace AssetCache.Config

/-- A written origin is not trimmed. -/
theorem trimOrigin_of_checkOrigin {text origin : String} (h : checkOrigin text = .ok origin) :
    Key.trimOrigin origin = origin.toList := by
  have hends : Url.Host.EndsOpen origin.toList := by
    rw [checkOrigin] at h
    split at h
    · cases h
    · cases h
    next address hparse =>
      split at h
      · cases h
        rw [Url.WebAddress.origin, String.toList_ofList]
        exact Url.endsOpen_parse hparse
      · cases h
  obtain ⟨front, last, horigin, hlast⟩ := hends
  rw [Key.trimOrigin, horigin, List.reverse_append, List.reverse_singleton, List.singleton_append,
    List.dropWhile_cons_of_neg (by simpa using hlast), List.reverse_cons, List.reverse_reverse]

end AssetCache.Config
