import Mathlib.Logic.Function.Basic
import AssetCache.Proofs.Json.Grammar

/-!
# How manifests are recorded

Of the many texts that are read as one manifest exactly one is written: the object of its keys in
ascending order, each once (`record_is_canonical`). A text that was written by someone else may
order its members otherwise, repeat names, escape what need not be escaped and leave blanks; once it
is read, what is recorded for it is that one text.
-/

set_option autoImplicit false

namespace AssetCache.Manifest

open Json

/-- What is recorded is the flat object of the keys with their hashes. -/
theorem objectText_toBytes (manifest : Manifest) :
    ObjectText manifest.entries manifest.toBytes := by
  have hbytes : manifest.toBytes = Bytes.ofChars (manifest.toJson).chars := Bytes.ofText_ofList _
  rw [hbytes]
  exact objectText_of_pairs manifest.entries

theorem toBytes_injective : Function.Injective toBytes := by
  intro left right h
  have hread : ofBytes left.toBytes = .ok right := h ▸ ofBytes_toBytes right
  rw [ofBytes_toBytes] at hread
  cases hread
  rfl

/-- A text records a manifest if it spells an object and the manifest holds the last hash of each
name in it. -/
theorem ofBytes_eq_ok_iff {text : Bytes} {manifest : Manifest} :
    ofBytes text = .ok manifest ↔ ∃ members, ObjectText members text ∧
      ∀ key, manifest.hash? key = lookupEntry key members.reverse := by
  refine decode_textTable_iff.trans (exists_congr fun members => and_congr_right fun _ => ?_)
  constructor
  · rintro rfl key
    exact Table.get?_ofList members key
  · intro h
    apply Table.ext_get?
    intro key
    rw [Table.get?_ofList]
    exact h key

/-- A manifest is read back from its record, no two manifests have the same one, and whatever text
is read as a manifest, the record made of that is read and written again unchanged. -/
theorem record_is_canonical :
    (∀ manifest : Manifest, ofBytes manifest.toBytes = .ok manifest ∧
      ObjectText manifest.entries manifest.toBytes) ∧
    Function.Injective toBytes ∧
    (∀ (text : Bytes) (manifest : Manifest), ofBytes text = .ok manifest ↔
      ∃ members, ObjectText members text ∧
        ∀ key, manifest.hash? key = lookupEntry key members.reverse) ∧
    ∀ (text : Bytes) (manifest : Manifest), ofBytes text = .ok manifest →
      ∃ again, ofBytes manifest.toBytes = .ok again ∧ again = manifest ∧
        again.toBytes = manifest.toBytes := by
  refine ⟨?_, toBytes_injective, ?_, ?_⟩
  · intro manifest
    exact ⟨ofBytes_toBytes manifest, objectText_toBytes manifest⟩
  · intro text manifest
    exact ofBytes_eq_ok_iff
  · intro text manifest _
    exact ⟨manifest, ofBytes_toBytes manifest, rfl, rfl⟩

/-- A name that is repeated, a name and a hash that are escaped, members out of order and blanks:
none of it is left in the record. -/
theorem record_is_canonical_of_escapes :
    let text := Bytes.ofText
      "\x7b \"b\":\"2\", \"\\u0061\":\"1\" ,\"b\":\"\\uD83D\\ude00\\n\"\x7d\n"
    let manifest : Manifest := (Table.empty.insert "a" "1").insert "b" "😀\n"
    ofBytes text = .ok manifest ∧
      manifest.toBytes = Bytes.ofText "\x7b\"a\":\"1\",\"b\":\"😀\\n\"\x7d" ∧
      ∃ again, ofBytes manifest.toBytes = .ok again ∧ again = manifest ∧
        again.toBytes = manifest.toBytes := by
  intro text manifest
  have hname : Quoted "a" (Bytes.ofText "\"\\u0061\"") := by
    have hletter : Hex (Bytes.ofText "0061") (((0 * 16 + 0) * 16 + 6) * 16 + 1) :=
      Hex.digits rfl rfl rfl rfl
    exact ⟨Bytes.ofText "\\u0061", .escape (.unit hletter (by decide)) .nil, by decide⟩
  have hhash : Quoted "😀\n" (Bytes.ofText "\"\\uD83D\\ude00\\n\"") := by
    have hhigh : Hex (Bytes.ofText "D83D") (((13 * 16 + 8) * 16 + 3) * 16 + 13) :=
      Hex.digits rfl rfl rfl rfl
    have hlow : Hex (Bytes.ofText "de00") (((13 * 16 + 14) * 16 + 0) * 16 + 0) :=
      Hex.digits rfl rfl rfl rfl
    have hfeed : EscapeOf [0x0a] (Bytes.ofText "n") := .letter rfl
    exact ⟨Bytes.ofText "\\uD83D\\ude00\\n",
      .escape (.pair hhigh (by decide) hlow (by decide)) (.escape hfeed .nil), by decide⟩
  have hread : ofBytes text = .ok manifest := by
    have hnone : Blanks [] := blanks_nil
    have hfirst : Separator true [0x20] := show Blanks [0x20] by decide
    have hsecond : Separator false [0x2c, 0x20] := ⟨[], [0x20], hnone, by decide, rfl⟩
    have hthird : Separator false [0x20, 0x2c] := ⟨[0x20], [], by decide, hnone, rfl⟩
    have hmembers := Members.another hfirst (quoted_of_text "b") hnone hnone (quoted_of_text "2")
      (.another hsecond hname hnone hnone (quoted_of_text "1")
        (.another hthird (quoted_of_text "b") hnone hnone hhash (.closed hnone)))
    refine decode_textTable_iff.mpr ⟨_, ⟨[], _, [0x0a], hnone, hmembers, ?_, ?_⟩, ?_⟩
    · decide
    · decide
    · decide
  exact ⟨hread, by decide, record_is_canonical.2.2.2 text manifest hread⟩

end AssetCache.Manifest
