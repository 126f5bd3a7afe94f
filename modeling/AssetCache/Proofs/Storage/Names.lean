import AssetCache.Proofs.Disk.Tree
import AssetCache.Proofs.Text.Utf8
import AssetCache.Storage.Files

/-!
# File names of a storage

Each entry of a storage on a disk has one file for each `Part` of it, named by its key
in URL-safe base64 and an ending. The digits of base64 are of ASCII and no full stops,
so no two keys and parts share a name, no name is that of a staged file, and a key
whose digits are few enough has names that a disk takes.

The empty key has no digits: its files are named by their endings alone.
-/

set_option autoImplicit false

namespace AssetCache.Text.Base64Url

/-! ## Digits -/

theorem exists_digit_of_mem {c : Char} : ∀ {bytes : Bytes}, c ∈ digits bytes →
    ∃ n, n < 64 ∧ c = digit n
  | [], h => by cases h
  | [a], h => by
    have ha := a.toNat_lt
    simp only [digits, List.mem_cons, List.not_mem_nil, or_false] at h
    rcases h with rfl | rfl
    · exact ⟨_, by omega, rfl⟩
    · exact ⟨_, by omega, rfl⟩
  | [a, b], h => by
    have ha := a.toNat_lt
    have hb := b.toNat_lt
    simp only [digits, List.mem_cons, List.not_mem_nil, or_false] at h
    rcases h with rfl | rfl | rfl
    · exact ⟨_, by omega, rfl⟩
    · exact ⟨_, by omega, rfl⟩
    · exact ⟨_, by omega, rfl⟩
  | a :: b :: c :: rest, h => by
    have ha := a.toNat_lt
    have hb := b.toNat_lt
    have hc := c.toNat_lt
    simp only [digits, List.mem_cons] at h
    rcases h with rfl | rfl | rfl | rfl | h
    · exact ⟨_, by omega, rfl⟩
    · exact ⟨_, by omega, rfl⟩
    · exact ⟨_, by omega, rfl⟩
    · exact ⟨_, by omega, rfl⟩
    · exact exists_digit_of_mem h

theorem digit_ascii : ∀ n : Nat, n < 64 → (digit n).toNat < 128 ∧ digit n ≠ '.' := by
  decide

theorem ascii_of_mem_encode {text : String} {c : Char} (h : c ∈ (encode text).toList) :
    c.toNat < 128 ∧ c ≠ '.' := by
  rw [encode, String.toList_ofList] at h
  obtain ⟨n, hn, rfl⟩ := exists_digit_of_mem h
  exact digit_ascii n hn

/-- A base64 form has as many bytes as it has characters. -/
theorem utf8ByteSize_encode (text : String) :
    (encode text).utf8ByteSize = (encode text).length := by
  have hbytes : (Bytes.ofText (encode text)).length = (encode text).toList.length := by
    rw [← Bytes.ofChars_toList]
    exact Bytes.length_ofChars_of_lt fun c hc => (ascii_of_mem_encode hc).1
  rw [← String.length_toList, ← hbytes, Bytes.ofText, Array.length_toList]
  rfl

theorem length_digits : ∀ bytes : Bytes, (digits bytes).length = (4 * bytes.length + 2) / 3
  | [] => rfl
  | [a] => by simp [digits]
  | [a, b] => by simp [digits]
  | a :: b :: c :: rest => by
    rw [digits]
    simp only [List.length_cons, length_digits rest]
    omega

/-- Four digits are written for every three bytes. -/
theorem length_encode (text : String) : (encode text).length = (4 * text.utf8ByteSize + 2) / 3 := by
  rw [encode, String.length_ofList, length_digits, Bytes.ofText, Array.length_toList]
  rfl

theorem encode_empty : encode "" = "" := by decide

theorem encode_ne_empty {text : String} (h : text ≠ "") : encode text ≠ "" := fun heq =>
  h (encode_injective (heq.trans encode_empty.symm))

end AssetCache.Text.Base64Url

namespace AssetCache.Storage.Files

open Disk.Tree (Plain)
open Text.Base64Url (encode decode? decode?_encode encode_injective)

/-! ## Parts -/

/-- A part of an entry, which has a file of its own. -/
inductive Part where
  | metadata
  | body
  deriving DecidableEq

namespace Part

/-- How the names of the files of a part end. -/
def ending : Part → String
  | metadata => metadataEnding
  | body => bodyEnding

/-- What the files of a part hold. -/
def bytes (response : Response) : Part → Bytes
  | metadata => response.metadataBytes
  | body => response.body

end Part

/-- The name of the file of a part. -/
def fileName (part : Part) (key : String) : String := encode key ++ part.ending

/-- The last character of a text that ends so. -/
theorem getLast?_append (front : String) {ending : String} {c : Char}
    (h : ending.toList.getLast? = some c) : (front ++ ending).toList.getLast? = some c := by
  rw [String.toList_append, List.getLast?_append, h]
  rfl

theorem getLast?_fileName (part : Part) (key : String) :
    (fileName part key).toList.getLast? =
      match part with
      | .metadata => some 'n'
      | .body => some 'y' := by
  cases part with
  | metadata => exact getLast?_append (encode key) (by decide)
  | body => exact getLast?_append (encode key) (by decide)

/-- No two parts, of one key or of two, share a file. -/
theorem fileName_injective {part part' : Part} {key key' : String}
    (h : fileName part key = fileName part' key') : part = part' ∧ key = key' := by
  have hpart : part = part' := by
    have hlast := congrArg (fun name => name.toList.getLast?) h
    rw [getLast?_fileName, getLast?_fileName] at hlast
    cases part with
    | metadata =>
      cases part' with
      | metadata => rfl
      | body => cases hlast
    | body =>
      cases part' with
      | metadata => cases hlast
      | body => rfl
  subst hpart
  exact ⟨rfl, encode_injective (String.append_left_inj _ |>.mp h)⟩

theorem getLast?_stagedName (key : String) : (stagedName key).toList.getLast? = some 'p' :=
  getLast?_append _ (by decide)

/-- No part is kept in a staged file. -/
theorem fileName_ne_stagedName (part : Part) (key key' : String) :
    fileName part key ≠ stagedName key' := by
  intro heq
  have hlast := congrArg (fun name => name.toList.getLast?) heq
  rw [getLast?_fileName, getLast?_stagedName] at hlast
  cases part with
  | metadata => cases hlast
  | body => cases hlast

/-! ## Names that a disk takes -/

/-- A text of more than two bytes is neither empty nor all full stops. -/
theorem moves_of_size {name : String} (hlong : 2 < name.utf8ByteSize) :
    Disk.Tree.staysPut name = false ∧ name ≠ ".." := by
  have hne : ∀ other : String, other.utf8ByteSize ≤ 2 → name ≠ other := by
    intro other hother heq
    rw [heq] at hlong
    exact absurd hlong (Nat.not_lt.mpr hother)
  refine ⟨?_, hne ".." (by decide)⟩
  rw [Disk.Tree.staysPut, Bool.or_eq_false_iff]
  exact ⟨beq_false_of_ne (hne "" (by decide)), beq_false_of_ne (hne "." (by decide))⟩

/-- A text is a name if it is longer than two bytes and not too long. -/
theorem plain_of_size {name : String} (hlong : 2 < name.utf8ByteSize)
    (hshort : name.utf8ByteSize ≤ Disk.Tree.maxName) : Plain name :=
  ⟨(moves_of_size hlong).1, (moves_of_size hlong).2, hshort⟩

/-- A region that has a name has a directory. -/
theorem plain_encode {region : String} (hname : region ≠ "")
    (hshort : (encode region).length ≤ Disk.Tree.maxName) : Plain (encode region) := by
  have hdot : ∀ name : String, '.' ∈ name.toList → encode region ≠ name := fun name hmem heq =>
    (Text.Base64Url.ascii_of_mem_encode (heq ▸ hmem)).2 rfl
  refine ⟨?_, hdot ".." (by decide), ?_⟩
  · rw [Disk.Tree.staysPut, Bool.or_eq_false_iff]
    exact ⟨beq_false_of_ne (Text.Base64Url.encode_ne_empty hname),
      beq_false_of_ne (hdot "." (by decide))⟩
  · rw [Text.Base64Url.utf8ByteSize_encode]
    exact hshort

/-- The most digits that a key may have. -/
def maxKey : Nat := 246

theorem utf8ByteSize_fileName (part : Part) (key : String) :
    (fileName part key).utf8ByteSize = (encode key).length + 5 := by
  rw [fileName, String.utf8ByteSize_append, Text.Base64Url.utf8ByteSize_encode]
  cases part with
  | metadata => rfl
  | body => rfl

/-- The name of a staged file is longer than the others of its key. -/
theorem utf8ByteSize_stagedName (key : String) :
    (stagedName key).utf8ByteSize = if key = "" then 14 else (encode key).length + 9 := by
  have hending : (".json.tmp" : String).utf8ByteSize = 9 := by decide
  rw [stagedName]
  by_cases hkey : key = ""
  · subst hkey
    decide
  · rw [if_neg hkey, if_neg (Text.Base64Url.encode_ne_empty hkey), String.utf8ByteSize_append,
      hending, Text.Base64Url.utf8ByteSize_encode]

theorem plain_fileName {key : String} (hshort : (encode key).length ≤ maxKey) (part : Part) :
    Plain (fileName part key) := by
  have hsize := utf8ByteSize_fileName part key
  refine plain_of_size (by omega) ?_
  rw [hsize]
  exact Nat.le_trans (Nat.add_le_add_right hshort 5) (by decide)

theorem plain_stagedName {key : String} (hshort : (encode key).length ≤ maxKey) :
    Plain (stagedName key) := by
  have hsize := utf8ByteSize_stagedName key
  unfold maxKey at hshort
  refine plain_of_size ?_ ?_
  · split at hsize <;> omega
  · rw [hsize]
    unfold Disk.Tree.maxName
    split <;> omega

/-! ## Reading names back -/

theorem dropEnding?_append (front ending : String) :
    dropEnding? ending (front ++ ending) = some front := by
  rw [dropEnding?, String.toList_append, if_pos (by simp)]
  simp

/-- The key of a metadata file is read off its name. -/
theorem keyOfName?_metadata (key : String) : keyOfName? (fileName .metadata key) = some key := by
  rw [keyOfName?, fileName, show Part.ending .metadata = metadataEnding from rfl,
    dropEnding?_append]
  exact decode?_encode key

/-- A name that ends otherwise than that of a metadata file gives no key. -/
theorem keyOfName?_eq_none {name : String} (h : name.toList.getLast? ≠ some 'n') :
    keyOfName? name = none := by
  have hnot : metadataEnding.toList.isSuffixOf name.toList = false := by
    rw [Bool.eq_false_iff]
    intro hsuffix
    obtain ⟨front, hfront⟩ := List.isSuffixOf_iff_suffix.mp hsuffix
    apply h
    rw [← hfront, List.getLast?_append]
    rfl
  rw [keyOfName?, dropEnding?, hnot]
  rfl

/-- The name of a body file gives no key. -/
theorem keyOfName?_body (key : String) : keyOfName? (fileName .body key) = none := by
  apply keyOfName?_eq_none
  rw [getLast?_fileName]
  decide

/-- The name of a staged file gives no key. -/
theorem keyOfName?_staged (key : String) : keyOfName? (stagedName key) = none := by
  apply keyOfName?_eq_none
  rw [getLast?_stagedName]
  decide

end AssetCache.Storage.Files
