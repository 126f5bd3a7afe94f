import Mathlib.Data.List.Basic
import AssetCache.Proofs.Storage.Names
import AssetCache.Storage.Keyed

/-!
# Names in a key-value store

All regions share one space of names. A region has a name for its marker, and for each
key one for the metadata and one for the body (`NameOf`). Base64 has no colon among its
digits, so a name tells its region and its key: no two regions have a name in common
(`NameOf.region_unique`), and behind the start of a region's metadata only its own keys
are found (`decodedBehind?_metadataName`).

Nothing is assumed of the names of regions and keys. They may be empty or hold colons.
-/

set_option autoImplicit false

namespace AssetCache

namespace Text.Base64Url

theorem digit_ne_colon : ∀ n : Nat, n < 64 → digit n ≠ ':' := by
  decide

theorem colon_notMem_encode (text : String) : ':' ∉ (encode text).toList := by
  intro hmem
  rw [encode, String.toList_ofList] at hmem
  obtain ⟨n, hn, heq⟩ := exists_digit_of_mem hmem
  exact digit_ne_colon n hn heq.symm

/-- Two forms with a colon behind each can be told apart, whatever forms come after. -/
theorem encode_colon_inj {left right : String} {rest : List Char} {last : String}
    (h : (encode left).toList ++ ':' :: rest =
      (encode right).toList ++ ':' :: (encode last).toList) :
    left = right ∧ rest = (encode last).toList := by
  obtain ⟨hfirst, _, hrest⟩ := (List.append_cons_inj_of_notMem (colon_notMem_encode right)
    (colon_notMem_encode last)).mp h.symm
  exact ⟨(encode_injective (String.toList_injective hfirst)).symm, hrest.symm⟩

end Text.Base64Url

namespace Storage.Keyed

open Text.Base64Url (encode decode? decode?_encode encode_injective encode_colon_inj)

variable {region other key : String}

/-! ## The three kinds of names -/

theorem toList_markerName (region : String) :
    (markerName region).toList = "region:".toList ++ (encode region).toList :=
  String.toList_append

theorem toList_metadataStart (region : String) :
    (metadataStart region).toList = "meta:".toList ++ ((encode region).toList ++ [':']) := by
  rw [metadataStart, String.toList_append, String.toList_append, List.append_assoc]
  rfl

theorem toList_metadataName (region key : String) :
    (metadataName region key).toList =
      "meta:".toList ++ ((encode region).toList ++ ':' :: (encode key).toList) := by
  rw [metadataName, String.toList_append, toList_metadataStart, List.append_assoc,
    List.append_assoc]
  rfl

theorem toList_bodyName (region key : String) :
    (bodyName region key).toList =
      "body:".toList ++ ((encode region).toList ++ ':' :: (encode key).toList) := by
  rw [bodyName, String.toList_append, String.toList_append, String.toList_append]
  simp

theorem head?_markerName (region : String) : (markerName region).toList.head? = some 'r' := by
  rw [toList_markerName]
  rfl

theorem head?_metadataName (region key : String) :
    (metadataName region key).toList.head? = some 'm' := by
  rw [toList_metadataName]
  rfl

theorem head?_bodyName (region key : String) :
    (bodyName region key).toList.head? = some 'b' := by
  rw [toList_bodyName]
  rfl

/-- Names that begin differently are different. -/
theorem ne_of_head? {left right : String} {c d : Char} (hleft : left.toList.head? = some c)
    (hright : right.toList.head? = some d) (hne : c ≠ d) : left ≠ right := by
  rintro rfl
  exact hne (Option.some.inj (hleft.symm.trans hright))

@[simp] theorem markerName_ne_metadataName : markerName region ≠ metadataName other key :=
  ne_of_head? (head?_markerName _) (head?_metadataName _ _) (by decide)

@[simp] theorem markerName_ne_bodyName : markerName region ≠ bodyName other key :=
  ne_of_head? (head?_markerName _) (head?_bodyName _ _) (by decide)

@[simp] theorem metadataName_ne_bodyName {key' : String} :
    metadataName region key ≠ bodyName other key' :=
  ne_of_head? (head?_metadataName _ _) (head?_bodyName _ _) (by decide)

@[simp] theorem markerName_inj : markerName region = markerName other ↔ region = other := by
  refine ⟨fun h => ?_, fun h => h ▸ rfl⟩
  exact encode_injective ((String.append_right_inj _).mp h)

@[simp] theorem metadataName_inj {key' : String} :
    metadataName region key = metadataName other key' ↔ region = other ∧ key = key' := by
  constructor
  · intro h
    have hchars := congrArg String.toList h
    rw [toList_metadataName, toList_metadataName, List.append_cancel_left_eq] at hchars
    obtain ⟨hregion, hkey⟩ := encode_colon_inj hchars
    exact ⟨hregion, encode_injective (String.toList_injective hkey)⟩
  · rintro ⟨rfl, rfl⟩
    rfl

@[simp] theorem bodyName_inj {key' : String} :
    bodyName region key = bodyName other key' ↔ region = other ∧ key = key' := by
  constructor
  · intro h
    have hchars := congrArg String.toList h
    rw [toList_bodyName, toList_bodyName, List.append_cancel_left_eq] at hchars
    obtain ⟨hregion, hkey⟩ := encode_colon_inj hchars
    exact ⟨hregion, encode_injective (String.toList_injective hkey)⟩
  · rintro ⟨rfl, rfl⟩
    rfl

/-- A name under which something of a region is kept. -/
inductive NameOf (region : String) : String → Prop
  | marker : NameOf region (markerName region)
  | metadata (key : String) : NameOf region (metadataName region key)
  | body (key : String) : NameOf region (bodyName region key)

/-- No two regions have a name in common. -/
theorem NameOf.region_unique {name : String} (h : NameOf region name) (h' : NameOf other name) :
    region = other := by
  cases h with
  | marker =>
    generalize hname : markerName region = name at h'
    cases h' with
    | marker => exact markerName_inj.mp hname
    | metadata key => exact absurd hname markerName_ne_metadataName
    | body key => exact absurd hname markerName_ne_bodyName
  | metadata key =>
    generalize hname : metadataName region key = name at h'
    cases h' with
    | marker => exact absurd hname.symm markerName_ne_metadataName
    | metadata key' => exact (metadataName_inj.mp hname).1
    | body key' => exact absurd hname metadataName_ne_bodyName
  | body key =>
    generalize hname : bodyName region key = name at h'
    cases h' with
    | marker => exact absurd hname.symm markerName_ne_bodyName
    | metadata key' => exact absurd hname.symm metadataName_ne_bodyName
    | body key' => exact (bodyName_inj.mp hname).1

/-! ## Reading names back -/

theorem decodedBehind?_eq_some_iff {start name found : String} :
    decodedBehind? start name = some found ↔
      ∃ rest, start.toList ++ rest = name.toList ∧ decode? (String.ofList rest) = some found := by
  rw [decodedBehind?, Option.bind_eq_some_iff]
  simp only [List.isPrefixOf?_eq_some_iff_append_eq]

/-- The region of a marker is read off its name. -/
theorem decodedBehind?_markerName (region : String) :
    decodedBehind? "region:" (markerName region) = some region := by
  rw [decodedBehind?_eq_some_iff]
  refine ⟨(encode region).toList, (toList_markerName region).symm, ?_⟩
  rw [String.ofList_toList, decode?_encode]

/-- Nothing but a marker gives a region. -/
theorem decodedBehind?_region_of_head? {name : String} {c : Char}
    (hhead : name.toList.head? = some c) (hne : c ≠ 'r') :
    decodedBehind? "region:" name = none := by
  rw [Option.eq_none_iff_forall_ne_some]
  intro found hfound
  obtain ⟨rest, hname, _⟩ := decodedBehind?_eq_some_iff.mp hfound
  rw [← hname] at hhead
  exact hne (Option.some.inj hhead).symm

/-- Behind the start of a region's metadata only a key of that region is found. -/
theorem decodedBehind?_metadataName {found : String} :
    decodedBehind? (metadataStart region) (metadataName other key) = some found ↔
      region = other ∧ key = found := by
  rw [decodedBehind?_eq_some_iff]
  constructor
  · rintro ⟨rest, hname, hfound⟩
    rw [toList_metadataStart, toList_metadataName, List.append_assoc, List.append_assoc,
      List.append_cancel_left_eq] at hname
    obtain ⟨hregion, rfl⟩ := encode_colon_inj hname
    rw [String.ofList_toList, decode?_encode] at hfound
    exact ⟨hregion, Option.some.inj hfound⟩
  · rintro ⟨rfl, rfl⟩
    refine ⟨(encode key).toList, ?_, ?_⟩
    · rw [metadataName, String.toList_append]
    · rw [String.ofList_toList, decode?_encode]

/-- No other name gives a key. -/
theorem decodedBehind?_metadata_of_head? {name : String} {c : Char}
    (hhead : name.toList.head? = some c) (hne : c ≠ 'm') :
    decodedBehind? (metadataStart region) name = none := by
  rw [Option.eq_none_iff_forall_ne_some]
  intro found hfound
  obtain ⟨rest, hname, _⟩ := decodedBehind?_eq_some_iff.mp hfound
  rw [← hname, toList_metadataStart] at hhead
  exact hne (Option.some.inj hhead).symm

end Storage.Keyed

end AssetCache
