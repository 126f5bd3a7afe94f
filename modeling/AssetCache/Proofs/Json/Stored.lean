import AssetCache.Http.Response
import AssetCache.Manifest.Basic
import AssetCache.Proofs.Json.Numerals
import AssetCache.Proofs.Listing

/-!
# What is stored as JSON is read back

A storage keeps two kinds of JSON: the manifest of a build and the metadata of a
response. Each is read back exactly (`Manifest.ofBytes_toBytes`,
`Response.ofMetadata_metadataBytes`), whatever texts the names, hashes and headers are.
-/

set_option autoImplicit false

namespace AssetCache

open Json Json.Reader

namespace Json

/-! ## Tables of texts -/

/-- A table of texts as an object. -/
def textMembers (table : Table String) : List (String × Json) :=
  table.entries.map fun e => (e.1, .str e.2)

/-- What a member does to a table of texts. -/
def textMember (name : String) (table : Table String) : Reader (Table String) := do
  colon
  return table.insert name (← text)

theorem takes_textMember (table : Table String) (name value : String) :
    Takes textMember table (name, .str value) (table.insert name value) := by
  intro rest _
  have hchars : (Json.str value).chars = quoted value := by rw [Json.chars]
  rw [hchars, textMember, read_bind (read_colon _), read_bind (read_text _ _)]
  rfl

theorem takesAll_textMember (pairs : List (String × String)) :
    ∀ table : Table String,
      TakesAll textMember table (pairs.map fun e => (e.1, .str e.2)) (table.insertAll pairs) := by
  induction pairs with
  | nil => intro table; exact .nil table
  | cons pair pairs ih =>
    intro table
    exact .cons (takes_textMember table pair.1 pair.2) (ih (table.insert pair.1 pair.2))

/-- A table of texts is read back. -/
theorem read_textTable (table : Table String) (rest : Bytes) :
    textTable.read (Bytes.ofChars (Json.obj (textMembers table)).chars ++ rest) =
      .ok (table, rest) := by
  have hmembers := read_members (takesAll_textMember table.entries .empty) rest
  have hall : (Table.empty.insertAll table.entries) = table := Table.ofList_entries table
  rw [hall] at hmembers
  rw [ofChars_obj, List.cons_append, List.append_assoc, textTable, read_peek (by decide),
    if_pos rfl, read_bind (read_drop _ _)]
  exact hmembers

end Json

/-! ## Manifests -/

namespace Manifest

/-- The recorded bytes of a manifest are read back as that manifest. -/
theorem ofBytes_toBytes (manifest : Manifest) : ofBytes manifest.toBytes = .ok manifest := by
  have hread := read_textTable manifest []
  rw [List.append_nil] at hread
  have hbytes : manifest.toBytes = Bytes.ofChars (Json.obj (textMembers manifest)).chars :=
    Bytes.ofText_ofList _
  simp only [ofBytes, decode, hbytes, hread]
  rfl

end Manifest

/-! ## Metadata of responses -/

namespace Response

/-- What has been read of metadata: the status and the headers. -/
abbrev MetadataState : Type := Option Nat × Option (Table String)

/-- The fields of metadata. -/
def metadataFields : List (Json.Field MetadataState) :=
  [⟨"status", fun s => s.1.isSome, fun s => return (some (← natUpTo 65535), s.2)⟩,
   ⟨"headers", fun s => s.2.isSome, fun s => return (s.1, some (← textTable))⟩]

theorem takes_status (status : UInt16) (headers : Option (Table String)) :
    Takes (recordMember metadataFields) (none, headers) ("status", .nat status.toNat)
      (some status.toNat, headers) := by
  intro rest hrest
  have hstatus : status.toNat ≤ 65535 := Nat.le_of_lt_succ status.toNat_lt
  show (colon >>= fun _ => natUpTo 65535 >>= fun n => Pure.pure (some n, headers)).read _ = _
  rw [read_bind (read_colon _), read_bind (read_natUpTo hstatus (by decide) hrest)]
  rfl

theorem takes_headers (status : Option Nat) (headers : Table String) :
    Takes (recordMember metadataFields) (status, none) ("headers", .obj (textMembers headers))
      (status, some headers) := by
  intro rest _
  show (colon >>= fun _ => textTable >>= fun table => Pure.pure (status, some table)).read _ = _
  rw [read_bind (read_colon _), read_bind (read_textTable headers rest)]
  rfl

/-- The metadata of a response are read back, and nothing is left. -/
theorem read_metadata (response : Response) :
    metadataReader.read response.metadataBytes = .ok ({ response with body := [] }, []) := by
  have htakes : TakesAll (recordMember metadataFields) (none, none)
      [("status", .nat response.status.toNat), ("headers", .obj (textMembers response.headers))]
      (some response.status.toNat, some response.headers) :=
    .cons (takes_status _ _) (.cons (takes_headers _ _) (.nil _))
  have hfields : (record metadataFields (none, none)).read response.metadataBytes =
      .ok ((some response.status.toNat, some response.headers), []) := by
    have hbytes : response.metadataBytes = Bytes.ofChars response.metadata.chars :=
      Bytes.ofText_ofList _
    rw [hbytes, metadata, ofChars_obj, record, read_peek (by decide), if_pos rfl,
      read_bind (read_drop _ _)]
    exact read_members htakes []
  have hstatus : UInt16.ofNat response.status.toNat = response.status := UInt16.ofNat_toNat
  show (record metadataFields (none, none) >>= fun fields =>
    required fields.1 >>= fun status =>
      Pure.pure (Response.mk (UInt16.ofNat status) (fields.2.getD .empty) [])).read _ = _
  rw [read_bind hfields]
  show Except.ok (Response.mk (UInt16.ofNat response.status.toNat) response.headers [], []) = _
  rw [hstatus]

/-- The stored metadata of a response are read back as the response without its body. -/
theorem ofMetadata_metadataBytes (response : Response) :
    ofMetadata response.metadataBytes = .ok { response with body := [] } := by
  simp only [ofMetadata, decode, read_metadata response]
  rfl

end Response

end AssetCache
