import AssetCache.Toml.Document

/-!
# Taking TOML values apart

A record is given as a table, or as the array of its fields in the order in which
they are declared; tables under double brackets are such an array. Keys and
elements that are not asked for do not matter.
-/

set_option autoImplicit false

namespace AssetCache.Toml.Value

/-- The fields of a record by their names: each value, if there is one. -/
def fields? (names : List String) : Value → Option (String → Option Value)
  | .table _ members => some fun name => Members.find? members name
  | .array items => some fun name => (names.zip items).lookup name
  | .tables last before =>
    let items := (last :: before).reverse.map (Value.table .header)
    some fun name => (names.zip items).lookup name
  | .text _ => none
  | .scalar => none

/-- The text of a field that may be missing. -/
def textOr (default : String) : Option Value → Option String
  | none => some default
  | some (.text s) => some s
  | some _ => none

/-- The text of a field that must be there. -/
def text? : Option Value → Option String
  | some (.text s) => some s
  | _ => none

end AssetCache.Toml.Value
