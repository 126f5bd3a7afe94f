/-!
# Letter case

Methods and header names compare without regard to the case of the twenty-six
ASCII letters; all other characters stand only for themselves.
-/

set_option autoImplicit false

namespace AssetCache.Text.Ascii

/-- A text with its ASCII letters in upper case. -/
def upper (text : String) : String := String.ofList (text.toList.map Char.toUpper)

/-- A text with its ASCII letters in lower case. -/
def lower (text : String) : String := String.ofList (text.toList.map Char.toLower)

/-- Whether two texts differ at most in the case of ASCII letters. -/
def same (left right : String) : Bool := lower left == lower right

end AssetCache.Text.Ascii
