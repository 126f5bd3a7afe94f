/-!
# Disk errors

What a file system may answer instead of doing what it is asked.
-/

set_option autoImplicit false

namespace AssetCache.Disk

/-- Why a disk refuses a call. -/
inductive Error where
  | notFound
  | exists_
  | notDirectory
  | isDirectory
  | nameTooLong
  /-- The bytes of a file are no text. -/
  | notText
  /-- Anything else, in the words of the disk. -/
  | other (text : String)
  deriving DecidableEq, Repr

namespace Error

/-- The wording of an error. -/
def message : Error → String
  | notFound => "No such file or directory (os error 2)"
  | exists_ => "File exists (os error 17)"
  | notDirectory => "Not a directory (os error 20)"
  | isDirectory => "Is a directory (os error 21)"
  | nameTooLong => "File name too long (os error 36)"
  | notText => "stream did not contain valid UTF-8"
  | other text => text

end Error

end AssetCache.Disk
