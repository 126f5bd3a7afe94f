import AssetCache.Bytes
import AssetCache.Program

/-!
# Calls to a key-value store

A host keeps byte strings under names, in one flat space. Every call may fail, and
then says why.
-/

set_option autoImplicit false

namespace AssetCache.KeyValue

/-- What a key-value store can be asked. -/
inductive Call where
  | get (name : String)
  | set (name : String) (value : Bytes)
  | delete (name : String)
  | exists_ (name : String)
  /-- All names, in no order. -/
  | names
  deriving DecidableEq, Repr

/-- What a call yields when it does not fail. -/
abbrev Call.Value : Call → Type
  | get _ => Option Bytes
  | set _ _ => Unit
  | delete _ => Unit
  | exists_ _ => Bool
  | names => List String

/-- The answer to a call: its value, or why it failed. -/
abbrev Reply (call : Call) : Type := Except String call.Value

/-- The signature of programs that use a key-value store. -/
def signature : Signature := ⟨Call, Reply⟩

/-- Make a call and go on with what it yields. -/
def ask (call : Call) : Attempt signature String call.Value :=
  ExceptT.mk (Program.perform (S := signature) call)

end AssetCache.KeyValue
