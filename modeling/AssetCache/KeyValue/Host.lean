import AssetCache.KeyValue.Call
import AssetCache.Table

/-!
# A key-value store as a value

A host with one store, named `default`, in which some kinds of calls may be made
to fail. A call that fails has no effect.
-/

set_option autoImplicit false

namespace AssetCache.KeyValue

/-- The kinds of calls to a host, by the names under which it knows them. -/
inductive Kind where
  | get
  | set
  | delete
  | exists_
  | names
  | open_
  deriving DecidableEq, Repr

namespace Kind

/-- The host's name for a kind of call. -/
def name : Kind → String
  | get => "get"
  | set => "set"
  | delete => "delete"
  | exists_ => "exists"
  | names => "get_keys"
  | open_ => "open"

/-- Every kind of call. -/
def all : List Kind := [get, set, delete, exists_, names, open_]

/-- The kind of a name. -/
def ofName? (text : String) : Option Kind := all.find? fun kind => kind.name == text

end Kind

/-- The kind of a call. -/
def Call.kind : Call → Kind
  | get _ => .get
  | set _ _ => .set
  | delete _ => .delete
  | exists_ _ => .exists_
  | names => .names

/-- A host with its store, and the kinds of calls that fail. -/
structure Host where
  entries : Table Bytes
  failing : List Kind

namespace Host

/-- A host whose store is empty and whose calls do not fail. -/
def empty : Host := ⟨.empty, []⟩

instance : Inhabited Host := ⟨empty⟩

/-- What a host says of a call that fails. -/
def refusal (kind : Kind) : String := "host " ++ kind.name ++ " failed"

/-- The answer to a call that does not fail, and the store after it. -/
def answerEntries : (call : Call) → Table Bytes → call.Value × Table Bytes
  | .get name, entries => (entries.get? name, entries)
  | .set name value, entries => ((), entries.insert name value)
  | .delete name, entries => ((), entries.erase name)
  | .exists_ name, entries => (entries.contains name, entries)
  | .names, entries => (entries.keys, entries)

/-- The answer to a call, and the host after it. -/
def answer (call : Call) (host : Host) : Reply call × Host :=
  if host.failing.contains call.kind then (.error (refusal call.kind), host)
  else
    let (value, entries) := answerEntries call host.entries
    (.ok value, { host with entries })

/-- The name of the one store. -/
def defaultLabel : String := "default"

/-- Open a store by its name. -/
def openStore (host : Host) (label : String) : Except String Unit :=
  if host.failing.contains .open_ then .error (refusal .open_)
  else if label = defaultLabel then .ok ()
  else .error ("no such store: " ++ label)

end Host

end AssetCache.KeyValue
