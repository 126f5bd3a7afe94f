import AssetCache.Json.Value

/-!
# Log entries

An entry says what happened in which event, at which level, and with which named
values. It is written as one JSON object or as one line for people. In the object
the fixed members come first, then the extra ones in the order of their names,
whatever they are called, and the elapsed time last.
-/

set_option autoImplicit false

namespace AssetCache

/-- What a worker reacts to. -/
inductive Event where
  | install
  | activate
  | fetch
  | message
  deriving DecidableEq, Repr

namespace Event

/-- The name of a kind of event. -/
def name : Event → String
  | install => "install"
  | activate => "activate"
  | fetch => "fetch"
  | message => "message"

/-- Every kind of event. -/
def all : List Event := [install, activate, fetch, message]

/-- The kind of exactly this name. -/
def ofName? (text : String) : Option Event := all.find? fun event => event.name == text

/-- The identifier of an event by its serial number. -/
def identifier (event : Event) (serial : String) : String := event.name ++ "-" ++ serial

end Event

namespace Log

/-- How much an entry matters, in ascending order. -/
inductive Level where
  | trace
  | debug
  | info
  | warn
  | error
  deriving DecidableEq, Repr

namespace Level

/-- The name of a level in lower case. -/
def name : Level → String
  | trace => "trace"
  | debug => "debug"
  | info => "info"
  | warn => "warn"
  | error => "error"

/-- The name of a level in a line for people. -/
def label : Level → String
  | trace => "TRACE"
  | debug => "DEBUG"
  | info => "INFO"
  | warn => "WARN"
  | error => "ERROR"

/-- Every level, ascending. -/
def all : List Level := [trace, debug, info, warn, error]

/-- The level of exactly this name. -/
def ofName? (text : String) : Option Level := all.find? fun level => level.name == text

/-- The place of a level in the order. -/
def rank : Level → Nat
  | trace => 0
  | debug => 1
  | info => 2
  | warn => 3
  | error => 4

end Level

/-- Values under names. -/
abbrev Fields : Type := Table Json

namespace Fields

/-- Add a text. -/
def text (fields : Fields) (name value : String) : Fields := fields.insert name (.str value)

/-- Add a number. -/
def number (fields : Fields) (name : String) (value : Nat) : Fields :=
  fields.insert name (.nat value)

/-- Add a list of texts. -/
def list (fields : Fields) (name : String) (values : List String) : Fields :=
  fields.insert name (.strings values)

end Fields

/-- A log entry. -/
structure Entry where
  level : Level
  message : String
  eventId : String
  event : Event
  /-- The resource that the event is about. -/
  key : Option String
  fields : Fields
  /-- The microseconds since the event began. -/
  elapsed : Option Nat

namespace Entry

/-- The members of an entry as JSON. -/
def members (entry : Entry) : List (String × Json) :=
  [("level", .str entry.level.name), ("message", .str entry.message),
    ("event_id", .str entry.eventId), ("event", .str entry.event.name)] ++
  (match entry.key with
    | some key => [("key", .str key)]
    | none => []) ++
  entry.fields.entries ++
  match entry.elapsed with
  | some n => [("elapsed_us", .nat n)]
  | none => []

/-- An entry as one JSON object. -/
def jsonLine (entry : Entry) : String := (Json.obj entry.members).compact

/-- A field in a line for people. -/
def fieldText (field : String × Json) : String := field.1 ++ "=" ++ field.2.compact

/-- An entry as a line for people. -/
def humanLine (entry : Entry) : String :=
  "[" ++ entry.level.label ++ "] " ++ entry.eventId ++ " " ++ entry.message ++
  (match entry.key with
    | some key => " key=" ++ key
    | none => "") ++
  (match entry.elapsed with
    | some n => " (" ++ Text.Decimal.ofNat n ++ "us)"
    | none => "") ++
  if entry.fields.isEmpty then ""
  else " | " ++ " ".intercalate (entry.fields.entries.map fieldText)

end Entry

end Log

end AssetCache
