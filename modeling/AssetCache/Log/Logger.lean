import AssetCache.Log.Entry
import AssetCache.Text.Ascii

/-!
# Loggers

A logger belongs to one event. It drops what is below its least level and writes
the rest as entries of its event in its format.
-/

set_option autoImplicit false

namespace AssetCache.Log

/-- How entries are written. -/
inductive Format where
  | json
  | human
  deriving DecidableEq, Repr

namespace Format

/-- The name of a format. -/
def name : Format → String
  | json => "json"
  | human => "human"

/-- The format of a name in any case, or what is said of a name that is none. -/
def parse (text : String) : Except String Format :=
  let lower := Text.Ascii.lower text
  if lower = "json" then .ok json
  else if lower = "human" ∨ lower = "text" then .ok human
  else .error ("unknown log format '" ++ lower ++ "'")

/-- An entry in a format. -/
def line : Format → Entry → String
  | json, entry => entry.jsonLine
  | human, entry => entry.humanLine

end Format

/-- The logger of one event. -/
structure Logger where
  event : Event
  eventId : String
  key : Option String
  least : Level
  format : Format

namespace Logger

/-- A logger that drops only traces. -/
def ofEvent (event : Event) (serial : String) (format : Format) : Logger :=
  ⟨event, event.identifier serial, none, .debug, format⟩

/-- The entry of what is logged after so many microseconds. -/
def entry (logger : Logger) (elapsed : Nat) (level : Level) (message : String)
    (fields : Fields) : Entry where
  level := level
  message := message
  eventId := logger.eventId
  event := logger.event
  key := logger.key
  fields := fields
  elapsed := some elapsed

/-- The line of what is logged, unless it is dropped. -/
def render (logger : Logger) (elapsed : Nat) (level : Level) (message : String)
    (fields : Fields) : Option String :=
  if level.rank < logger.least.rank then none
  else some (logger.format.line (logger.entry elapsed level message fields))

end Logger

end AssetCache.Log
