import AssetCache.CommandLine.Command

/-!
# Arguments

Arguments name a command, word by word, and set switches. A switch is written
long, behind two dashes, or short, behind one; short switches may stand together.
The value of a switch follows an equals sign, or directly a short switch, or is
the next argument, which then must not begin with a dash. Behind two dashes alone
an argument is what it is.

Three switches are known everywhere: where one is set at several words of a
command, the innermost counts. At one word a switch is set at most once.

Arguments are taken from left to right, and the first that asks for the version or
for help, or that cannot be taken, decides.
-/

set_option autoImplicit false

namespace AssetCache.CommandLine

/-- What arguments can set. -/
inductive Switch where
  | verbose
  | json
  | config
  | offline
  | method
  | output
  | yes
  | origin
  | force
  | help
  | version
  deriving DecidableEq, Repr

namespace Switch

/-- The long name. -/
def long : Switch → String
  | verbose => "verbose"
  | json => "json"
  | config => "config"
  | offline => "offline"
  | method => "method"
  | output => "output"
  | yes => "yes"
  | origin => "origin"
  | force => "force"
  | help => "help"
  | version => "version"

/-- The short name, if there is one. -/
def short? : Switch → Option Char
  | verbose => some 'v'
  | config => some 'c'
  | method => some 'X'
  | output => some 'o'
  | yes => some 'y'
  | force => some 'f'
  | help => some 'h'
  | version => some 'V'
  | json => none
  | offline => none
  | origin => none

/-- Whether a switch has a value. -/
def hasValue : Switch → Bool
  | config => true
  | method => true
  | output => true
  | origin => true
  | _ => false

end Switch

/-- Where in a command the arguments have led, word by word. -/
inductive Place where
  | program
  | install
  | activate
  | update
  | fetch
  | offline
  | message
  | status
  | purge
  | config
  | configShow
  | configInit
  deriving DecidableEq, Repr

namespace Place

/-- The words that may follow, with where they lead. -/
def words : Place → List (String × Place)
  | program =>
    [("install", install), ("activate", activate), ("update", update), ("fetch", fetch),
      ("offline", offline), ("message", message), ("status", status), ("purge", purge),
      ("config", config)]
  | config => [("show", configShow), ("init", configInit)]
  | _ => []

/-- The words that lead to a place. -/
def path : Place → List String
  | program => ["swc"]
  | install => ["swc", "install"]
  | activate => ["swc", "activate"]
  | update => ["swc", "update"]
  | fetch => ["swc", "fetch"]
  | offline => ["swc", "offline"]
  | message => ["swc", "message"]
  | status => ["swc", "status"]
  | purge => ["swc", "purge"]
  | config => ["swc", "config"]
  | configShow => ["swc", "config", "show"]
  | configInit => ["swc", "config", "init"]

/-- The switches known at a place alone. -/
def own : Place → List Switch
  | update => [.offline]
  | fetch => [.method, .output]
  | purge => [.yes]
  | configInit => [.origin, .force]
  | _ => []

/-- The switches known at a place. -/
def switches (place : Place) : List Switch :=
  [.verbose, .json, .config, .help, .version] ++ place.own

/-- The name of the text that a command takes for itself, if it takes one. -/
def operand? : Place → Option String
  | fetch => some "PATH"
  | message => some "PAYLOAD"
  | _ => none

end Place

/-- Why arguments are not those of a command. -/
inductive Stop where
  | usage
  /-- The version is asked for. -/
  | version (place : Place)
  /-- Help is asked for. -/
  | help (place : Place)
  deriving DecidableEq, Repr

/-- What was set at one word of a command. -/
structure Found where
  switches : List (Switch × String)
  operand : Option String
  deriving DecidableEq, Repr

namespace Found

/-- Nothing was set. -/
def nothing : Found := ⟨[], none⟩

/-- The value of a switch; one without values has the empty value. -/
def value? (found : Found) (switch : Switch) : Option String := found.switches.lookup switch

/-- Whether a switch was set. -/
def has (found : Found) (switch : Switch) : Bool := (found.value? switch).isSome

/-- Set a switch at a place. -/
def set (found : Found) (place : Place) (switch : Switch) (value : String) :
    Except Stop Found :=
  match switch with
  | .version => .error (.version place)
  | .help => .error (.help place)
  | _ =>
    if found.has switch || (switch = .output && value.isEmpty) then .error .usage
    else .ok { found with switches := (switch, value) :: found.switches }

/-- Take a text of the command's own. -/
def take (found : Found) (place : Place) (text : String) : Except Stop Found :=
  if place.operand?.isSome && found.operand.isNone then .ok { found with operand := some text }
  else .error .usage

/-- Set short switches that stand together. One that still lacks its value is left over. -/
def setShort (place : Place) (found : Found) : List Char → Except Stop (Found × Option Switch)
  | [] => .ok (found, none)
  | c :: rest =>
    match place.switches.find? fun switch => switch.short? == some c with
    | none => .error .usage
    | some switch =>
      if switch.hasValue then
        match rest with
        | [] => .ok (found, some switch)
        | '=' :: value => (found.set place switch (String.ofList value)).map (·, none)
        | value => (found.set place switch (String.ofList value)).map (·, none)
      else do setShort place (← found.set place switch "") rest

/-- Set a long switch. One that still lacks its value is left over. -/
def setLong (place : Place) (found : Found) (text : List Char) :
    Except Stop (Found × Option Switch) :=
  let long := String.ofList (text.takeWhile (· != '='))
  match place.switches.find? fun switch => switch.long == long with
  | none => .error .usage
  | some switch =>
    match text.dropWhile (· != '='), switch.hasValue with
    | [], false => (found.set place switch "").map (·, none)
    | [], true => .ok (found, some switch)
    | _ :: value, true => (found.set place switch (String.ofList value)).map (·, none)
    | _ :: _, false => .error .usage

end Found

/-- What an argument looks like. -/
inductive Shape where
  /-- Two dashes alone. -/
  | separator
  | long (text : List Char)
  | short (text : List Char)
  | plain

/-- The shape of an argument. A dash alone is plain. -/
def Shape.of (argument : String) : Shape :=
  match argument.toList with
  | ['-', '-'] => separator
  | '-' :: '-' :: text => long text
  | '-' :: c :: text => short (c :: text)
  | _ => plain

/-- Whether an argument can be the value of the switch before it. -/
def Shape.isValue : Shape → Bool
  | plain => true
  | _ => false

/-- The place that words lead to, for which help is asked. -/
def helpPlace (place : Place) : List String → Except Stop Place
  | [] => .ok place
  | word :: rest =>
    match place.words.lookup word with
    | some inner => helpPlace inner rest
    | none => .error .usage

/-- Where arguments led, what was set there, and what was set on the way, last first. -/
structure Taken where
  place : Place
  found : Found
  outer : List Found

/-- Take arguments; `literal` when two dashes have been passed. -/
def takeAll (place : Place) (found : Found) (outer : List Found) (literal : Bool) :
    List String → Except Stop Taken
  | [] => .ok ⟨place, found, outer⟩
  | argument :: rest =>
    if literal then do takeAll place (← found.take place argument) outer true rest
    else
      match place.words.lookup argument with
      | some inner => takeAll inner .nothing (found :: outer) false rest
      | none =>
        if argument == "help" && !place.words.isEmpty then do
          throw (.help (← helpPlace place rest))
        else
          let set : Except Stop (Found × Option Switch) := match Shape.of argument with
            | .separator => .ok (found, none)
            | .long text => found.setLong place text
            | .short text => Found.setShort place found text
            | .plain => (found.take place argument).map (·, none)
          match set with
          | .error stop => .error stop
          | .ok (found, none) =>
            takeAll place found outer (argument == "--") rest
          | .ok (found, some switch) =>
            match rest with
            | [] => .error .usage
            | value :: rest =>
              if (Shape.of value).isValue then do
                takeAll place (← found.set place switch value) outer false rest
              else .error .usage

/-- The command that arguments have led to. -/
def commandOf (place : Place) (found : Found) : Option Command :=
  match place with
  | .install => some .install
  | .activate => some .activate
  | .update => some (.update (found.has .offline))
  | .fetch => found.operand.map fun path =>
      .fetch path ((found.value? .method).getD "GET") (found.value? .output)
  | .offline => some .offline
  | .message => found.operand.map .message
  | .status => some .status
  | .purge => some (.purge (found.has .yes))
  | .configShow => some .showConfig
  | .configInit =>
    some (.createConfig ((found.value? .origin).getD Settings.defaultOrigin)
      (found.has .force))
  | .program => none
  | .config => none

/-- What arguments ask for. -/
structure Invocation where
  voice : Voice
  /-- The file of the settings. -/
  file : Option String
  command : Command
  deriving DecidableEq, Repr

/-- Read arguments. -/
def Invocation.parse (arguments : List String) : Except Stop Invocation := do
  let taken ← takeAll .program .nothing [] false arguments
  let levels := taken.found :: taken.outer
  match commandOf taken.place taken.found with
  | none => throw .usage
  | some command =>
    return {
      voice := ⟨levels.any fun found => found.has .verbose, levels.any fun found => found.has .json⟩
      file := levels.findSome? fun found => found.value? .config
      command := command }

end AssetCache.CommandLine
