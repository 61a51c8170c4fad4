import AlertRange.Log.Call
import AlertRange.Log.Hierarchy

namespace AlertRange

inductive LogForm where
  | console
  | json
  deriving DecidableEq

structure LogSetup where
  handlers : List LogForm
  rootLevel : Severity
  /-- The level of the program's own loggers, unless they follow the root. -/
  ownLevel : Option Severity
  deriving DecidableEq

namespace LogForm

def line (time : String) (event : LogEvent) : LogForm → String
  | .console => event.consoleLine time
  | .json => event.jsonLine time

/-- The fields in the order in which their texts are made. -/
def shownFields (time : String) (event : LogEvent) : LogForm → Value.Fields
  | .console =>
    let fields := event.fields time
    LogEvent.columnFields fields ++ LogEvent.otherFields fields ++
      fields.filter (·.1 ∈ ["stack", "exception"])
  | .json => event.fields time

/-- The first fault of a field, which no other then comes to. -/
def fault? (time : String) (event : LogEvent) (form : LogForm) : Option TextFault :=
  (form.shownFields time event).findSome? (·.2.fault?)

/-- What ends a call that comes to this event: that there is no room for a field. Another fault only keeps the
line from being written. -/
def stop? (time : String) (event : LogEvent) (form : LogForm) : Option LogError :=
  match form.fault? time event, form with
  | some .tooDeep, .console => some (.unwritten .tooDeep)
  | some .tooDeep, .json => some (.unwritten .tooDeepJson)
  | _, _ => none

/-- What a form writes of an event: its line, or nothing if one of the fields has no text. -/
def written (time : String) (event : LogEvent) (form : LogForm) : String :=
  if ∀ field ∈ form.shownFields time event, field.2.Writable then form.line time event ++ "\n" else ""

end LogForm

namespace LogSetup

def initial : LogSetup :=
  ⟨[], .warning, none⟩

def configure (_before : LogSetup) (verbose json : Bool) : LogSetup where
  handlers := [if json then .json else .console]
  rootLevel := .warning
  ownLevel := some (if verbose then .debug else .warning)

def ownName : String := "nagrange"

abbrev Known := List (List Char)

def level (setup : LogSetup) (known : Known) (logger : String) : Severity :=
  if LoggerName.isUnder known ownName.toList logger.toList then setup.ownLevel.getD setup.rootLevel
  else setup.rootLevel

/-- A log without handlers still shows the messages of warnings and worse. -/
def bareText (event : LogEvent) : String :=
  match event.route with
  | .message => if Severity.warning ≤ event.severity then event.message ++ "\n" else ""
  | .fields => ""

def lines (setup : LogSetup) (time : String) (event : LogEvent) : String :=
  if setup.handlers.isEmpty then bareText event
  else String.join (setup.handlers.map (·.written time event))

def passes (setup : LogSetup) (known : Known) (event : LogEvent) : Bool :=
  setup.level known event.logger ≤ event.severity

def written (setup : LogSetup) (known : Known) (time : String) (event : LogEvent) : String :=
  if setup.passes known event then setup.lines time event else ""

def writtenAll (setup : LogSetup) (known : Known) (time : String) : List LogEvent → String
  | [] => ""
  | event :: rest =>
    let known := event.logger.toList :: known
    setup.written known time event ++ setup.writtenAll known time rest

def recorded (setup : LogSetup) (known : Known) (time : String) (records : List LogRecord) : String :=
  setup.writtenAll known time (records.filterMap LogEvent.ofRecord?)

def stop? (setup : LogSetup) (time : String) (event : LogEvent) : Option LogError :=
  setup.handlers.findSome? (·.stop? time event)

/-- What is written of an event that passes, or of why there is none. -/
def settle (setup : LogSetup) (time : String) : Except TemplateFault LogEvent → Except LogError String
  | .ok event =>
    match setup.stop? time event with
    | some error => .error error
    | none => .ok (setup.lines time event)
  | .error (.unwritten .tooDeep) => .error (.unwritten .tooDeep)
  | .error _ => .ok ""

/-- What a call writes. Only a call with fields is checked before it is known to pass. -/
def call (setup : LogSetup) (known : Known) (time : String) (call : LogCall) :
    Except LogError String :=
  let passes : Bool := setup.level known call.logger ≤ call.method.level
  match call.error?, passes || call.route = .fields with
  | some error, true => .error error
  | _, _ => if passes then setup.settle time call.event else .ok ""

def callAll (setup : LogSetup) (known : Known) (time : String) : List LogCall → Except LogError String
  | [] => .ok ""
  | next :: rest => do
    let known := next.logger.toList :: known
    let text ← setup.call known time next
    let more ← setup.callAll known time rest
    .ok (text ++ more)

end LogSetup

end AlertRange
