import ServerUi.Console.Outline
import ServerUi.Console.Request
import ServerUi.Document.Load
import ServerUi.Json.Printer
import ServerUi.Settings.Host
import ServerUi.Settings.Load
import ServerUi.Widget.Summary

/-! Running a command on files. What is shown, the code it ends with, and the level of the log are
values, and nothing is written. -/

namespace ServerUi

/-- What a command shows. A panel is a framed text with a title. -/
inductive Display where
  | nothing
  | text (s : String)
  | panel (title text : String)
  deriving DecidableEq

inductive Crash where
  | nullCharacter
  | longInteger
  | encoding
  | unencodable
  | tooDeep
  | unreadable (why : Unreadable)
  deriving DecidableEq

inductive Ending where
  | exit (code : Nat)
  | crash (cause : Crash)
  deriving DecidableEq

/-- A command that has run. The log has no level before settings are loaded. -/
structure Run where
  level : Option String
  notices : List Notice
  display : Display
  ending : Ending

def linesText (lines : List String) : String := String.join (lines.map (· ++ "\n"))

namespace Display

def lines (lines : List String) : Display := text (linesText lines)

/-- A message in a panel, whose frame and margins take four columns. Blanks at both ends of a line
are not told from the margins. -/
def framed (title message : String) : Display :=
  panel title ("\n".intercalate ((shownLines (consoleColumns - 4) message).map fun line =>
    String.ofList (trimmed line.toList)))

def loadError (message : String) : Display := framed "✗ Error Loading UI" message

def fallback : Display := framed "⚠ Fallback UI" "UI configuration could not be loaded."

end Display

inductive LoadError where
  | settings (e : SettingsFileError)
  | document (e : DocumentError)
  | assets (fault : Fault)

namespace LoadError

/-- What is shown of an error, unless no command expects it. -/
def message : LoadError → Except Crash String
  | settings (.flawed source flaw) => .ok (SettingsFileError.flawed source flaw).message
  | settings .encoding => .error .encoding
  | settings (.longInteger _) => .error .longInteger
  | settings .tooDeep => .error .tooDeep
  | settings (.unreadable why _) => .error (.unreadable why)
  | document (.flawed source flaw) => .ok (DocumentError.flawed source flaw).message
  | document .nullCharacter => .error .nullCharacter
  | document (.longInteger _) => .error .longInteger
  | assets .nullCharacter => .error .nullCharacter
  | assets _ => .error .unencodable

def display (e : LoadError) : Display :=
  match e.message with
  | .ok message => .loadError message
  | .error _ => .nothing

def ending (e : LoadError) : Ending :=
  match e.message with
  | .ok _ => .exit 1
  | .error cause => .crash cause

end LoadError

def levelNamed : String → String
  | "WARN" => "WARNING"
  | "FATAL" => "CRITICAL"
  | name => name

def levelRank : String → Nat
  | "CRITICAL" => 50
  | "ERROR" => 40
  | "WARNING" => 30
  | "INFO" => 20
  | "DEBUG" => 10
  | _ => 0

namespace Rendering

def json (r : Rendering) : Json :=
  .obj [("widget", (r.widget.map Widget.summary).getD .null),
    ("errors", .arr (r.errors.map .str))]

/-- The line that counts errors, behind an empty line. -/
def errorLines (r : Rendering) : List String :=
  if r.errors.isEmpty then [] else ["", s!"{r.errors.length} inline error node(s)"]

def display (r : Rendering) (order : RenderOrder) : Display :=
  match r.widget, order.json with
  | none, true => .lines [r.json.line]
  | none, false => .fallback
  | some _, true => .lines [r.json.indented]
  | some w, false =>
    .lines (shownLines consoleColumns order.document.text ++ w.outline ++ r.errorLines)

/-- Errors in the tree are a failure only if the order is strict. -/
def exitCode (r : Rendering) (order : RenderOrder) : Nat :=
  if order.strict && !r.errors.isEmpty then 2 else 0

end Rendering

def RenderOrder.load (order : RenderOrder) (fs : FileSystem) (settings : Settings) :
    Except LoadError (Host × Config) := do
  let members ← (Document.ofFile fs order.document).mapError .document
  let host ← (settings.host fs).mapError .assets
  return (host, members)

namespace Run

def silent (ending : Ending) : Run := ⟨none, [], .nothing, ending⟩

def shown (display : Display) : Run := ⟨none, [], display, .exit 0⟩

def failed (level : Option String) (e : LoadError) : Run := ⟨level, [], e.display, e.ending⟩

def ofRendering (level : String) (order : RenderOrder) (outcome : Outcome Rendering) : Run where
  level := some level
  notices := loadedNotice order.document :: outcome.events.filterMap Event.notice?
  display := outcome.value.display order
  ending := .exit (outcome.value.exitCode order)

def ofOrder (fs : FileSystem) (environment : Option String) (order : RenderOrder) : Run :=
  match Settings.load fs order.settings with
  | .error e => failed none (.settings e)
  | .ok settings =>
    let level := levelNamed (settings.effectiveLevel environment)
    match order.load fs settings with
    | .error e => failed (some level) e
    | .ok (host, members) =>
      ofRendering level order (host.present (.obj members) settings.store)

def ofRequest (fs : FileSystem) (environment : Option String) : Request → Run
  | .version => shown (.lines ["sdui 0.1.0"])
  | .help => silent (.exit 0)
  | .types => shown (.lines Registry.standard.tags)
  | .render order => ofOrder fs environment order

def log (run : Run) : List String :=
  match run.level with
  | none => []
  | some level =>
    (run.notices.filter fun n => levelRank level ≤ n.level.rank).map fun n =>
      s!"{n.level.name} - {n.text}"

/-- Runs the program with the level that the environment gives for the log. -/
def ofArguments (fs : FileSystem) (environment : Option String) (args : List String) : Run :=
  match Request.ofArguments args with
  | .error _ => silent (.exit 2)
  | .ok request => ofRequest fs environment request

end Run

end ServerUi
