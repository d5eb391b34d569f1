import ServerUi.Json.Reader
import ServerUi.Number.Power
import ServerUi.Report

/-! Putting the records of the log into words. That is done as a record is written, and it may fail:
a fault is asked for its text, which its own code has to give, and the text of a value has no room for
too many digits or too many levels. What fails then is a fault in place of the one behind it. -/

namespace ServerUi

/-- What telling a fault or a value ends in, if not in its text. -/
structure Wording where
  fault? : Fault → Option Fault
  value? : Json → Option Fault

/-- Everything is told. -/
def Wording.full : Wording := ⟨fun _ => none, fun _ => none⟩

def Fault.longWhole : Fault :=
  .raised .value (some (s!"Exceeds the limit ({integerDigitLimit} digits) for integer string " ++
    "conversion; use sys.set_int_max_str_digits() to increase the limit"))

def Fault.tooDeep : Fault :=
  .raised (.other "RecursionError")
    (some "maximum recursion depth exceeded while getting the repr of an object")

mutual

/-- What telling a value ends in, if not in its text, with room for so many levels. -/
def Json.untold? : Json → Nat → Option Fault
  | _, 0 => some .tooDeep
  | .int n, _ + 1 => if n.natAbs < tenPower integerDigitLimit then none else some .longWhole
  | .arr items, room + 1 => untoldItem? items room
  | .obj members, room + 1 => untoldMember? members room
  | _, _ + 1 => none

def Json.untoldItem? : List Json → Nat → Option Fault
  | [], _ => none
  | v :: rest, room => (v.untold? room).or (untoldItem? rest room)

def Json.untoldMember? : List (String × Json) → Nat → Option Fault
  | [], _ => none
  | (_, v) :: rest, room => (v.untold? room).or (untoldMember? rest room)

end

/-- Every fault has a text, and values are told with room for so many levels. -/
def Wording.limited (room : Nat) : Wording where
  fault? _ := none
  value? v := v.untold? room

namespace Wording

/-- A text is told as it is, and any other value as a value. -/
def shown? (w : Wording) : Json → Option Fault
  | .str _ => none
  | v => w.value? v

end Wording

/-- What telling a record ends in, if not in its text. -/
def Notice.untold? (w : Wording) : Notice → Option Fault
  | choiceType _ v | colorType v | insetType _ v | insetsInvalid v | radiusInvalid v
  | dimensionInvalid v | weightNumber v | styleType v | childSkipped _ v | childIgnored _ v
  | stateWritten _ v => w.value? v
  | textChanged _ v | optionUnknown _ v | actionUnknown v => w.shown? v
  | node (.failed fault) _ | actionFailed _ fault => w.fault? fault
  | _ => none

namespace Wording

/-- The records in front of the first that is not told. -/
def written (w : Wording) (notices : List Notice) : List Notice :=
  notices.takeWhile fun n => (n.untold? w).isNone

/-- What the first record that is not told ends in. -/
def stop? (w : Wording) (notices : List Notice) : Option Fault :=
  notices.findSome? (Notice.untold? w)

end Wording

/-- A report whose records are told one by one, up to the first that is not. -/
def Report.written (w : Wording) (r : Report α) : Report α :=
  ⟨w.written r.notices, (w.stop? r.notices).elim r.outcome .error⟩

end ServerUi
