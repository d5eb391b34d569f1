import ServerUi.Fault
import ServerUi.Text.Hex
import ServerUi.Text.Pieces

/-! Host addresses in brackets: eight groups, of which a row of zeros may be left out, or an
address of a later version. -/

namespace ServerUi.Host

/-- A number up to 255 without leading zeros. -/
def isOctet (cs : List Char) : Bool :=
  !cs.isEmpty && cs.all Char.isDigit && cs.length ≤ 3 && (cs == ['0'] || cs.head? != some '0') &&
    cs.foldl (fun n c => 10 * n + (c.toNat - '0'.toNat)) 0 ≤ 255

def isVersion4 (cs : List Char) : Bool :=
  let octets := pieces '.' cs
  octets.length == 4 && octets.all isOctet

def isGroup (cs : List Char) : Bool :=
  !cs.isEmpty && cs.length ≤ 4 && cs.all fun c => (hexValue? c).isSome

/-- An address of four numbers at the end stands for two groups. -/
def withoutVersion4? (groups : List (List Char)) : Option (List (List Char)) :=
  match groups.getLast? with
  | none => none
  | some last =>
    if last.contains '.' then
      if isVersion4 last then some (groups.dropLast ++ [['0'], ['0']]) else none
    else some groups

/-- Groups around a gap: an empty piece at the outer end belongs to the gap if it is alone. -/
def groupsBesideGap? (outer : Option (List Char)) (groups inner : List (List Char)) :
    Option (List (List Char)) :=
  if outer = some [] then if inner.isEmpty then some [] else none else some groups

/-- Eight groups, or fewer around one gap. -/
def hasGroups (groups : List (List Char)) : Bool :=
  let inside := (groups.drop 1).dropLast
  match inside.findIdx? List.isEmpty with
  | none => groups.length == 8 && groups.all isGroup
  | some i =>
    let front := groups.take (i + 1)
    let back := groups.drop (i + 2)
    (inside.filter List.isEmpty).length == 1 &&
      match groupsBesideGap? front.head? front (front.drop 1),
        groupsBesideGap? back.getLast? back back.dropLast with
      | some front, some back =>
        front.length + back.length < 8 && (front ++ back).all isGroup
      | _, _ => false

/-- An address of eight groups, behind which a zone may be named after a percent sign. -/
def isVersion6 (cs : List Char) : Bool :=
  let address := cs.takeWhile (· != '%')
  let zone := cs.dropWhile (· != '%')
  !cs.contains '/' && (zone.isEmpty || (zone.length ≠ 1 && !(zone.drop 1).contains '%')) &&
    let groups := pieces ':' address
    3 ≤ groups.length &&
      match withoutVersion4? groups with
      | none => false
      | some groups => groups.length ≤ 9 && hasGroups groups

/-- `v`, hexadecimal digits, a point, and something behind it. -/
def isFuture : List Char → Bool
  | 'v' :: rest =>
    let digits := rest.takeWhile fun c => (hexValue? c).isSome
    let behind := rest.dropWhile fun c => (hexValue? c).isSome
    !digits.isEmpty &&
      match behind with
      | '.' :: _ :: _ => true
      | _ => false
  | _ => false

/-- What is wrong with an address that is to stand in brackets. -/
def bracketFault? (cs : List Char) : Option Fault :=
  if cs.head? = some 'v' then if isFuture cs then none else some .hostFuture
  else if isVersion4 cs then some .hostVersion4
  else if isVersion6 cs then none
  else some (.hostUnknown (String.ofList cs))

end ServerUi.Host
