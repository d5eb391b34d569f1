import ServerUi.Image.Host
import ServerUi.Text.Letters

/-! Splitting an address into its scheme and its host. -/

namespace ServerUi

structure Url where
  scheme : String
  host : String
  deriving DecidableEq

namespace Url

/-- Blanks and controls in front, and tabs and line breaks anywhere, do not count. -/
def cleaned (cs : List Char) : List Char :=
  (cs.dropWhile (·.toNat ≤ 0x20)).filter fun c => c != '\t' && c != '\r' && c != '\n'

def isSchemeChar (c : Char) : Bool := c.isAlphanum || c == '+' || c == '-' || c == '.'

/-- The scheme in small letters and the text behind its colon; without a scheme, the whole text. -/
def splitScheme (cs : List Char) : List Char × List Char :=
  let front := cs.takeWhile (· != ':')
  match cs.dropWhile (· != ':') with
  | _ :: behind =>
    if front.head?.any Char.isAlpha && front.all isSchemeChar then (front.map Char.toLower, behind)
    else ([], cs)
  | [] => ([], cs)

/-- What stands behind two slashes, up to a delimiter. -/
def hostPart : List Char → List Char
  | '/' :: '/' :: rest => rest.takeWhile fun c => c != '/' && c != '?' && c != '#'
  | _ => []

/-- The characters whose compatible form holds a delimiter. -/
def delimiterForms : List Nat :=
  [0x2047, 0x2048, 0x2049, 0x2100, 0x2101, 0x2105, 0x2106, 0x2a74, 0xfe13, 0xfe16, 0xfe55, 0xfe56,
    0xfe5f, 0xfe6b, 0xff03, 0xff0f, 0xff1a, 0xff1f, 0xff20]

def withoutUser (host : List Char) : List Char :=
  (host.reverse.takeWhile (· != '@')).reverse

/-- What is wrong with a host that brackets stand in, somewhere. Nothing may stand in front of the
brackets of an address, and behind them only what a colon leads in. -/
def addressFault? (host : List Char) : Option Fault :=
  let front := (withoutUser host).takeWhile (· != '[')
  match (withoutUser host).dropWhile (· != '[') with
  | [] => Host.bracketFault? (front.takeWhile (· != ':'))
  | _ :: behind =>
    let after := (behind.dropWhile (· != ']')).drop 1
    if front.isEmpty && (after.isEmpty || after.head? = some ':') then
      Host.bracketFault? (behind.takeWhile (· != ']'))
    else some .hostBrackets

/-- What is wrong with a host. Its brackets are looked at first. -/
def hostFault? (host : List Char) : Option Fault :=
  let opened := host.contains '['
  let closed := host.contains ']'
  let brackets :=
    if opened && closed then addressFault? host
    else if opened || closed then some .hostBrackets
    else none
  brackets.or
    (if host.any fun c => delimiterForms.contains c.toNat then
      some (.hostCharacters (String.ofList host))
    else none)

def ofString (s : String) : Except Fault Url :=
  let (scheme, behind) := splitScheme (cleaned s.toList)
  let host := hostPart behind
  match hostFault? host with
  | some fault => .error fault
  | none => .ok ⟨String.ofList scheme, String.ofList host⟩

/-- An address on the web: its scheme is one of two, and it names a host. -/
def isWeb (u : Url) : Bool := (u.scheme == "http" || u.scheme == "https") && u.host != ""

end Url

end ServerUi
