import ServerUi.Number.Power
import ServerUi.Text.Hex

/-! Colours as 32-bit numbers: alpha, red, green and blue, eight bits each. -/

namespace ServerUi

/-- Any whole number is taken; the parts are read off its lowest 32 bits. -/
structure Color where
  argb : Int
  deriving DecidableEq

namespace Color

/-- Eight bits of a number, from bit `8 * place` on. -/
def byte (n : Int) (place : Nat) : Nat := (n / twoPower (8 * place) % 256).toNat

def alpha (c : Color) : Nat := byte c.argb 3

def red (c : Color) : Nat := byte c.argb 2

def green (c : Color) : Nat := byte c.argb 1

def blue (c : Color) : Nat := byte c.argb 0

/-- The colour of four parts, of which the lowest eight bits count. -/
def ofRgb (red green blue alpha : Int) : Color :=
  ⟨byte alpha 0 * 0x1000000 + byte red 0 * 0x10000 + byte green 0 * 0x100 + byte blue 0⟩

/-- `#RRGGBB`, without alpha. -/
def hex (c : Color) : String :=
  String.ofList ('#' :: hexDigits 'A' 6 (c.argb % 0x1000000).toNat)

/-- `#RRGGBB`, and `@AA` behind it unless the colour is opaque. -/
def text (c : Color) : String :=
  if c.alpha = 0xff then c.hex
  else c.hex ++ String.ofList ('@' :: hexDigits 'A' 2 c.alpha)

/-- The opaque colour of a 24-bit number. -/
def opaqueRgb (rgb : Nat) : Color := ⟨0xff000000 + rgb⟩

def palette : List (String × Color) :=
  [("red", ⟨0xffff0000⟩), ("blue", ⟨0xff0000ff⟩), ("green", ⟨0xff008000⟩),
    ("yellow", ⟨0xffffff00⟩), ("orange", ⟨0xffffa500⟩), ("purple", ⟨0xff800080⟩),
    ("pink", ⟨0xffffc0cb⟩), ("brown", ⟨0xffa52a2a⟩), ("grey", ⟨0xff808080⟩),
    ("gray", ⟨0xff808080⟩), ("black", ⟨0xff000000⟩), ("white", ⟨0xffffffff⟩),
    ("transparent", ⟨0⟩)]

def ofErrors : Color := ⟨0xffff0000⟩

def ofPlaceholders : Color := ⟨0xffe0e0e0⟩

end Color

end ServerUi
