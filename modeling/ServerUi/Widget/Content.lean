import ServerUi.Widget.Basic

/-! When two widgets show the same content. Numbers are compared as numbers, except that what is no
number is the same as itself; cells and actions are not compared. -/

namespace ServerUi

/-- The same number without the sign of a zero. -/
def Double.unsigned (x : Double) : Double := if x.isZero then .zero else x

def EdgeInsets.unsigned (e : EdgeInsets) : EdgeInsets :=
  ⟨e.left.unsigned, e.top.unsigned, e.right.unsigned, e.bottom.unsigned⟩

def TextStyle.unsigned (s : TextStyle) : TextStyle :=
  { s with size := s.size.map Double.unsigned }

def TextSpan.unsigned (s : TextSpan) : TextSpan :=
  { s with style := s.style.map TextStyle.unsigned }

def Placeholder.unsigned (p : Placeholder) : Placeholder := ⟨p.width.unsigned, p.height.unsigned⟩

def ErrorFrame.unsigned (f : ErrorFrame) : ErrorFrame :=
  ⟨f.padding.unsigned, f.border, f.radius.unsigned, f.iconSize.unsigned, f.fontSize.unsigned⟩

def Box.unsigned (b : Box) : Box :=
  ⟨b.width.map Double.unsigned, b.height.map Double.unsigned, b.padding.map EdgeInsets.unsigned,
    b.margin.map EdgeInsets.unsigned, b.color, b.radius.map Double.unsigned⟩

def Wrapper.unsigned : Wrapper → Wrapper
  | container box => container box.unsigned
  | center => center
  | sizedBox width height => sizedBox (width.map Double.unsigned) (height.map Double.unsigned)
  | padding insets => padding insets.unsigned
  | card elevation margin => card elevation.unsigned (margin.map EdgeInsets.unsigned)

def Leaf.same : Leaf → Leaf → Bool
  | text t s a, text t' s' a' =>
    t == t' && s.map TextStyle.unsigned == s'.map TextStyle.unsigned && a == a'
  | richText spans a, richText spans' a' =>
    spans.map TextSpan.unsigned == spans'.map TextSpan.unsigned && a == a'
  | button t _, button t' _ => t == t'
  | icon g size c, icon g' size' c' =>
    g == g' && size.map Double.unsigned == size'.map Double.unsigned && c == c'
  | image source w h fit p, image source' w' h' fit' p' =>
    source == source' && w.map Double.unsigned == w'.map Double.unsigned &&
      h.map Double.unsigned == h'.map Double.unsigned && fit == fit' &&
      p.map Placeholder.unsigned == p'.map Placeholder.unsigned
  | textField l hint _, textField l' hint' _ => l == l' && hint == hint'
  | checkbox l _, checkbox l' _ => l == l'
  | dropdown o l _, dropdown o' l' _ => o == o' && l == l'
  | divider h t c, divider h' t' c' =>
    h.map Double.unsigned == h'.map Double.unsigned &&
      t.map Double.unsigned == t'.map Double.unsigned && c == c'
  | error m f, error m' f' => m == m' && f.unsigned == f'.unsigned
  | _, _ => false

namespace Widget

mutual

def same : Widget → Widget → Bool
  | leaf l, leaf l' => l.same l'
  | wrapper w none, wrapper w' none => w.unsigned == w'.unsigned
  | wrapper w (some child), wrapper w' (some child') =>
    w.unsigned == w'.unsigned && same child child'
  | group g children, group g' children' => g == g' && sameAll children children'
  | _, _ => false

def sameAll : List Widget → List Widget → Bool
  | [], [] => true
  | w :: rest, w' :: rest' => same w w' && sameAll rest rest'
  | _, _ => false

end

/-- Two results are the same also if both are missing. -/
def same? : Option Widget → Option Widget → Bool
  | none, none => true
  | some w, some w' => same w w'
  | _, _ => false

end Widget

end ServerUi
