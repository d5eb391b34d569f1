import ServerUi.Builder.Program

/-! Builders that a host adds: a fixed text, a failure, or something made of the parts of the
node. -/

namespace ServerUi

inductive CustomBuilder where
  | const (text : String)
  | raise (fault : Fault)
  | child (field : String)
  | inline (field : String)
  | row (field : String)
  | key
  | nothing

def plainText? (content : String) : Option Widget := some (.leaf (.text content none none))

def CustomBuilder.builder : CustomBuilder → Builder
  | const content, _ => return plainText? content
  | raise fault, _ => .fail fault
  | child field, _ => Build.childAt field
  | inline field, _ => .node [.member field] pure
  | row field, _ => do
    let children ← Build.childrenAt field
    return some (.group (.flex .horizontal .start .center) children)
  | key, _ => do
    return plainText? (← Build.ownKey)
  | nothing, _ => return none

end ServerUi
