/-!
# Indented texts

A text of several lines is set off from what stands left of it by a margin in front of every line
but the first.
-/

namespace Dealias.Text

/-- A text with a margin in front of every line but the first. -/
def indentLater (margin : String) (text : String) : String :=
  String.ofList <| text.toList.flatMap fun c => if c = '\n' then c :: margin.toList else [c]

end Dealias.Text
