/-!
Text inside HTML. The four characters that could open a tag, an attribute or an entity are written
as entities; every other character stands for itself.
-/
namespace SoundChange.Text.Markup

/-- How one character is written inside an HTML element. -/
def escapeChar (c : Char) : List Char :=
  if c = '&' then "&amp;".toList
  else if c = '<' then "&lt;".toList
  else if c = '>' then "&gt;".toList
  else if c = '"' then "&quot;".toList
  else [c]

def escape (text : List Char) : List Char :=
  text.flatMap escapeChar

/-- `escape_html`: a text as the content of an HTML element. -/
def escaped (text : String) : String :=
  String.ofList (escape text.toList)

/-- A text as the content of an HTML element that breaks its lines where the text does. -/
def brokenLines (text : String) : String :=
  String.ofList
    ((escape text.toList).flatMap fun c => if c = '\n' then "<br/>".toList else [c])

end SoundChange.Text.Markup
