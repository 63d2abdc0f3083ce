import ModelNumber.Highlight

/-
  This file defines the markup in which marked characters are
  shown. Characters that mean something in markup are written
  as entities.

  Key definitions include:
    * `Markup.escape`
    * `Markup.style`
    * `Markup.span`
    * `Markup.render`
-/

namespace ModelNumber

namespace Markup

/- A character in markup. -/
def escape (c : Char) : String :=
  if c = '&' then
    "&amp;"
  else if c = '<' then
    "&lt;"
  else if c = '>' then
    "&gt;"
  else if c = '"' then
    "&quot;"
  else if c = '\'' then
    "&#x27;"
  else
    String.singleton c

/- The style of a kind of marks. -/
def style : MarkKind → String
| .highlighted => "background:#ffe08a;font-weight:700;"
| .separator => "color:#999;"
| .plain => ""

/- A marked character. -/
def span (m : Mark) : String :=
  "<span style=\"" ++ style m.kind ++ "\">" ++ escape m.char
    ++ "</span>"

/- The start of the box around marked characters. -/
def boxStart : String :=
  "<div style=\"font-family:monospace;font-size:22px;"
    ++ "letter-spacing:2px;border:1px solid #e0e0e0;"
    ++ "padding:10px;border-radius:8px;background:#fafafa;\">"

/- The end of the box around marked characters. -/
def boxEnd : String :=
  "</div>"

/- Marked characters in a box. -/
def render (ms : List Mark) : String :=
  boxStart ++ String.join (ms.map span) ++ boxEnd

end Markup

end ModelNumber
