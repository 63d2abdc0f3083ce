import ModelNumber.Json.Basic

/-
  This file defines what a page shows and asks for, in order.

  Key definitions include:
    * `TextStyle`
    * `Event`
-/

namespace ModelNumber

/- The ways to show a plain text. -/
inductive TextStyle where
| title
| caption
| code
| info
| warning
| success
| write
deriving DecidableEq, Repr

/- The name of a text style. -/
def TextStyle.name : TextStyle → String
| .title => "title"
| .caption => "caption"
| .code => "code"
| .info => "info"
| .warning => "warning"
| .success => "success"
| .write => "write"

/-
  An element of a page. Tabs and expanders hold elements, and
  a rerun starts the page over.
-/
inductive Event where
| pageConfig (title layout : String)
| text (style : TextStyle) (text : String)
| markdown (text : String) (allowHtml : Bool)
| selectbox (label : String) (options : List String) (index : Nat)
| textInput (label placeholder : String)
| multiselect
    (label : String) (options default : List Scalar)
| dataframe (columns : List String) (rows : List (List Json))
| downloadButton (label data fileName mime : String)
| tabs (labels : List String)
| tab (label : String) (body : List Event)
| expander (label : String) (body : List Event)
| rerun

end ModelNumber
