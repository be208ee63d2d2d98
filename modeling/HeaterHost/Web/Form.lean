import HeaterHost.Text.Blank
import HeaterHost.Text.Utf8

/-!
Form data in a query string: names and values with `=` between them, the pairs parted by `&`. A
plus sign stands for a space, and a percent sign with two hexadecimal digits for a byte.
-/

namespace HeaterHost.Web.Form

def hexDigit? (b : UInt8) : Option UInt8 :=
  if 0x30 ≤ b && b ≤ 0x39 then some (b - 0x30)
  else if 0x41 ≤ b && b ≤ 0x46 then some (b - 0x37)
  else if 0x61 ≤ b && b ≤ 0x66 then some (b - 0x57)
  else none

/-- The bytes that are meant. A percent sign without its digits stands for itself. -/
def unescaped : List UInt8 → List UInt8
  | [] => []
  | b :: rest =>
      if b == 0x2B then 0x20 :: unescaped rest
      else if b == 0x25 then
        match rest with
        | high :: low :: rest' =>
            match hexDigit? high, hexDigit? low with
            | some h, some l => (16 * h + l) :: unescaped rest'
            | _, _ => b :: unescaped (high :: low :: rest')
        | rest => b :: unescaped rest
      else b :: unescaped rest

def text (cs : List Char) : String :=
  String.ofList (Text.Utf8.decode (unescaped (String.ofList cs).toUTF8.toList))

/-- A pair. What has no `=` is a name with an empty value. -/
def pair (part : List Char) : String × String :=
  match Text.cutAt '=' part with
  | some (name, value) => (text name, text value)
  | none => (text part, "")

def pairs (query : List Char) : List (String × String) :=
  ((query.splitOn '&').filter fun part => !part.isEmpty).map pair

end HeaterHost.Web.Form
