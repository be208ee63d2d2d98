import HeaterHost.Toml.Literal

/-!
Quoted texts: on one line or on several, with escapes or taken literally.
-/

namespace HeaterHost.Toml.Quoted

/-- Characters that may stand in a text as they are: the tab and all that is not a control
character. -/
def isPlain (c : Char) : Bool :=
  c == '\t' || (0x20 ≤ c.toNat && c.toNat != 0x7F)

/-- The character with a code written in `count` hexadecimal digits, and what follows. -/
def coded? (count : Nat) (cs : List Char) : Option (Char × List Char) := do
  let digits := cs.take count
  guard (digits.length == count)
  let n ← Literal.digitsIn? 16 0 digits
  guard (n.isValidChar)
  return (Char.ofNat n, cs.drop count)

/-- The character of an escape, read after its backslash, and what follows. -/
def escape? : List Char → Option (Char × List Char)
  | 'b' :: rest => some ('\x08', rest)
  | 't' :: rest => some ('\t', rest)
  | 'n' :: rest => some ('\n', rest)
  | 'f' :: rest => some ('\x0c', rest)
  | 'r' :: rest => some ('\r', rest)
  | 'e' :: rest => some ('\x1b', rest)
  | '"' :: rest => some ('"', rest)
  | '\\' :: rest => some ('\\', rest)
  | 'x' :: rest => coded? 2 rest
  | 'u' :: rest => coded? 4 rest
  | 'U' :: rest => coded? 8 rest
  | _ => none

def line? (quote : Char) (escapes : Bool) : (fuel : Nat) → (acc : List Char) → List Char →
    Option (String × List Char)
  | 0, _, _ | _ + 1, _, [] => none
  | fuel + 1, acc, c :: rest =>
      if c == quote then some (String.ofList acc.reverse, rest)
      else if escapes && c == '\\' then
        (escape? rest).bind fun (e, rest) => line? quote escapes fuel (e :: acc) rest
      else if isPlain c then line? quote escapes fuel (c :: acc) rest
      else none

def afterBreak? : List Char → Option (List Char)
  | '\n' :: rest | '\r' :: '\n' :: rest => some rest
  | _ => none

/-- What follows a backslash at the end of a line: the white space up to the next text. -/
def afterFold? (cs : List Char) : Option (List Char) :=
  let isSpace := fun c => c == ' ' || c == '\t'
  (afterBreak? (cs.dropWhile isSpace)).bind fun rest =>
    let tail := rest.dropWhile fun c => isSpace c || c == '\n' || c == '\r'
    let skipped := rest.take (rest.length - tail.length)
    if breaksComplete skipped then some tail else none
where
  breaksComplete : List Char → Bool
    | '\r' :: '\n' :: rest => breaksComplete rest
    | '\r' :: _ => false
    | _ :: rest => breaksComplete rest
    | [] => true

/-- A text on several lines, read after its opening quotes. Up to two quotes may stand right
before the three that close it. -/
def lines? (quote : Char) (escapes : Bool) : (fuel : Nat) → (acc : List Char) → List Char →
    Option (String × List Char)
  | 0, _, _ | _ + 1, _, [] => none
  | fuel + 1, acc, c :: rest =>
      if c == quote then
        let run := min 5 (((c :: rest).takeWhile (· == quote)).length)
        if 3 ≤ run then
          some (String.ofList (acc.reverse ++ List.replicate (run - 3) quote), rest.drop (run - 1))
        else lines? quote escapes fuel (c :: acc) rest
      else if escapes && c == '\\' then
        match afterFold? rest with
        | some rest => lines? quote escapes fuel acc rest
        | none => (escape? rest).bind fun (e, rest) => lines? quote escapes fuel (e :: acc) rest
      else if c == '\n' then lines? quote escapes fuel (c :: acc) rest
      else if c == '\r' && rest.head? == some '\n' then lines? quote escapes fuel (c :: acc) rest
      else if isPlain c then lines? quote escapes fuel (c :: acc) rest
      else none

/-- A quoted text of any kind, and what follows. A line break right after the opening quotes of
a text on several lines does not count. -/
def text? (cs : List Char) : Option (String × List Char) :=
  match cs with
  | '"' :: '"' :: '"' :: rest =>
      lines? '"' true (rest.length + 1) [] ((afterBreak? rest).getD rest)
  | '\'' :: '\'' :: '\'' :: rest =>
      lines? '\'' false (rest.length + 1) [] ((afterBreak? rest).getD rest)
  | '"' :: rest => line? '"' true (rest.length + 1) [] rest
  | '\'' :: rest => line? '\'' false (rest.length + 1) [] rest
  | _ => none

def key? (cs : List Char) : Option (String × List Char) :=
  match cs with
  | '"' :: rest => line? '"' true (rest.length + 1) [] rest
  | '\'' :: rest => line? '\'' false (rest.length + 1) [] rest
  | _ => none

end HeaterHost.Toml.Quoted
