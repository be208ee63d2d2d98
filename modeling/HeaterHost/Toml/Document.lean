import HeaterHost.Toml.Quoted

/-!
Reading a TOML document. Every reader takes the characters that are left and gives back what it
read and what follows it. The readers carry fuel, one unit for each character of the document,
and each step of a reader uses up a character.
-/

namespace HeaterHost.Toml

def skipSpace (cs : List Char) : List Char :=
  cs.dropWhile fun c => c == ' ' || c == '\t'

/-- What follows a comment, if one starts here; a comment has no control characters. -/
def skipComment? (cs : List Char) : Option (List Char) :=
  match cs with
  | '#' :: rest =>
      let body := rest.takeWhile fun c => c != '\n' && c != '\r'
      if body.all Quoted.isPlain then some (rest.drop body.length) else none
  | _ => some cs

def skipLines? : (fuel : Nat) → List Char → Option (List Char)
  | 0, cs => some cs
  | fuel + 1, cs => do
      let rest ← skipComment? (skipSpace cs)
      match Quoted.afterBreak? rest with
      | some rest => skipLines? fuel rest
      | none => return rest

/-- What follows the end of a line: spaces, perhaps a comment, then a line break or the end of
the document. -/
def endLine? (cs : List Char) : Option (List Char) := do
  let rest ← skipComment? (skipSpace cs)
  if rest.isEmpty then return [] else Quoted.afterBreak? rest

def isBareKey (c : Char) : Bool :=
  c.isAlphanum || c == '_' || c == '-'

def keyStep? (cs : List Char) : Option (String × List Char) :=
  match cs with
  | '"' :: _ | '\'' :: _ => Quoted.key? cs
  | _ =>
      let bare := cs.takeWhile isBareKey
      if bare.isEmpty then none else some (String.ofList bare, cs.drop bare.length)

def key? : (fuel : Nat) → List Char → Option (List String × List Char)
  | 0, _ => none
  | fuel + 1, cs => do
      let (step, rest) ← keyStep? (skipSpace cs)
      match skipSpace rest with
      | '.' :: rest => (key? fuel rest).map fun (steps, rest) => (step :: steps, rest)
      | rest => return ([step], rest)

/-- The characters of a value without quotes. A date and a time may have one space between
them. -/
def literalLength (cs : List Char) : Nat :=
  let isPart := fun (c : Char) =>
    !(c == ' ' || c == '\t' || c == ',' || c == ']' || c == '}' || c == '[' || c == '\x7b' ||
      c == '#' || c == '=' || c == '\n' || c == '\r')
  let first := cs.takeWhile isPart
  match cs.drop first.length with
  | ' ' :: rest =>
      if (Datetime.date? first) == some [] && (rest.head?.map Char.isDigit) == some true then
        first.length + 1 + (rest.takeWhile isPart).length
      else first.length
  | _ => first.length

/-- How deep arrays and inline tables may be nested. -/
def maxDepth : Nat := 80

mutual

def value? : (fuel depth : Nat) → List Char → Option (Value × List Char)
  | 0, _, _ => none
  | fuel + 1, depth, cs =>
      match cs with
      | '"' :: _ | '\'' :: _ => (Quoted.text? cs).map fun (s, rest) => (.text s, rest)
      | '[' :: rest =>
          if depth < maxDepth then
            (items? fuel (depth + 1) [] rest).map fun (items, rest) => (.array items, rest)
          else none
      | '\x7b' :: rest =>
          if depth < maxDepth then
            (pairs? fuel (depth + 1) [] rest).map fun (entries, rest) =>
              (.table (Node.entryValues entries), rest)
          else none
      | _ =>
          let length := literalLength cs
          (Literal.value? (cs.take length)).map fun value => (value, cs.drop length)

/-- The rest of an array. A comma may follow the last item. -/
def items? : (fuel depth : Nat) → (acc : List Value) → List Char →
    Option (List Value × List Char)
  | 0, _, _, _ => none
  | fuel + 1, depth, acc, cs => do
      let rest ← skipLines? fuel cs
      match rest with
      | ']' :: rest => return (acc.reverse, rest)
      | _ =>
          let (item, rest) ← value? fuel depth rest
          let rest ← skipLines? fuel rest
          match rest with
          | ',' :: rest => items? fuel depth (item :: acc) rest
          | ']' :: rest => return ((item :: acc).reverse, rest)
          | _ => none

/-- The rest of an inline table. A comma may follow the last pair. -/
def pairs? : (fuel depth : Nat) → (acc : Entries) → List Char → Option (Entries × List Char)
  | 0, _, _, _ => none
  | fuel + 1, depth, acc, cs => do
      let rest ← skipLines? fuel cs
      match rest with
      | '}' :: rest => return (acc, rest)
      | _ =>
          let (path, rest) ← key? fuel rest
          match rest with
          | '=' :: rest =>
              let (value, rest) ← value? fuel depth (skipSpace rest)
              let acc ← acc.set path value
              let rest ← skipLines? fuel rest
              match rest with
              | ',' :: rest => pairs? fuel depth acc rest
              | '}' :: rest => return (acc, rest)
              | _ => none
          | _ => none

end

def closing? (mark : List Char) (cs : List Char) : Option (List Char) :=
  (Text.afterStart mark (skipSpace cs)).bind endLine?

def setUnder (header path : List String) (value : Value) (entries : Entries) : Option Entries :=
  entries.under false (fun inner => inner.set path value) header

def lines? : (fuel : Nat) → (header : List String) → Entries → List Char → Option Entries
  | 0, _, entries, cs => if cs.isEmpty then some entries else none
  | fuel + 1, header, entries, cs => do
      match (← skipLines? fuel cs) with
      | [] => return entries
      | '[' :: '[' :: rest =>
          let (path, rest) ← key? fuel rest
          let rest ← closing? [']', ']'] rest
          lines? fuel path (← entries.openElement path) rest
      | '[' :: rest =>
          let (path, rest) ← key? fuel rest
          let rest ← closing? [']'] rest
          lines? fuel path (← entries.openTable path) rest
      | rest =>
          let (path, rest) ← key? fuel rest
          match rest with
          | '=' :: rest =>
              let (value, rest) ← value? fuel 0 (skipSpace rest)
              let rest ← endLine? rest
              lines? fuel header (← setUnder header path value entries) rest
          | _ => none

/-- The top level table of a document, if it is well formed. A byte order mark in front of it
does not count. -/
def parse? (document : String) : Option (List (String × Value)) :=
  let cs := match document.toList with
    | '\uFEFF' :: rest => rest
    | cs => cs
  (lines? (cs.length + 2) [] [] cs).map Node.entryValues

end HeaterHost.Toml
