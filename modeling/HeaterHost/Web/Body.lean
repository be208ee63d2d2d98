import HeaterHost.Web.Json

/-!
The body of a request to run a command: an object with the command line as its field `command`, or
an array with the command line for its only item. It is read from left to right, and the first
thing that is wrong decides what is wrong.
-/

namespace HeaterHost.Web

inductive BodyError where
  | malformed
  | unsuitable
deriving Repr, DecidableEq

namespace Body

open Json

def wellFormed {α : Type} (part : Option α) : Except BodyError α :=
  match part with
  | some part => .ok part
  | none => .error .malformed

/-- What is wrong with a value that is not what it should be: nothing more than that, if it is
JSON. Objects and arrays are not looked into. -/
def mismatch (cs : List Char) : BodyError :=
  match cs with
  | '{' :: _ | '[' :: _ => .unsuitable
  | _ => if (afterScalar? true cs).isSome then .unsuitable else .malformed

def text (cs : List Char) : Except BodyError (String × List Char) :=
  match afterBlanks cs with
  | '"' :: rest => wellFormed (text? true (rest.length + 1) [] rest)
  | rest => .error (mismatch rest)

def fields : (fuel : Nat) → (found : Option String) → List Char →
    Except BodyError (String × List Char)
  | 0, _, _ => .error .malformed
  | fuel + 1, found, cs =>
      match afterBlanks cs with
      | '"' :: rest => do
          let (key, rest) ← wellFormed (text? true (rest.length + 1) [] rest)
          if key == "command" && found.isSome then throw .unsuitable
          let rest ← wellFormed (afterColon? rest)
          let (found, rest) ← if key == "command" then do
              let (line, rest) ← text rest
              pure (some line, rest)
            else do
              let rest ← wellFormed (afterValue? (rest.length + 1) rest)
              pure (found, rest)
          match afterBlanks rest, found with
          | ',' :: rest, _ => fields fuel found rest
          | '}' :: rest, some line => return (line, rest)
          | '}' :: _, none => throw .unsuitable
          | _, _ => throw .malformed
      | _ => .error .malformed

def onlyItem (cs : List Char) : Except BodyError (String × List Char) := do
  let (line, rest) ← text cs
  match afterBlanks rest with
  | ']' :: rest => return (line, rest)
  | _ => throw .malformed

def command (cs : List Char) : Except BodyError (String × List Char) :=
  match afterBlanks cs with
  | '{' :: rest =>
      match afterBlanks rest with
      | '}' :: _ => .error .unsuitable
      | rest => fields (rest.length + 1) none rest
  | '[' :: rest =>
      match afterBlanks rest with
      | ']' :: _ => .error .unsuitable
      | rest => onlyItem rest
  | rest => .error (mismatch rest)

def read (body : String) : Except BodyError String := do
  let (line, rest) ← command body.toList
  if (afterBlanks rest).isEmpty then return line else throw .malformed

end Body

end HeaterHost.Web
