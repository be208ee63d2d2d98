import HeaterHost.Text.Blank

/-!
Media types, as they stand in a request to say what its body is.
-/

namespace HeaterHost.Web

structure MediaType where
  kind : String
  subtype : String
  suffix : Option String := none
deriving Repr, DecidableEq

namespace MediaType

def isToken (c : Char) : Bool :=
  c.isAlphanum || "!#$%&'+-.^_\x60|~".toList.contains c

def afterValue? (cs : List Char) : Option (List Char) :=
  let plain := cs.dropWhile isToken
  match plain with
  | [] => some []
  | ';' :: rest => if plain.length < cs.length then some rest else none
  | _ => none

/-- What follows a quoted parameter value, read after its opening quote. The value is not empty:
a quote right at its start belongs to it. -/
def afterQuoted? (cs : List Char) : Option (List Char) :=
  let isInner := fun c : Char => 0x20 ≤ c.toNat && c.toNat != 0x7F
  match cs.head?, (cs.drop 1).dropWhile fun c => isInner c && c != '"' with
  | some first, '"' :: rest =>
      if isInner first then
        match rest.dropWhile (· == ' ') with
        | [] => some []
        | ';' :: rest => some rest
        | _ => none
      else none
  | _, _ => none

/-- Whether parameters are well formed: each a name, an equals sign and a value. Spaces may stand
before the name. -/
def areParameters : (fuel : Nat) → List Char → Bool
  | 0, _ => false
  | fuel + 1, cs =>
      match cs.dropWhile (· == ' ') with
      | [] => true
      | start =>
          match start.takeWhile isToken, start.dropWhile isToken with
          | _ :: _, '=' :: '"' :: rest => (afterQuoted? rest).any (areParameters fuel)
          | _ :: _, '=' :: rest => (afterValue? rest).any (areParameters fuel)
          | _, _ => false

/-- The type of its two names. A plus sign at the start of the second parts nothing. -/
def ofNames (kind name : List Char) : MediaType :=
  let lower := fun cs : List Char => String.ofList (cs.map Char.toLower)
  let suffix := (name.reverse.takeWhile (· != '+')).reverse
  if suffix.length + 1 < name.length then
    { kind := lower kind
      subtype := lower (name.take (name.length - suffix.length - 1))
      suffix := some (lower suffix) }
  else { kind := lower kind, subtype := lower name }

def parse? (s : String) : Option MediaType := do
  let (kind, rest) ← Text.cutAt '/' s.toList
  guard (!kind.isEmpty && kind.all isToken)
  let name := rest.takeWhile isToken
  match rest.dropWhile isToken with
  | [] => return ofNames kind name
  | ';' :: parameters =>
      guard (!name.isEmpty && areParameters (parameters.length + 1) parameters)
      return ofNames kind name
  | _ => none

def isJson (t : MediaType) : Bool :=
  t.kind == "application" && (t.subtype == "json" || t.suffix == some "json")

end MediaType

end HeaterHost.Web
