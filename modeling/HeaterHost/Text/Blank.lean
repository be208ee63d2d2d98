/-!
White space, and the cuts of a text that depend on it: trimming, words, and the first occurrence
of a mark. All of them work on lists of characters; the text versions wrap them.
-/

namespace HeaterHost.Text

/-- White space: the characters with Unicode's `White_Space` property. -/
def isBlank (c : Char) : Bool :=
  let n := c.toNat
  (0x9 ≤ n && n ≤ 0xD) || n == 0x20 || n == 0x85 || n == 0xA0 || n == 0x1680 ||
    (0x2000 ≤ n && n ≤ 0x200A) || n == 0x2028 || n == 0x2029 || n == 0x202F || n == 0x205F ||
    n == 0x3000

/-- Drops the characters in the class `p` from both ends. -/
def stripBoth (p : Char → Bool) (cs : List Char) : List Char :=
  ((cs.dropWhile p).reverse.dropWhile p).reverse

def trimmed (cs : List Char) : List Char :=
  stripBoth isBlank cs

def words (cs : List Char) : List (List Char) :=
  (cs.splitOnP isBlank).filter fun word => !word.isEmpty

/-- The parts before and after the first `mark`, if there is one. -/
def cutAt (mark : Char) : List Char → Option (List Char × List Char)
  | [] => none
  | c :: cs =>
      if c == mark then some ([], cs)
      else (cutAt mark cs).map fun (before, after) => (c :: before, after)

/-- What is left of `cs` after `start`, if `cs` starts with it. -/
def afterStart : (start cs : List Char) → Option (List Char)
  | [], cs => some cs
  | _ :: _, [] => none
  | s :: start, c :: cs => if s == c then afterStart start cs else none

/-- What follows the first occurrence of `mark`. -/
def afterFirst (mark : List Char) : List Char → Option (List Char)
  | [] => afterStart mark []
  | c :: cs => (afterStart mark (c :: cs)).or (afterFirst mark cs)

/-- What follows the last `mark`, or the whole text if there is none. -/
def afterLast (mark : Char) (cs : List Char) : List Char :=
  (cs.reverse.takeWhile (· != mark)).reverse

def trim (s : String) : String :=
  String.ofList (trimmed s.toList)

/-- Upper case for the ASCII letters; every other character stays. -/
def asciiUpper (cs : List Char) : List Char :=
  cs.map Char.toUpper

/-- The text `s` padded on the left with `fill` to at least `width` characters. -/
def padStart (fill : Char) (width : Nat) (cs : List Char) : List Char :=
  List.replicate (width - cs.length) fill ++ cs

def commaJoined (parts : List String) : String :=
  String.intercalate "," parts

end HeaterHost.Text
