import BuildHerald.Http.Escape
import BuildHerald.Text.Lowercase
import BuildHerald.Text.Split

namespace BuildHerald.Http

/-- The path of an address. -/
inductive Path
  /-- A hierarchy: one segment after each slash. -/
  | segments (segments : List (List Char))
  /-- A text without structure. -/
  | flat (text : List Char)
  deriving DecidableEq

namespace Path

/-- Whether a character counts as a slash. -/
def isSlash (special : Bool) (c : Char) : Bool :=
  c == '/' || (special && c == '\\')

def isLetter (c : Char) : Bool :=
  ('a' ≤ c && c ≤ 'z') || ('A' ≤ c && c ≤ 'Z')

/-- The characters that are escaped in a path. -/
def reserved : List Char := [' ', '"', '<', '>', '\x60', '#', '?', '\x7b', '\x7d']

/-- Whether a segment means the place it stands at. -/
def isHere (segment : List Char) : Bool :=
  [".", "%2e"].contains (String.ofList (Text.asciiLower segment))

/-- Whether a segment means the place above. -/
def isAbove (segment : List Char) : Bool :=
  ["..", ".%2e", "%2e.", "%2e%2e"].contains (String.ofList (Text.asciiLower segment))

/-- Whether a segment means a place relative to another. -/
def isRelative (segment : List Char) : Bool :=
  isHere segment || isAbove segment

/-- Whether a text is a letter with a colon or a bar after it, as drives are named. -/
def isDrive : List Char → Bool
  | [letter, mark] => isLetter letter && (mark == ':' || mark == '|')
  | _ => false

/-- Whether a segment stands for a drive, so that no place above it is meant. A backslash may follow the
name of the drive. -/
def isRoot (segment : List Char) : Bool :=
  isDrive (segment.take 2) && ((segment.drop 2).headD '\\' == '\\')

/-- The segments above, given those passed so far, last one first. -/
def above : List (List Char) → List (List Char)
  | [] => []
  | segment :: before => if isRoot segment then segment :: before else before

/-- The segments of a path after those that mean a place relative to another are resolved. `passed`
holds the segments before, last one first. -/
def resolve (passed : List (List Char)) : List (List Char) → List (List Char)
  | [] => passed.reverse
  | segment :: rest =>
      if isRelative segment then
        let passed := if isAbove segment then above passed else passed
        if rest.isEmpty then ([] :: passed).reverse else resolve passed rest
      else resolve (escape reserved segment :: passed) rest

/-- The segments of a path that begins with a slash, or with nothing. -/
def segmentsOf (special : Bool) (path : List Char) : List (List Char) :=
  resolve [] (Text.pieces (isSlash special) (path.drop 1))

/-- Whether the first place that is named in segments is a drive. -/
def namesDrive (segments : List (List Char)) : Bool :=
  match segments.dropWhile isRelative with
  | segment :: _ => isDrive segment
  | [] => false

/-- Segments that name a drive, with a colon after its letter. -/
def withColon (segments : List (List Char)) : List (List Char) :=
  match segments.dropWhile isRelative with
  | [letter, _] :: rest => segments.takeWhile isRelative ++ [letter, ':'] :: rest
  | _ => segments

/-- The segments of a path of files. The first place may be a drive, and empty segments in front do not
count. -/
def ofFiles (segments : List (List Char)) : List (List Char) :=
  let resolved := resolve [] (if namesDrive segments then withColon segments else segments)
  match resolved.dropWhile List.isEmpty with
  | [] => [[]]
  | named => named

/-- A path in writing. -/
def text : Path → List Char
  | .segments places => places.flatMap ('/' :: ·)
  | .flat text => text

end Path

end BuildHerald.Http
