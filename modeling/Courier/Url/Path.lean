import Courier.Url.Basic

/-!
# Paths of URLs

The segments of a path in normal form: `.` stays where it is, `..` removes the segment before it
unless that looks like a drive, and characters that may not stand in a path are escaped. Escaped
dots count as dots.
-/

namespace Courier.Url

/-- The characters that stay in a text without structure: all printable ASCII. -/
def keepPlain (c : Char) : Bool :=
  Percent.isAsciiGraphic c

/-- The characters that stay in a fragment. -/
def keepInFragment (c : Char) : Bool :=
  keepPlain c && !(c = ' ' || c = '"' || c = '<' || c = '>' || c.toNat = 0x60)

/-- The characters that stay in a path. -/
def keepInPath (c : Char) : Bool :=
  keepInFragment c && !(c = '#' || c = '?' || c = '\x7b' || c = '\x7d')

/-- The characters that stay in a user name or a password. -/
def keepInCredentials (c : Char) : Bool :=
  keepInPath c && !(c = '/' || c = ':' || c = ';' || c = '=' || c = '@' || c = '[' || c = '\\' ||
    c = ']' || c = '^' || c = '|')

/-- The characters that stay in a query; where the scheme has a web origin, the apostrophe does
not. -/
def keepInQuery (special : Bool) (c : Char) : Bool :=
  keepPlain c && !(c = ' ' || c = '"' || c = '#' || c = '<' || c = '>' || (special && c = '\''))

/-- A segment in which escaped dots are dots. -/
def plainDots : List Char → List Char
  | '%' :: '2' :: 'e' :: rest | '%' :: '2' :: 'E' :: rest => '.' :: plainDots rest
  | c :: rest => c :: plainDots rest
  | [] => []

/-- Whether a segment stands for the directory itself. -/
def isSingleDot (segment : List Char) : Bool :=
  plainDots segment = ['.']

/-- Whether a segment stands for the directory above. -/
def isDoubleDot (segment : List Char) : Bool :=
  plainDots segment = ['.', '.']

/-- Whether a segment names a drive: a letter, and a colon or a bar. -/
def isDrive : List Char → Bool
  | [letter, mark] => letter.isAlpha && (mark = ':' || mark = '|')
  | _ => false

/-- The segments before, without the last one. A segment that looks like a drive stays. -/
def dropLastSegment (before : List (List Char)) : List (List Char) :=
  if (before.getLast?.map isDrive).getD false then before else before.dropLast

/-- Adds a segment to those before it. A drive at the front of a file path is written with a
colon. -/
def addSegment (isFile : Bool) (before : List (List Char)) (segment : List Char) :
    List (List Char) :=
  if isFile && before.isEmpty && isDrive segment then [[segment.headD 'c', ':']]
  else before ++ [Percent.encodeChars keepInPath segment]

/-- Goes through raw segments, after those before them. The last one, if it is dots, leaves an empty
segment. -/
def normalizeSegments (isFile : Bool) : List (List Char) → List (List Char) → List (List Char)
  | before, [] => before
  | before, segment :: rest =>
    let shown (kept : List (List Char)) : List (List Char) :=
      if rest.isEmpty then kept ++ [[]] else kept
    let after :=
      if isDoubleDot segment then shown (dropLastSegment before)
      else if isSingleDot segment then shown before
      else addSegment isFile before segment
    normalizeSegments isFile after rest

/-- Whether a character separates segments. -/
def isSlash (special : Bool) (c : Char) : Bool :=
  c = '/' || (special && c = '\\')

/-- A text without the slash at its front. -/
def dropSlash (special : Bool) : List Char → List Char
  | [] => []
  | c :: rest => if isSlash special c then rest else c :: rest

/-- The path that follows an authority with a web origin: it is never empty. -/
def specialPath (text : List Char) : Path :=
  .segments (normalizeSegments false [] (splitAll (isSlash true) (dropSlash true text)))

/-- A path of segments that starts with a slash; the empty text is a path without segments. -/
def genericPath (text : List Char) : Path :=
  .segments <|
    if text.isEmpty then []
    else normalizeSegments false [] (splitAll (isSlash false) (dropSlash false text))

/-- The segments of a file path. -/
def fileSegments (text : List Char) : List (List Char) :=
  normalizeSegments true [] (splitAll (isSlash true) (dropSlash true text))

/-- The path of a file: its segments without empty ones at the front. -/
def filePath (segments : List (List Char)) : Path :=
  let named := segments.dropWhile (·.isEmpty)
  .segments (if named.isEmpty then [[]] else named)

end Courier.Url
