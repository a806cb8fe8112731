import TemplateNav.Uri.Escape

/-!
# Paths

A path is a list of segments.  Dot segments are resolved from left to right: one
dot is dropped, and two dots drop the segment before them, unless that is the
letter of a drive.
-/

namespace TemplateNav

namespace Uri

/-- A path segment with escaped dots read as dots. -/
def readDots : Text → Text
  | '%' :: '2' :: e :: rest =>
    if e = 'e' || e = 'E' then '.' :: readDots rest else '%' :: '2' :: e :: readDots rest
  | c :: rest => c :: readDots rest
  | [] => []

/-- The letter of a drive, written as a letter and a colon or bar. -/
def driveLetter? : Text → Option Char
  | [letter, mark] => if letter.isAlpha && (mark == ':' || mark == '|') then some letter else none
  | _ => none

/-- Whether a segment names a drive, alone or with a backslash behind it. -/
def namesDrive (segment : Text) : Bool :=
  (driveLetter? (segment.take 2)).isSome &&
    (segment.length = 2 || segment[2]? = some '\\')

/-- Drops the last of the segments so far, which come last first.  A drive stays. -/
def dropSegment : List Text → List Text
  | [] => []
  | last :: before => if namesDrive last then last :: before else before

/-- How a segment is written behind the segments so far.  The drive of a file, which comes first,
has a colon. -/
def writeSegment (kind : SchemeKind) (kept : List Text) (segment : Text) : Text :=
  match driveLetter? segment with
  | some letter => if kind = .file && kept.isEmpty then [letter, ':'] else segment
  | none => escapeAll pathEscapes segment

/-- Resolves dot segments; `kept` holds the segments so far, the last first.  A dot segment at the
end leaves an empty one. -/
def resolveSegments (kind : SchemeKind) (kept : List Text) : List Text → List Text
  | [] => kept.reverse
  | segment :: rest =>
    if readDots segment = ['.', '.'] then
      let kept := dropSegment kept
      resolveSegments kind (if rest.isEmpty then [] :: kept else kept) rest
    else if readDots segment = ['.'] then
      resolveSegments kind (if rest.isEmpty then [] :: kept else kept) rest
    else
      resolveSegments kind (writeSegment kind kept segment :: kept) rest

/-- Segments with a slash before each of them. -/
def joinSegments (segments : List Text) : Text :=
  segments.flatMap fun segment => '/' :: segment

/-- An absolute path in normal form, from the text behind its first slash. -/
def resolvePath (kind : SchemeKind) (text : Text) : Text :=
  joinSegments (resolveSegments kind [] (splitAtAny kind.isSlash text))

/-- The path of a file in normal form, from the text behind its first slash and the segments before
it.  Slashes at the front of such a path count once. -/
def resolveFilePath (before : List Text) (text : Text) : Text :=
  let segments := resolveSegments .file before (splitAtAny SchemeKind.file.isSlash text)
  '/' :: (joinSegments segments).dropWhile (· == '/')

/-- Whether a path in normal form starts at a drive. -/
def startsAtDrive (path : Text) : Bool :=
  (driveLetter? ((path.drop 1).takeWhile (· != '/'))).isSome

end Uri

end TemplateNav
