import TemplateNav.Uri.Authority
import TemplateNav.Uri.Path

/-!
# Reading addresses

Behind its scheme an address has an authority and a path, or one of them, or a
text without structure; a query and a fragment may follow.
-/

namespace TemplateNav

namespace Uri

/-- A file's host and path in normal form.  This machine is not named, nor is a host before a path
that starts at a drive; a drive in the place of the host belongs to the path.  Behind an unnamed
host the path starts with an empty segment, so that a drive there keeps its bar. -/
def writeFileBody (text : Text) : Except UriError Text := do
  let isSlash := SchemeKind.file.isSlash
  let slashes := (text.takeWhile isSlash).length
  let (name, path) := Text.spanClass (fun c => !isSlash c) (text.drop 2)
  if slashes < 2 then
    return ['/', '/'] ++ resolveFilePath [] (text.drop slashes)
  else if (driveLetter? name).isSome then
    return ['/', '/'] ++ resolveFilePath [] (text.drop 2)
  else
    let host ← if name.isEmpty then .ok [] else writeHost .file name
    if host.isEmpty || host = "localhost".toList then
      return ['/', '/'] ++ resolveFilePath [[]] (path.drop 1)
    else
      let resolved := resolveFilePath [] (path.drop 1)
      return ['/', '/'] ++ (if startsAtDrive resolved then [] else host) ++ resolved

/-- An authority and a path in normal form.  Only schemes of no known form go without a path. -/
def writeHierarchy (kind : SchemeKind) (text : Text) : Except UriError Text := do
  let (named, path) := Text.spanClass (fun c => !kind.isSlash c) text
  let authority ← writeAuthority kind named
  let resolved :=
    if path.isEmpty && kind = .other then [] else resolvePath kind (path.drop 1)
  return ['/', '/'] ++ authority ++ resolved

/-- The part of an address behind its scheme and before its query, in normal form.  A path without
an authority must not start with two slashes, or its second segment would be read as a host. -/
def writeBody (kind : SchemeKind) (text : Text) : Except UriError Text :=
  match kind, text with
  | .file, _ => writeFileBody text
  | .network _, _ => writeHierarchy kind (text.dropWhile kind.isSlash)
  | .other, '/' :: '/' :: rest => writeHierarchy kind rest
  | .other, '/' :: rest =>
    let path := resolvePath kind rest
    .ok ((if path.take 2 = ['/', '/'] then ['/', '.'] else []) ++ path)
  | .other, _ => .ok (escapeAll "" text)

/-- Reads an address and brings it into normal form. -/
def parse (source : String) : Except UriError Uri :=
  match scheme? (clean source.toList) with
  | none => .error .relative
  | some (scheme, rest) => do
    let kind := SchemeKind.ofName scheme
    let (unmarked, fragment) := cutAt '#' rest
    let (main, query) := cutAt '?' unmarked
    let body ← writeBody kind main
    let queryText := (query.map fun text => '?' :: escapeAll (queryEscapes kind) text).getD []
    let fragmentText := (fragment.map fun text => '#' :: escapeAll fragmentEscapes text).getD []
    return ⟨String.ofList (scheme ++ [':'] ++ body ++ queryText ++ fragmentText)⟩

/-- Reads an address; a refusal is told in words. -/
def read : UriReader := fun source => (parse source).mapError UriError.message

end Uri

end TemplateNav
