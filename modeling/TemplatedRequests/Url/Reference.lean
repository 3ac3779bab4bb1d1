import TemplatedRequests.Url

/-!
Addresses that are written relative to another one.
-/

namespace TemplatedRequests.Url

/-- Schemes under which relative addresses have a meaning. -/
def hierarchical : List String := ["", "ftp", "http", "gopher", "nntp", "imap", "wais", "file",
  "https", "shttp", "mms", "prospero", "rtsp", "rtspu", "sftp", "svn", "svn+ssh", "ws", "wss"]

def joinedSegments (front back : List (List Char)) : List (List Char) :=
  match front ++ back with
  | [] => []
  | s :: rest => s :: rest.dropLast.filter (!·.isEmpty) ++ rest.getLast?.toList

/-- Removes segments of points. A path that ends in one ends in a slash. -/
def withoutDots (segments : List (List Char)) : List (List Char) :=
  let isDots := fun (s : List Char) => s = ['.'] || s = ['.', '.']
  let kept := segments.foldl (fun out s =>
    if s = ['.', '.'] then out.dropLast else if s = ['.'] then out else out ++ [s]) []
  if segments.getLast?.any isDots then kept ++ [[]] else kept

def joinedPath (base path : List Char) : List Char :=
  let segments := if path.head? = some '/' then path.splitOn '/'
    else
      let front := base.splitOn '/'
      joinedSegments (if front.getLast? = some [] then front else front.dropLast)
        (path.splitOn '/')
  let joined := ['/'].intercalate (withoutDots segments)
  if joined.head? = some '/' then joined else '/' :: joined

def join (base reference : Url) : String :=
  if reference.toText.isEmpty then base.toText
  else if !hierarchical.contains (String.ofList base.scheme) then reference.toText
  else if !reference.authority.isEmpty then { reference with scheme := base.scheme }.toText
  else if reference.path.isEmpty then
    { base with
      query := if reference.query.all List.isEmpty then base.query else reference.query
      fragment := reference.fragment }.toText
  else
    { base with
      path := joinedPath base.path reference.path
      query := reference.query
      fragment := reference.fragment }.toText

/-- Where a reference leads from an address. A reference with a scheme and no host is taken to the
host of the address, and the fragment of the address stays unless the reference has one. -/
def follow (u : Url) (reference : Url) (host : List Char) : Except Problem Url := do
  let target ←
    if !reference.scheme.isEmpty && reference.host.isEmpty then
      build reference.parts (some (hostText host))
    else pure reference
  let target ← if target.isAbsolute then pure target else read (u.join target).toList
  let isBlank := fun (fragment? : Option (List Char)) => fragment?.all List.isEmpty
  if isBlank u.fragment || !isBlank target.fragment then return target
  build { target.parts with fragment := u.fragment.map unescape } none

end TemplatedRequests.Url
