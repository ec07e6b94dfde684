import SchemaBridge.Validation.Host

/-!
# Identifiers of schemas

A schema may have a URI as its identifier, and a reference may name a schema by one, which is taken
relative to the identifiers around it. A URI is read into its parts and written out of them; what
is absent from it is empty. A text whose authority names no host is no URI.
-/

namespace SchemaBridge

/-- The parts of a URI. -/
structure Uri where
  scheme : List Char
  authority : List Char
  path : List Char
  parameters : List Char := []
  query : List Char
  fragment : List Char
deriving DecidableEq

namespace Uri

open Text

/-! ## Reading and writing -/

/-- A character of a scheme. -/
def isSchemeChar (c : Char) : Bool := c.isAlphanum || "+-.".toList.contains c

/-- The scheme in lower case, and what follows it. -/
def takeScheme (text : List Char) : List Char × List Char :=
  match cut ':' text with
  | (scheme, some rest) =>
    if scheme.head?.any Char.isAlpha && scheme.all isSchemeChar then
      (scheme.map Char.toLower, rest)
    else ([], text)
  | _ => ([], text)

/-- The authority after two slashes, and what follows it. -/
def takeAuthority : List Char → List Char × List Char
  | '/' :: '/' :: rest => rest.span fun c => !"/?#".toList.contains c
  | text => ([], text)

/-- The parts of a URI, where parameters are part of the path. Control characters and spaces before
it do not count, nor do tabulators and line breaks in it. -/
def parse? (text : List Char) : Option Uri :=
  let kept := (text.dropWhile (·.toNat ≤ 0x20)).filter (!"\t\r\n".toList.contains ·)
  let (scheme, rest) := takeScheme kept
  let (authority, rest) := takeAuthority rest
  let (rest, fragment) := cut '#' rest
  let (path, query) := cut '?' rest
  if Host.isSound authority then
    some { scheme, authority, path, query := query.getD [], fragment := fragment.getD [] }
  else none

/-- The schemes with parameters after the path. -/
def parameterSchemes : List String :=
  ["", "ftp", "hdl", "prospero", "http", "imap", "https", "shttp", "rtsp", "rtsps", "rtspu", "sip",
   "sips", "mms", "sftp", "tel"]

/-- The URI with its parameters apart from its path: what follows the first semicolon in the last
segment. -/
def apart (uri : Uri) : Uri :=
  if parameterSchemes.contains (String.ofList uri.scheme) then
    let segments := parts '/' uri.path
    let (last, parameters) := cut ';' (segments.getLast?.getD [])
    { uri with
      path := joined '/' (segments.dropLast ++ [last])
      parameters := parameters.getD [] }
  else uri

/-- The schemes to which relative URIs mean something. -/
def relativeSchemes : List String :=
  ["", "ftp", "http", "gopher", "nntp", "imap", "wais", "file", "https", "shttp", "mms",
   "prospero", "rtsp", "rtsps", "rtspu", "sftp", "svn", "svn+ssh", "ws", "wss"]

/-- The schemes that have an authority, even if it is empty. -/
def authoritySchemes : List String :=
  relativeSchemes.drop 1
    ++ ["telnet", "snews", "rsync", "nfs", "git", "git+ssh"]

/-- A part of a URI with the sign before it, if there is anything of it. -/
def signed (sign : Char) (part : List Char) : List Char :=
  if part.isEmpty then [] else sign :: part

/-- The text of the authority and the path with its parameters. An empty authority is written out
for schemes that have one, unless the path looks like one itself. -/
def location (uri : Uri) : List Char :=
  let path := uri.path ++ signed ';' uri.parameters
  if !uri.authority.isEmpty
      || (authoritySchemes.contains (String.ofList uri.scheme) && !"//".toList.isPrefixOf path) then
    let path := if path.isEmpty || path.head? = some '/' then path else '/' :: path
    "//".toList ++ uri.authority ++ path
  else path

/-- The text of a URI. -/
def written (uri : Uri) : List Char :=
  let scheme := if uri.scheme.isEmpty then [] else uri.scheme ++ [':']
  scheme ++ uri.location ++ signed '?' uri.query ++ signed '#' uri.fragment

/-- A text without its fragment, and the fragment. -/
def defragmented? (text : List Char) : Option (List Char × List Char) :=
  if text.contains '#' then
    (parse? text).map fun uri => (written { uri.apart with fragment := [] }, uri.fragment)
  else some (text, [])

/-! ## Relative paths -/

/-- Segments without the empty ones between the first and the last. -/
def withoutGaps : List (List Char) → List (List Char)
  | [] => []
  | first :: rest => first :: (rest.dropLast.filter (!·.isEmpty) ++ rest.getLast?.toList)

/-- A segment that means a place and is none itself. -/
def isStep (segment : List Char) : Bool := segment == ['.'] || segment == ['.', '.']

/-- The segments of the place that segments lead to, where one point stays and two points go
up. -/
def followed (segments : List (List Char)) : List (List Char) :=
  let reached := segments.foldl
    (fun reached segment =>
      if segment = ['.', '.'] then reached.dropLast
      else if segment = ['.'] then reached
      else reached ++ [segment]) []
  if segments.getLast?.any isStep then reached ++ [[]] else reached

/-- The place to which a path leads from another one. -/
def pathFrom (base path : List Char) : List Char :=
  let start := parts '/' base
  let start := if start.getLast? = some [] then start else start.dropLast
  let given := parts '/' path
  let whole := if path.head? = some '/' then given else withoutGaps (start ++ given)
  let reached := joined '/' (followed whole)
  if reached.isEmpty then ['/'] else reached

/-- What a URI is relative to another one of the same scheme. -/
def relativeTo (uri base : Uri) : Uri :=
  if !uri.authority.isEmpty then uri
  else if uri.path.isEmpty && uri.parameters.isEmpty then
    { base with
      query := if uri.query.isEmpty then base.query else uri.query
      fragment := uri.fragment }
  else { uri with authority := base.authority, path := pathFrom base.path uri.path }

/-- What a text is relative to another one. -/
def join? (base text : List Char) : Option (List Char) :=
  if base.isEmpty then some text
  else if text.isEmpty then some base
  else do
    let baseUri := (← parse? base).apart
    let uri ← parse? text
    let uri := if uri.scheme.isEmpty then { uri with scheme := baseUri.scheme } else uri
    if uri.scheme ≠ baseUri.scheme || !relativeSchemes.contains (String.ofList uri.scheme) then
      return text
    else return (uri.apart.relativeTo baseUri).written

end Uri

end SchemaBridge
