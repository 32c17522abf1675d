import TypedCatalog.Service.Host

/-! Addresses and how a relative one leads on from another. -/
namespace TypedCatalog

structure Url where
  scheme : Text
  host : Text
  path : Text
  /-- What follows a semicolon in the last segment of the path. -/
  params : Text
  query : Text
  fragment : Text
  deriving DecidableEq

namespace Url

/-- Schemes whose addresses can be relative. -/
def relativeSchemes : List Text :=
  [[], "ftp", "http", "gopher", "nntp", "imap", "wais", "file", "https", "shttp", "mms", "prospero",
    "rtsp", "rtsps", "rtspu", "sftp", "svn", "svn+ssh", "ws", "wss"]

/-- Schemes whose addresses name a host. -/
def hostSchemes : List Text :=
  [[], "ftp", "http", "gopher", "nntp", "telnet", "imap", "wais", "file", "mms", "https", "shttp",
    "snews", "prospero", "rtsp", "rtsps", "rtspu", "rsync", "svn", "svn+ssh", "sftp", "nfs", "git",
    "git+ssh", "ws", "wss"]

/-- Schemes whose addresses have parameters. -/
def paramSchemes : List Text :=
  [[], "ftp", "hdl", "prospero", "http", "imap", "https", "shttp", "rtsp", "rtsps", "rtspu", "sip",
    "sips", "mms", "sftp", "tel"]

def isSchemeChar (c : Char) : Bool := Text.isAlnum c || c = '+' || c = '-' || c = '.'

/-- The scheme at the start, in small letters. -/
def cutScheme? (text : Text) : Option (Text × Text) :=
  match Text.cut? ':' text with
  | some (c :: scheme, rest) =>
    if (Text.isLower c || Text.isUpper c) && (c :: scheme).all isSchemeChar then
      some ((c :: scheme).map Text.lowerAscii, rest)
    else none
  | _ => none

def endsHost (c : Char) : Bool := c = '/' || c = '?' || c = '#'

/-- The host after two slashes. -/
def cutHost (text : Text) : Text × Text :=
  match text with
  | '/' :: '/' :: rest => (rest.takeWhile fun c => !endsHost c, rest.dropWhile fun c => !endsHost c)
  | _ => ([], text)

/-- The part before a character and the part behind it, which is empty without one. -/
def cutAt (separator : Char) (text : Text) : Text × Text :=
  (Text.cut? separator text).getD (text, [])

/-- A path and the parameters of its last segment. -/
def cutParams (path : Text) : Text × Text :=
  let last := (path.reverse.takeWhile (· ≠ '/')).reverse
  let front := path.take (path.length - last.length)
  let (name, params) := cutAt ';' last
  (front ++ name, params)

/-- Without what no address holds: controls and blanks in front, and line ends anywhere. -/
def clean (text : Text) : Text :=
  (text.dropWhile fun c => c.toNat ≤ 0x20).filter fun c => c ≠ '\t' && c ≠ '\r' && c ≠ '\n'

/-- The parts of an address; one without a scheme has the given one. -/
def parse (scheme text : Text) : Except Fault Url :=
  let text := clean text
  let (scheme, rest) := (cutScheme? text).getD (scheme, text)
  let (host, rest) := cutHost rest
  match Host.check host with
  | .error fault => .error fault
  | .ok () =>
    let (rest, fragment) := cutAt '#' rest
    let (path, query) := cutAt '?' rest
    let (path, params) := if paramSchemes.contains scheme then cutParams path else (path, [])
    .ok { scheme, host, path, params, query, fragment }

/-- Text with a part behind a mark, unless the part is empty. -/
def withPart (mark : Char) (text part : Text) : Text :=
  if part = [] then text else text ++ mark :: part

def text (url : Url) : Text :=
  let path := withPart ';' url.path url.params
  let path :=
    if url.host ≠ [] || (url.scheme ≠ [] && hostSchemes.contains url.scheme) ||
        Text.startsWith ['/', '/'] path then
      let path := if path ≠ [] && path.head? ≠ some '/' then '/' :: path else path
      '/' :: '/' :: url.host ++ path
    else path
  let all := if url.scheme = [] then path else url.scheme ++ ':' :: path
  withPart '#' (withPart '?' all url.query) url.fragment

/-- Follows dots: one stays, two lead back, and neither leaves the root. -/
def followDots : (resolved : List Text) → List Text → List Text
  | resolved, [] => resolved
  | resolved, segment :: segments =>
    if segment = ['.', '.'] then followDots resolved.dropLast segments
    else if segment = ['.'] then followDots resolved segments
    else followDots (resolved ++ [segment]) segments

/-- Drops empty segments between the first and the last. -/
def dropEmpty : List Text → List Text
  | [] => []
  | first :: rest =>
    match rest.getLast? with
    | none => [first]
    | some last => first :: rest.dropLast.filter (· ≠ []) ++ [last]

/-- The segments of a path that leads on from a base path. -/
def segments (base path : Text) : List Text :=
  if path.head? = some '/' then Text.splitOn '/' path
  else
    let parts := Text.splitOn '/' base
    let parts := if parts.getLast? = some [] then parts else parts.dropLast
    dropEmpty (parts ++ Text.splitOn '/' path)

def joinPath (base path : Text) : Text :=
  let segments := segments base path
  let resolved := followDots [] segments
  let isDirectory := segments.getLast? = some ['.'] || segments.getLast? = some ['.', '.']
  match Text.join ['/'] (if isDirectory then resolved ++ [[]] else resolved) with
  | [] => ['/']
  | path => path

/-- The address that a relative one leads to from a base. -/
def join (base relative : Text) : Except Fault Text :=
  if base = [] then .ok relative
  else if relative = [] then .ok base
  else
    match parse [] base with
    | .error fault => .error fault
    | .ok base =>
      match parse base.scheme relative with
      | .error fault => .error fault
      | .ok url =>
        if url.scheme ≠ base.scheme || !relativeSchemes.contains url.scheme then .ok relative
        else if hostSchemes.contains url.scheme && url.host ≠ [] then .ok url.text
        else
          let url := if hostSchemes.contains url.scheme then { url with host := base.host } else url
          if url.path = [] && url.params = [] then
            let query := if url.query = [] then base.query else url.query
            .ok { url with path := base.path, params := base.params, query }.text
          else .ok { url with path := joinPath base.path url.path }.text

end Url
end TypedCatalog
