import WebClip.Url.Host
import WebClip.Text.LowerCase
import WebClip.Value.Display
/-!
# Addresses

A URL in its six parts, read leniently: control characters and spaces at its start
and tabs and line ends anywhere are passed over, and only the authority can be
malformed. `join` resolves a reference against the URL of its page.
-/

namespace WebClip.Url

open WebClip.Text

/-- The parts of a URL; a part that is absent is empty. -/
structure Parts where
  scheme : List Char
  authority : List Char
  path : List Char
  params : List Char
  query : List Char
  fragment : List Char

/-- Why an authority is malformed. -/
inductive Malformed where
  | brackets
  | noAddress (host : String)
  | oldAddress
  | laterAddress
  | confusable (authority : String)

/-- What a message says about a malformed authority. -/
def Malformed.message : Malformed → String
  | brackets => "Invalid IPv6 URL"
  | noAddress host => quoted host ++ " does not appear to be an IPv4 or IPv6 address"
  | oldAddress => "An IPv4 address cannot be in brackets"
  | laterAddress => "IPvFuture address is invalid"
  | confusable authority =>
    "netloc '" ++ authority ++ "' contains invalid characters under NFKC normalization"

/-- Schemes whose last path segment may carry parameters. -/
def parameterSchemes : List String :=
  ["", "ftp", "hdl", "prospero", "http", "imap", "https", "shttp", "rtsp", "rtsps", "rtspu", "sip",
   "sips", "mms", "sftp", "tel"]

/-- Schemes with relative references. -/
def relativeSchemes : List String :=
  ["", "ftp", "http", "gopher", "nntp", "imap", "wais", "file", "https", "shttp", "mms", "prospero",
   "rtsp", "rtsps", "rtspu", "sftp", "svn", "svn+ssh", "ws", "wss"]

/-- Schemes with an authority. -/
def authoritySchemes : List String :=
  ["", "ftp", "http", "gopher", "nntp", "telnet", "imap", "wais", "file", "mms", "https", "shttp",
   "snews", "prospero", "rtsp", "rtsps", "rtspu", "rsync", "svn", "svn+ssh", "sftp", "nfs", "git",
   "git+ssh", "ws", "wss"]

/-- Whether a scheme is in a list. -/
def isAmong (schemes : List String) (scheme : List Char) : Bool :=
  schemes.contains (String.ofList scheme)

/-- A character of a scheme. -/
def isSchemeChar (c : Char) : Bool := c.isAlphanum || c == '+' || c == '-' || c == '.'

/-- Characters that become one of the delimiters of an authority under compatibility
decomposition. -/
def confusables : List Nat :=
  [0x2047, 0x2048, 0x2049, 0x2100, 0x2101, 0x2105, 0x2106, 0x2A74, 0xFE13, 0xFE16, 0xFE55, 0xFE56,
   0xFE5F, 0xFE6B, 0xFF03, 0xFF0F, 0xFF1A, 0xFF1F, 0xFF20]

/-- What is wrong with an authority, if anything is. -/
def authorityError? (authority : List Char) : Option Malformed :=
  let opens := authority.contains '['
  let closes := authority.contains ']'
  let host := (cutAt ']' ((cutAt '[' authority).2.getD [])).1
  if opens != closes then some .brackets
  else if opens && host.head? == some 'v' then
    if isLaterAddress host then none else some .laterAddress
  else if opens && isFourNumbers host then some .oldAddress
  else if opens && !isGroupAddress host then some (.noAddress (String.ofList host))
  else none

/-- The scheme of a URL, in lower case, and what follows its colon. -/
def takeScheme (url : List Char) : List Char × List Char :=
  match cutAt ':' url with
  | (c :: scheme, some rest) =>
    if c.isAlpha && scheme.all isSchemeChar then ((c :: scheme).map Char.toLower, rest)
    else ([], url)
  | _ => ([], url)

/-- The parameters of the last segment of a path, apart from the path. -/
def takeParams (path : List Char) : List Char × List Char :=
  let segment := (path.reverse.takeWhile (· != '/')).reverse
  let before := path.take (path.length - segment.length)
  match cutAt ';' segment with
  | (name, some params) => (before ++ name, params)
  | (_, none) => (path, [])

/-- Read a URL; `scheme` is the scheme of one that has none. -/
def read (scheme url : List Char) : Except Malformed Parts :=
  let url := (url.dropWhile fun c => c.toNat ≤ 32).filter fun c =>
    !(c == '\t' || c == '\r' || c == '\n')
  let (own, rest) := takeScheme url
  let scheme := if own.isEmpty then scheme else own
  let hasAuthority := startsWith ['/', '/'] rest
  let authority := if hasAuthority then
      (rest.drop 2).takeWhile fun c => !(c == '/' || c == '?' || c == '#')
    else []
  let rest := if hasAuthority then rest.drop (2 + authority.length) else rest
  let (rest, fragment) := cutAt '#' rest
  let (path, query) := cutAt '?' rest
  let (path, params) :=
    if isAmong parameterSchemes scheme then takeParams path else (path, [])
  match authorityError? authority with
  | some e => .error e
  | none =>
    if authority.any fun c => confusables.contains c.toNat then
      .error (.confusable (String.ofList authority))
    else
      .ok { scheme, authority, path, params, query := query.getD [], fragment := fragment.getD [] }

/-- The text of a URL. -/
def write (p : Parts) : List Char :=
  let path := if p.params.isEmpty then p.path else p.path ++ ';' :: p.params
  let path :=
    if !p.authority.isEmpty ||
        (!p.scheme.isEmpty && isAmong authoritySchemes p.scheme && !startsWith ['/', '/'] path) then
      let path := if !path.isEmpty && path.head? != some '/' then '/' :: path else path
      '/' :: '/' :: (p.authority ++ path)
    else path
  (if p.scheme.isEmpty then path else p.scheme ++ ':' :: path) ++
    (if p.query.isEmpty then [] else '?' :: p.query) ++
    (if p.fragment.isEmpty then [] else '#' :: p.fragment)

/-- Follow one segment of a path, with the way so far kept backwards. -/
def follow (way : List (List Char)) (segment : List Char) : List (List Char) :=
  if segment == ['.', '.'] then way.drop 1
  else if segment == ['.'] then way
  else segment :: way

/-- The path that a relative path leads to from the path of a page. -/
def resolvePath (base path : List Char) : List Char :=
  let own := splitOn '/' path
  let start := splitOn '/' base
  let start := if start.getLast? == some [] then start else start.dropLast
  let segments :=
    if path.head? == some '/' then own
    else
      let all := start ++ own
      all.take 1 ++ (((all.drop 1).dropLast).filter (!·.isEmpty)) ++
        (if all.length > 1 then [all.getLastD []] else [])
  let way := segments.foldl follow []
  let last := segments.getLastD []
  let way := if last == ['.'] || last == ['.', '.'] then [] :: way else way
  let path := ['/'].intercalate way.reverse
  if path.isEmpty then ['/'] else path

/-- The URL that a reference means on the page of another. -/
def join (base url : List Char) : Except Malformed (List Char) :=
  if base.isEmpty then .ok url
  else if url.isEmpty then .ok base
  else do
    let b ← read [] base
    let u ← read b.scheme url
    if u.scheme != b.scheme || !isAmong relativeSchemes u.scheme then pure url
    else if isAmong authoritySchemes u.scheme && !u.authority.isEmpty then pure (write u)
    else
      let u := if isAmong authoritySchemes u.scheme then { u with authority := b.authority } else u
      if u.path.isEmpty && u.params.isEmpty then
        pure (write { u with
          path := b.path, params := b.params
          query := if u.query.isEmpty then b.query else u.query })
      else pure (write { u with path := resolvePath b.path u.path })

end WebClip.Url
