import Stencil.Fault
import Stencil.Text.Slug
import Stencil.Url.Percent
/-!
Addresses taken apart into scheme, authority, path, query and fragment, and relative addresses
joined to a base.
-/

namespace Stencil

structure Url where
  scheme : Text
  authority : Text
  path : Text
  query : Text
  fragment : Text
deriving DecidableEq, Repr

namespace Url

def isSchemeChar (c : Char) : Bool :=
  Text.isAsciiLetter c || Text.isAsciiDigit c || c == '+' || c == '-' || c == '.'

/-- The texts before and after the first `c`; without one the whole text and nothing. -/
def partition (c : Char) (s : Text) : Text × Option Text :=
  (s.takeWhile (· != c),
    match s.dropWhile (· != c) with
    | _ :: rest => some rest
    | [] => none)

/-- An address with a scheme in front has letters, digits, `+`, `-` and `.` before its colon. -/
def splitScheme (default : Text) (s : Text) : Text × Text :=
  match partition ':' s with
  | (scheme, some rest) =>
      if (scheme.head?.map Text.isAsciiLetter).getD false && scheme.all isSchemeChar then
        (scheme.map Char.toLower, rest)
      else (default, s)
  | _ => (default, s)

private def isOctet (s : Text) : Bool :=
  !s.isEmpty && s.all Text.isAsciiDigit && s.length ≤ 3 && (s == ['0'] || s.head? != some '0') &&
    s.foldl (fun n c => 10 * n + (c.toNat - 48)) 0 ≤ 255

/-- Four numbers up to 255 without leading zeros. -/
def isIPv4 (s : Text) : Bool :=
  let parts := s.splitAt '.'
  parts.length == 4 && parts.all isOctet

private def isHextet (s : Text) : Bool :=
  !s.isEmpty && s.length ≤ 4 && s.all fun c => (hexValue? c).isSome

/-- Eight groups of hexadecimal digits; one empty place stands for a run of zeros, and the last two
groups may be an address of four numbers. -/
private def isIPv6Groups (s : Text) : Bool :=
  let parts := s.splitAt ':'
  if parts.length < 3 then false
  else
    let last := parts.getLastD []
    let parts? :=
      if last.elem '.' then
        if isIPv4 last then some (parts.dropLast ++ [['0'], ['0']]) else none
      else some parts
    match parts? with
    | none => false
    | some parts =>
        if 9 < parts.length then false
        else
          let inner := (parts.drop 1).dropLast
          match (List.range inner.length).filter fun i => (inner[i]?).any (·.isEmpty) with
          | [] => parts.length == 8 && parts.all isHextet
          | [i] =>
              let high := parts.take (i + 1)
              let low := parts.drop (i + 2)
              let high' := if high.head? == some [] then high.drop 1 else high
              let low' := if low.getLast? == some [] then low.dropLast else low
              (high'.length == high.length || high'.isEmpty) &&
                (low'.length == low.length || low'.isEmpty) &&
                high'.length + low'.length < 8 && high'.all isHextet && low'.all isHextet
          | _ => false

def isIPv6 (s : Text) : Bool :=
  if s.elem '/' then false
  else
    match partition '%' s with
    | (groups, none) => isIPv6Groups groups
    | (groups, some zone) => !zone.isEmpty && !zone.elem '%' && isIPv6Groups groups

def isFutureHost (s : Text) : Bool :=
  match s with
  | 'v' :: s =>
      let digits := s.takeWhile fun c => (hexValue? c).isSome
      match s.drop digits.length with
      | '.' :: rest => !digits.isEmpty && !rest.isEmpty && !rest.elem '\n'
      | _ => false
  | _ => false

/-- Brackets in an authority come in pairs and hold an address; no character may fold to one that
ends or divides an authority. -/
def isAuthority (s : Text) : Bool :=
  let opens := s.elem '['
  let closes := s.elem ']'
  let host := (partition ']' ((partition '[' s).2.getD [])).1
  opens == closes &&
    (!opens || (if host.head? == some 'v' then isFutureHost host else isIPv6 host)) &&
    s.all fun c => c.toNat < 128 || !(Text.foldChar c).any ("/?#@:".toList.elem ·)

def isAuthorityEnd (c : Char) : Bool := c == '/' || c == '?' || c == '#'

/-- Takes an address apart; `default` is the scheme of an address that names none. -/
def splitWith (default s : Text) : Except Fault Url := do
  let s := (s.dropWhile fun c => c.toNat ≤ 32).filter fun c => c != '\t' && c != '\r' && c != '\n'
  let (scheme, s) := splitScheme default s
  let (authority, s) :=
    match s with
    | '/' :: '/' :: s => (s.takeWhile (!isAuthorityEnd ·), s.dropWhile (!isAuthorityEnd ·))
    | s => ([], s)
  if !isAuthority authority then throw .outOfDomain
  let (s, fragment) := partition '#' s
  let (path, query) := partition '?' s
  return ⟨scheme, authority, path, query.getD [], fragment.getD []⟩

def split (s : Text) : Except Fault Url := splitWith [] s

/-- The host in lower case, without what stands up to the last `@` or behind its colon, and without
the brackets of an address; a zone keeps its case. -/
def host (u : Url) : Text :=
  let info := (u.authority.reverse.takeWhile (· != '@')).reverse
  let name :=
    match partition '[' info with
    | (_, some bracketed) => (partition ']' bracketed).1
    | (_, none) => (partition ':' info).1
  match partition '%' name with
  | (name, some zone) => Text.toLower name ++ '%' :: zone
  | (name, none) => Text.toLower name

private def relativeSchemes : List Text :=
  ["", "ftp", "http", "gopher", "nntp", "imap", "wais", "file", "https", "shttp", "mms",
    "prospero", "rtsp", "rtsps", "rtspu", "sftp", "svn", "svn+ssh", "ws", "wss"].map String.toList

private def authoritySchemes : List Text :=
  ["", "ftp", "http", "gopher", "nntp", "telnet", "imap", "wais", "file", "mms", "https", "shttp",
    "snews", "prospero", "rtsp", "rtsps", "rtspu", "rsync", "svn", "svn+ssh", "sftp", "nfs", "git",
    "git+ssh", "ws", "wss"].map String.toList

private def parameterSchemes : List Text :=
  ["", "ftp", "hdl", "prospero", "http", "imap", "https", "shttp", "rtsp", "rtsps", "rtspu", "sip",
    "sips", "mms", "sftp", "tel"].map String.toList

/-- Parameters of the last segment of a path, for schemes that have them. -/
def splitParameters (u : Url) : Text × Text :=
  if parameterSchemes.elem u.scheme then
    let last := (u.path.reverse.takeWhile (· != '/')).reverse
    let front := u.path.take (u.path.length - last.length)
    match partition ';' last with
    | (segment, some parameters) => (front ++ segment, parameters)
    | _ => (u.path, [])
  else (u.path, [])

def unsplit (u : Url) (parameters : Text) : Text :=
  let path := if parameters.isEmpty then u.path else u.path ++ ';' :: parameters
  let path :=
    if !u.authority.isEmpty || (!u.scheme.isEmpty && authoritySchemes.elem u.scheme) ||
        "//".toList.isPrefixOf path then
      let path := if !path.isEmpty && path.head? != some '/' then '/' :: path else path
      "//".toList ++ u.authority ++ path
    else path
  (if u.scheme.isEmpty then [] else u.scheme ++ [':']) ++ path ++
    (if u.query.isEmpty then [] else '?' :: u.query) ++
    (if u.fragment.isEmpty then [] else '#' :: u.fragment)

/-- Removes the segments `.` and `..`; `..` takes the segment before it away, if there is one. -/
def resolveDots (segments : List Text) : List Text :=
  let resolved := segments.foldl
    (fun (stack : List Text) segment =>
      if segment == "..".toList then stack.drop 1
      else if segment == ['.'] then stack
      else segment :: stack) []
  let last := segments.getLastD []
  (if last == ['.'] || last == "..".toList then [] :: resolved else resolved).reverse

def joinPaths (base path : Text) : Text :=
  let parts := base.splitAt '/'
  let parts := if parts.getLastD [] != [] then parts.dropLast else parts
  let segments :=
    if path.head? == some '/' then path.splitAt '/'
    else
      match parts ++ path.splitAt '/' with
      | [] => []
      | [s] => [s]
      | s :: rest => s :: rest.dropLast.filter (!·.isEmpty) ++ [rest.getLastD []]
  let joined := Text.join ['/'] (resolveDots segments)
  if joined.isEmpty then ['/'] else joined

def join (base address : Text) : Except Fault Text := do
  if base.isEmpty then return address
  if address.isEmpty then return base
  let b ← split base
  let u ← splitWith b.scheme address
  if u.scheme != b.scheme || !relativeSchemes.elem u.scheme then return address
  let (basePath, baseParameters) := splitParameters b
  let (path, parameters) := splitParameters u
  if authoritySchemes.elem u.scheme && !u.authority.isEmpty then
    return { u with path := path }.unsplit parameters
  let authority := if authoritySchemes.elem u.scheme then b.authority else u.authority
  if path.isEmpty && parameters.isEmpty then
    let query := if u.query.isEmpty then b.query else u.query
    return { u with authority := authority, path := basePath, query := query }.unsplit
      baseParameters
  return { u with authority := authority, path := joinPaths basePath path }.unsplit parameters

end Url

end Stencil
