import Folio.Http.Host

namespace Folio.Http

open Folio.Number Folio.Text

structure Url where
  scheme : List Char := []
  userinfo : List Char := []
  host : List Char := []
  port : Option Int := none
  path : List Char := []
  query : Option (List Char) := none
  fragment : Option (List Char) := none
  deriving DecidableEq, Repr

inductive UrlFlaw where
  | tooLong
  | unprintable (c : Char) (index : Nat)
  | host (flaw : HostFlaw) (text : String)
  | badPort (text : String)
  | unrooted
  | doubleSlash
  | leadingColon
  deriving DecidableEq, Repr

def UrlFlaw.message : UrlFlaw → String
  | tooLong => "URL too long"
  | unprintable c index =>
    let shown := quoted (String.singleton c)
    s!"Invalid non-printable ASCII character in URL, {shown} at position {index}."
  | host .badQuad text => s!"Invalid IPv4 address: {quoted text}"
  | host .badBracketed text => s!"Invalid IPv6 address: {quoted text}"
  | host .badName text => s!"Invalid IDNA hostname: {quoted text}"
  | badPort text => s!"Invalid port: {quoted text}"
  | unrooted => "For absolute URLs, path must be empty or begin with '/'"
  | doubleSlash => "Relative URLs cannot have a path starting with '//'"
  | leadingColon => "Relative URLs cannot have a path starting with ':'"

def isSafe (marks : String) (c : Char) : Bool :=
  0x20 < c.toNat && c.toNat < 0x7F && !marks.toList.contains c

def isFragmentChar : Char → Bool := isSafe "\"<>\x60"

def isQueryChar : Char → Bool := isSafe "\"#<>"

def isPathChar : Char → Bool := isSafe "\"#<>?\x60\x7b\x7d"

def isUserChar : Char → Bool := isSafe "\"#<>?\x60\x7b\x7d/;=@[\\]^|"

def cut (ends : List Char) (cs : List Char) : List Char × List Char :=
  (cs.takeWhile (!ends.contains ·), cs.dropWhile (!ends.contains ·))

def splitScheme (cs : List Char) : List Char × List Char :=
  let name := cs.takeWhile fun c => c.isAlphanum || c == '+' || c == '.' || c == '-'
  match cs.drop name.length with
  | ':' :: rest => if name.head?.all Char.isAlpha then (name, rest) else ([], cs)
  | _ => ([], cs)

def splitPart (mark : Char) (ends : List Char) (cs : List Char) : Option (List Char) × List Char :=
  match cs with
  | c :: rest =>
    if c = mark then
      let (part, rest) := cut ends rest
      (some part, rest)
    else (none, cs)
  | [] => (none, [])

def splitUser (cs : List Char) : List Char × List Char :=
  let tail := (cs.reverse.takeWhile (· != '@')).reverse
  (cs.take (cs.length - tail.length - 1), tail)

def splitHost (cs : List Char) : List Char × List Char :=
  let bracketed := (cs.reverse.dropWhile (· != ']')).reverse
  let host := if cs.head? = some '[' ∧ !bracketed.isEmpty then bracketed else (cut [':'] cs).1
  match cs.drop host.length with
  | ':' :: port => (host, port)
  | port => (host, port)

/-- An integer as it stands for a port: trimmed, with a sign and grouped digits of any script. -/
def portNumber? (cs : List Char) : Option Int :=
  let (negative, body) := signed ((trim isBlank cs).map asciiDigit)
  (ungrouped? body).bind fun ds =>
    if allDigits ds && ds.length ≤ longestInteger then
      some (if negative then -(natOf ds : Int) else natOf ds)
    else none

def usualPort? (scheme : String) : Option Int :=
  match scheme with
  | "http" => some 80
  | "ws" => some 80
  | "https" => some 443
  | "wss" => some 443
  | "ftp" => some 21
  | _ => none

def sentPort (scheme text : List Char) : Except UrlFlaw (Option Int) :=
  if text.isEmpty then .ok none
  else match portNumber? text with
    | none => .error (.badPort (String.ofList text))
    | some n => .ok (if usualPort? (String.ofList scheme) = some n then none else some n)

def withoutDots (path : List Char) : List Char :=
  let step := fun (done : List (List Char)) (name : List Char) =>
    if name == ['.'] then done
    else if name == ['.', '.'] then
      if done.isEmpty || done == [[]] then done else done.dropLast
    else done ++ [name]
  ['/'].intercalate ((Path.splitOn '/' path).foldl step [])

namespace Url

def hasAuthority (u : Url) : Bool :=
  !u.userinfo.isEmpty || !u.host.isEmpty || u.port.isSome

def isAbsolute (u : Url) : Bool :=
  !u.scheme.isEmpty && !u.host.isEmpty

def withPath (u : Url) (path : List Char) : Except UrlFlaw Url :=
  let isBare := u.scheme.isEmpty && !u.hasAuthority
  if u.hasAuthority && !path.isEmpty && path.head? != some '/' then .error .unrooted
  else if isBare && ['/', '/'].isPrefixOf path then .error .doubleSlash
  else if isBare && path.head? == some ':' then .error .leadingColon
  else
    let path := if isBare then path else withoutDots path
    .ok { u with path := percentEncoded isPathChar path }

def ofParts (cs : List Char) : Except UrlFlaw Url := do
  let (scheme, rest) := splitScheme cs
  let (authority, rest) := match rest with
    | '/' :: '/' :: rest => cut ['/', '?', '#'] rest
    | rest => ([], rest)
  let (path, rest) := cut ['?', '#'] rest
  let (query, rest) := splitPart '?' ['#'] rest
  let (fragment, _) := splitPart '#' [] rest
  let (user, rest) := splitUser authority
  let (hostText, portText) := splitHost rest
  let host ← (sentHost hostText).mapError (.host · (String.ofList hostText))
  let port ← sentPort scheme portText
  let u : Url := {
    scheme := scheme.map Char.toLower
    userinfo := percentEncoded isUserChar user
    host
    port
    query := query.map (percentEncoded isQueryChar)
    fragment := fragment.map (percentEncoded isFragmentChar) }
  u.withPath path

def longest : Nat := 65536

def isControl (c : Char) : Bool :=
  c.toNat < 0x20 || c.toNat = 0x7F

def read (s : String) : Except UrlFlaw Url :=
  let cs := s.toList
  if longest < cs.length then .error .tooLong
  else match cs.dropWhile (!isControl ·) with
    | c :: rest => .error (.unprintable c (cs.length - rest.length - 1))
    | [] => ofParts cs

def authority (u : Url) : List Char :=
  (if u.userinfo.isEmpty then [] else u.userinfo ++ ['@']) ++
    (if u.host.contains ':' then '[' :: u.host ++ [']'] else u.host) ++
    (u.port.map fun n => ':' :: (toString n).toList).getD []

def text (u : Url) : String :=
  let scheme := if u.scheme.isEmpty then [] else u.scheme ++ [':']
  let authority := if u.authority.isEmpty then [] else '/' :: '/' :: u.authority
  String.ofList (scheme ++ authority ++ u.path ++ (u.query.map ('?' :: ·)).getD [] ++
    (u.fragment.map ('#' :: ·)).getD [])

def target (u : Url) : Url :=
  if u.isAbsolute then u else { path := '/' :: u.path.dropWhile (· == '/'), query := u.query }

end Url

end Folio.Http
