import WsTrust.Text.Bytes
import WsTrust.Uri
import WsTrust.Url.Address
import WsTrust.Url.Domain
import WsTrust.Url.Path

/-!
# URLs

A URI reference with a scheme is read as a URL in the sense of the URL
Standard and written in normal form.  The schemes of the web have hosts that are
domain names or addresses, and a port that goes without saying.
-/

namespace WsTrust

inductive UrlHost where
  /-- A name; it may be empty where no host is needed. -/
  | named (name : List Char)
  | fourthVersion (address : Nat)
  | sixthVersion (groups : List Nat)
  deriving DecidableEq, Repr

inductive UrlPath where
  /-- Segments, each after a slash. -/
  | segments (segments : List (List Char))
  /-- A text that does not begin with a slash. -/
  | rootless (text : List Char)
  deriving DecidableEq, Repr

/-- A URL, in normal form. -/
structure Url where
  scheme : List Char
  username : List Char
  password : List Char
  host : Option UrlHost
  port : Option Nat
  path : UrlPath
  query : Option (List Char)
  fragment : Option (List Char)
  deriving DecidableEq, Repr

namespace Url

/-! ## Schemes -/

/-- The port of each scheme of the web; `file` has hosts without ports. -/
def webSchemes : List (List Char × Option Nat) :=
  [("http".toList, some 80), ("https".toList, some 443),
    ("ws".toList, some 80), ("wss".toList, some 443),
    ("ftp".toList, some 21), ("file".toList, none)]

def isWebScheme (scheme : List Char) : Bool :=
  (webSchemes.lookup scheme).isSome

/-! ## Percent signs -/

/-- The character of a byte written after a percent sign. -/
def escaped (c : Char) : List Char :=
  ['%', (Text.hexDigit (c.toNat / 16)).toUpper,
    (Text.hexDigit (c.toNat % 16)).toUpper]

def escapeUserinfo (characters : List Char) : List Char :=
  characters.flatMap fun c =>
    if "/:;=@[\\]^|".toList.contains c then escaped c else [c]

/-- A query; on the web an apostrophe in it is escaped. -/
def escapeQuery (isWeb : Bool) (characters : List Char) : List Char :=
  characters.flatMap fun c =>
    if isWeb && c == '\x27' then escaped c else [c]

def unescapedBytes : List Char → List UInt8
  | '%' :: high :: low :: rest =>
      match Text.hexValue? high, Text.hexValue? low with
      | some high, some low =>
          UInt8.ofNat (16 * high + low) :: unescapedBytes rest
      | _, _ => UInt8.ofNat '%'.toNat :: unescapedBytes (high :: low :: rest)
  | c :: rest =>
      Text.bytesOf (String.singleton c) ++ unescapedBytes rest
  | [] => []

/-! ## Hosts -/

def bracketedHost? (characters : List Char) : Option UrlHost :=
  if characters.getLast? = some ']' then
    (sixthVersion? characters.tail.dropLast).map .sixthVersion
  else
    none

/-- The host of a scheme of the web: an address, or a domain name. -/
def webHost? (characters : List Char) : Option UrlHost :=
  if characters.head? = some '[' then
    bracketedHost? characters
  else do
    let text ← Text.ofBytes? (unescapedBytes characters)
    let name ← domainToAscii? text.toList
    if name.isEmpty then
      none
    else if endsInNumber name then
      (fourthVersion? name).map .fourthVersion
    else
      some (.named name)

/-- The host of another scheme, kept as it is. -/
def plainHost? (characters : List Char) : Option UrlHost :=
  if characters.head? = some '[' then
    bracketedHost? characters
  else
    some (.named characters)

/-- What stands before the first colon outside brackets, and what stands after
it. -/
def splitPort (inBrackets : Bool) :
    List Char → List Char × Option (List Char)
  | [] => ([], none)
  | c :: rest =>
      if c = ':' ∧ ¬inBrackets then
        ([], some rest)
      else
        let inside := c = '[' ∨ (inBrackets ∧ c ≠ ']')
        let (host, port) := splitPort inside rest
        (c :: host, port)

/-- The port that digits write, none for no digits. -/
def readPort? (digits : List Char) : Option (Option Nat) :=
  if digits.isEmpty then
    some none
  else if digits.all Uri.isDigit then
    (valueIn? 10 digits).bind fun port =>
      if port < 65536 then some (some port) else none
  else
    none

structure Location where
  username : List Char
  password : List Char
  host : UrlHost
  port : Option Nat

/-- Reads an authority.  What stands before its last `@` are credentials, and
where there are some there has to be a host; `isLast` says that nothing follows
the authority. -/
def location? (scheme : List Char) (isLast : Bool) (authority : List Char) :
    Option Location := do
  let isWeb := isWebScheme scheme
  let (userinfo, located) :=
    match Uri.splitLast? '@' authority with
    | some (userinfo, located) => (some userinfo, located)
    | none => (none, authority)
  let credentials := userinfo.getD []
  let username := credentials.takeWhile (· != ':')
  let password := (credentials.dropWhile (· != ':')).drop 1
  let (name, port) := splitPort false located
  if userinfo = some [] ∧ located.isEmpty ∧ !isLast then none
  else if name.isEmpty ∧
      (port.isSome ∨ isWeb ∨ !username.isEmpty ∨ !password.isEmpty) then none
  else
    let host ← if isWeb then webHost? name else plainHost? name
    let port ← readPort? (port.getD [])
    some
      { username := escapeUserinfo username
        password := escapeUserinfo password
        host
        port := port.filter fun port =>
          webSchemes.lookup scheme != some (some port) }

/-! ## Reading -/

/-- The segments of a path on the web, which is never empty. -/
def webSegments (path : List Char) : List (List Char) :=
  segmentsOf (if path.isEmpty then ['/'] else path)

/-- Reads what follows the scheme `file`.  A local host, and a host before a
drive, is left out. -/
def ofFile? (hierarchy : List Char) :
    Option (Option UrlHost × UrlPath) := do
  let finish (host : Option UrlHost) (path : List Char) :=
    (host, UrlPath.segments (dropEmptySegments (webSegments path)))
  match hierarchy with
  | '/' :: '/' :: rest =>
      let name := rest.takeWhile (· != '/')
      let path := rest.dropWhile (· != '/')
      if isDrive name then
        some (finish none ('/' :: rest))
      else if name.isEmpty then
        some (finish none path)
      else
        let host ← webHost? name
        let beforeDrive := entersDrive [] ((path.drop 1).splitOn '/')
        if host = .named "localhost".toList ∨ beforeDrive then
          some (finish none path)
        else
          some (finish (some host) path)
  | '/' :: rest => some (finish none ('/' :: rest))
  | path => some (finish none ('/' :: path))

/-- Reads an authority and the path after it. -/
def ofAuthority? (url : Url) (isLast : Bool) (characters : List Char) :
    Option Url := do
  let path := characters.dropWhile (· != '/')
  let location ←
    location? url.scheme (isLast && path.isEmpty)
      (characters.takeWhile (· != '/'))
  some
    { url with
      username := location.username
      password := location.password
      host := some location.host
      port := location.port
      path :=
        .segments
          (if isWebScheme url.scheme then webSegments path
          else if path.isEmpty then []
          else segmentsOf path) }

/-- The URL that a URI reference is, if it has a scheme and is well formed as
one.  On the web any number of slashes may stand before the authority. -/
def ofUri? (uri : Uri) : Option Url := do
  let (scheme, rest) ← Uri.splitFirst? ':' uri.text.toList
  if !Uri.isScheme scheme then none
  else
    let scheme := scheme.map Char.toLower
    let isWeb := isWebScheme scheme
    let hierarchy := rest.takeWhile fun c => c != '?' && c != '#'
    let suffix := rest.dropWhile fun c => c != '?' && c != '#'
    let beforeFragment := suffix.takeWhile (· != '#')
    let fragment := suffix.dropWhile (· != '#')
    let url : Url :=
      { scheme, username := [], password := [], host := none, port := none
        path := .rootless hierarchy
        query :=
          if beforeFragment.isEmpty then none
          else some (escapeQuery isWeb (beforeFragment.drop 1))
        fragment :=
          if fragment.isEmpty then none else some (fragment.drop 1) }
    if scheme = "file".toList then
      (ofFile? hierarchy).map fun (host, path) => { url with host, path }
    else if isWeb then
      ofAuthority? url suffix.isEmpty (hierarchy.dropWhile (· == '/'))
    else
      match hierarchy with
      | '/' :: '/' :: rest => ofAuthority? url suffix.isEmpty rest
      | '/' :: _ => some { url with path := .segments (segmentsOf hierarchy) }
      | _ => some url

/-! ## Writing -/

def writeHost : UrlHost → List Char
  | .named name => name
  | .fourthVersion address => writeFourthVersion address
  | .sixthVersion groups => writeSixthVersion groups

/-- The text of the credentials, nothing if both are empty. -/
def writeCredentials (url : Url) : List Char :=
  if url.username.isEmpty && url.password.isEmpty then
    []
  else if url.password.isEmpty then
    url.username ++ ['@']
  else
    url.username ++ [':'] ++ url.password ++ ['@']

def writePath : UrlPath → List Char
  | .segments segments => writeSegments segments
  | .rootless text => text

/-- What stands between the scheme and the path.  A path that begins with an
empty segment is kept from being taken for an authority. -/
def writeAuthority (url : Url) : List Char :=
  match url.host with
  | some host =>
      ['/', '/'] ++ url.writeCredentials ++ writeHost host ++
        (match url.port with
        | some port => ':' :: Nat.toDigits 10 port
        | none => [])
  | none =>
      if url.scheme = "file".toList then
        ['/', '/']
      else if ['/', '/'].isPrefixOf (writePath url.path) then
        ['/', '.']
      else
        []

def toText (url : Url) : String :=
  String.ofList
    (url.scheme ++ [':'] ++ url.writeAuthority ++ writePath url.path ++
      (match url.query with
      | some query => '?' :: query
      | none => []) ++
      (match url.fragment with
      | some fragment => '#' :: fragment
      | none => []))

end Url

end WsTrust
