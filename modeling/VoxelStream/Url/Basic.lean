import VoxelStream.Url.Host

/-!
# URLs

A URL is read into its parts and written in its normal form.  Reading follows the living standard
for absolute URLs.  A *special* scheme, such as `http`, has a host and a path of segments, and takes
backslashes for slashes.  Other schemes may have a host, or an *opaque* path that is kept as it is.

Reading percent-encodes each part by the rules of the part, resolves `.` and `..` in paths, and
drops the standard port of the scheme.

`Url.redacted` drops what may be secret: user, password, query and fragment.
-/

namespace VoxelStream

/-- The path of a URL. -/
inductive UrlPath where
  /-- A text that is not taken apart. -/
  | opaquePath (text : List Char)
  /-- Segments, each behind a slash. -/
  | segments (parts : List (List Char))
deriving DecidableEq

/-- A URL in its parts, each in its normal form. -/
structure Url where
  /-- The scheme in lower case. -/
  scheme : List Char
  username : List Char := []
  password : List Char := []
  host : Option (List Char) := none
  /-- The port, unless it is the standard one. -/
  port : Option Nat := none
  path : UrlPath
  query : Option (List Char) := none
  fragment : Option (List Char) := none
deriving DecidableEq

namespace Url

/-! ## Schemes -/

/-- The standard port of a special scheme. -/
def defaultPort? (scheme : List Char) : Option Nat :=
  if scheme = "http".toList ∨ scheme = "ws".toList then some 80
  else if scheme = "https".toList ∨ scheme = "wss".toList then some 443
  else if scheme = "ftp".toList then some 21
  else none

def isFileScheme (scheme : List Char) : Bool := scheme = "file".toList

def isSpecial (scheme : List Char) : Bool :=
  (defaultPort? scheme).isSome || isFileScheme scheme

/-- What a scheme is made of after its first letter. -/
def isSchemeChar (c : Char) : Bool := c.isAlphanum || "+-.".toList.contains c

/-- The scheme in front of the first colon, in lower case, and the rest. -/
def scanScheme (s : List Char) : Option (List Char × List Char) :=
  match s.takeWhile isSchemeChar, s.dropWhile isSchemeChar with
  | first :: more, ':' :: rest =>
    if first.isAlpha then some ((first :: more).map Char.toLower, rest) else none
  | _, _ => none

/-! ## Parts -/

/-- The text in front of the first of some characters, and the text after it if there is one. -/
def cutAt (stop : Char → Bool) (s : List Char) : List Char × Option (List Char) :=
  match s.dropWhile (!stop ·) with
  | [] => (s, none)
  | _ :: rest => (s.takeWhile (!stop ·), some rest)

/-- The text before the last of some characters, if there is one, and the text after it. -/
def cutAtLast (stop : Char → Bool) (s : List Char) : Option (List Char) × List Char :=
  match cutAt stop s.reverse with
  | (back, some front) => (some front.reverse, back.reverse)
  | (_, none) => (none, s)

/-- The user name and the password of the part before the at sign. -/
def userInfo (s : List Char) : List Char × List Char :=
  let (name, password) := cutAt (· = ':') s
  (Percent.encode Percent.inUserInfo name,
    Percent.encode Percent.inUserInfo (password.getD []))

/-- The host and the port of an authority.  Colons inside brackets belong to the host. -/
def cutPort (s : List Char) : List Char × Option (List Char) :=
  match s with
  | '[' :: _ =>
    let inside := s.takeWhile (· != ']')
    match s.dropWhile (· != ']') with
    | ']' :: ':' :: port => (inside ++ [']'], some port)
    | _ => (s, none)
  | s => cutAt (· = ':') s

/-- A port.  Without digits, and for the standard port, there is none. -/
def port? (scheme : List Char) (digits : List Char) : Option (Option Nat) :=
  if digits.isEmpty then some none
  else if digits.all Char.isDigit ∧ Decimal.value digits ≤ 65535 then
    if defaultPort? scheme = some (Decimal.value digits) then some none
    else some (some (Decimal.value digits))
  else none

/-- A segment that stands for the current place. -/
def isHere (segment : List Char) : Bool :=
  let s := segment.map Char.toLower
  s = ".".toList || s = "%2e".toList

/-- A segment that stands for the place above. -/
def isUp (segment : List Char) : Bool :=
  let s := segment.map Char.toLower
  s = "..".toList || s = ".%2e".toList || s = "%2e.".toList || s = "%2e%2e".toList

/-- The segments of a path after those already there, which are kept in reverse.  A place given at
the end of a path is a directory. -/
def resolve (done : List (List Char)) : List (List Char) → List (List Char)
  | [] => done.reverse
  | segment :: rest =>
    if isUp segment then
      let above := done.drop 1
      resolve (if rest.isEmpty then [] :: above else above) rest
    else if isHere segment then resolve (if rest.isEmpty then [] :: done else done) rest
    else resolve (Percent.encode Percent.inPath segment :: done) rest

/-- The segments of a path that starts with a slash or is empty. -/
def pathSegments (special : Bool) (s : List Char) : List (List Char) :=
  let s := if special then s.map fun c => if c = '\\' then '/' else c else s
  match s with
  | '/' :: s => resolve [] (Host.splitOn '/' s)
  | [] => if special then [[]] else []
  | s => resolve [] (Host.splitOn '/' s)

/-! ## Reading -/

def endsAuthority (special : Bool) (c : Char) : Bool := c = '/' || special && c = '\\'

/-- The authority and the path of a text. -/
def cutAuthority (special : Bool) (s : List Char) : List Char × List Char :=
  (s.takeWhile (!endsAuthority special ·), s.dropWhile (!endsAuthority special ·))

/-- A URL with an authority, given the text after its slashes. -/
def withAuthority? (scheme : List Char) (s : List Char) : Option Url :=
  let special := isSpecial scheme
  let (authority, path) := cutAuthority special s
  let (user, address) := cutAtLast (· = '@') authority
  let (name, password) := userInfo (user.getD [])
  let (hostText, portText) := cutPort address
  if hostText.isEmpty ∧ (special ∨ user.isSome ∨ portText.isSome) then none
  else do
    let host ← if special then Host.special? hostText else Host.opaqueHost? hostText
    let port ← port? scheme (portText.getD [])
    some
      { scheme := scheme
        username := name
        password := password
        host := some host
        port := port
        path := .segments (pathSegments special path) }

/-- A URL of a file, given the text after its scheme. -/
def fileUrl? (scheme : List Char) (s : List Char) : Option Url :=
  let isSlash := endsAuthority true
  match s with
  | a :: b :: rest =>
    if isSlash a ∧ isSlash b then do
      let (authority, path) := cutAuthority true rest
      let host ← if authority.isEmpty then some [] else Host.special? authority
      some
        { scheme := scheme
          host := some (if host = "localhost".toList then [] else host)
          path := .segments (pathSegments true path) }
    else some { scheme := scheme, host := some [], path := .segments (pathSegments true s) }
  | s => some { scheme := scheme, host := some [], path := .segments (pathSegments true s) }

/-- A URL without query and fragment. -/
def hierarchy? (scheme : List Char) (s : List Char) : Option Url :=
  if isFileScheme scheme then fileUrl? scheme s
  else if isSpecial scheme then withAuthority? scheme (s.dropWhile (endsAuthority true))
  else
    match s with
    | '/' :: '/' :: s => withAuthority? scheme s
    | '/' :: _ => some { scheme := scheme, path := .segments (pathSegments false s) }
    | s => some { scheme := scheme, path := .opaquePath (Percent.encode Percent.isPrintable s) }

/-- The text without blanks and control characters around it, and without tabs and line ends. -/
def clean (s : List Char) : List Char :=
  let isOuter (c : Char) : Bool := c.toNat ≤ 32
  let trimmed := ((s.dropWhile isOuter).reverse.dropWhile isOuter).reverse
  trimmed.filter fun c => !"\t\n\r".toList.contains c

def parse? (s : List Char) : Option Url := do
  let (scheme, s) ← scanScheme (clean s)
  let (s, fragment) := cutAt (· = '#') s
  let (s, query) := cutAt (· = '?') s
  let url ← hierarchy? scheme s
  some
    { url with
      query := query.map (Percent.encode (Percent.inQuery (isSpecial scheme)))
      fragment := fragment.map (Percent.encode Percent.inFragment) }

/-! ## Writing -/

def pathText : UrlPath → List Char
  | .opaquePath text => text
  | .segments parts => parts.flatMap ('/' :: ·)

/-- The user and password of a URL as they are written in front of the host. -/
def userText (url : Url) : List Char :=
  if url.username.isEmpty && url.password.isEmpty then []
  else
    url.username ++ (if url.password.isEmpty then [] else ':' :: url.password) ++ ['@']

/-- The host part of a URL.  A path that looks like a host is set off by a point. -/
def authorityText (url : Url) : List Char :=
  match url.host with
  | some host =>
    ['/', '/'] ++ url.userText ++ host
      ++ (match url.port with
          | some port => ':' :: (toString port).toList
          | none => [])
  | none =>
    match url.path with
    | .segments ([] :: _ :: _) => ['/', '.']
    | _ => []

/-- A part behind its mark, if there is one. -/
def markedText (mark : Char) : Option (List Char) → List Char
  | some text => mark :: text
  | none => []

def text (url : Url) : List Char :=
  url.scheme ++ ':' :: (url.authorityText ++ pathText url.path ++ markedText '?' url.query
    ++ markedText '#' url.fragment)

/-- What a server is asked for: the path and the query. -/
def requestTarget (url : Url) : List Char := pathText url.path ++ markedText '?' url.query

/-! ## Changing -/

/-- The URL with one more pair at the end of its query. -/
def addPair (url : Url) (key value : String) : Url :=
  let pair := Percent.encodeForm key.toList ++ '=' :: Percent.encodeForm value.toList
  let query :=
    match url.query with
    | none | some [] => pair
    | some query => query ++ '&' :: pair
  { url with query := some query }

/-- An opaque path without the blanks at its end. -/
def UrlPath.trimmed : UrlPath → UrlPath
  | .opaquePath text => .opaquePath (text.reverse.dropWhile (· = ' ')).reverse
  | path => path

/-- The URL without user, password, query and fragment. -/
def redacted (url : Url) : Url :=
  { url with
    username := []
    password := []
    query := none
    fragment := none
    path := UrlPath.trimmed url.path }

end Url

end VoxelStream
