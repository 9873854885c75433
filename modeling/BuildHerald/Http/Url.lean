import BuildHerald.Http.Host
import BuildHerald.Http.Path

namespace BuildHerald.Http

/-- Who is asked for, and on whose behalf. -/
structure Authority where
  name : List Char
  password : Option (List Char)
  host : List Char
  /-- The port, unless it is the usual one. -/
  port : Option Nat
  deriving DecidableEq

/-- An address. All its texts are escaped. -/
structure Url where
  scheme : List Char
  authority : Option Authority
  path : Path
  query : Option (List Char)
  fragment : Option (List Char)
  deriving DecidableEq

namespace Url

/-- The usual port of a scheme. -/
def usualPort? (scheme : List Char) : Option Nat :=
  if scheme = "http".toList ∨ scheme = "ws".toList then some 80
  else if scheme = "https".toList ∨ scheme = "wss".toList then some 443
  else if scheme = "ftp".toList then some 21
  else none

def isFile (scheme : List Char) : Bool :=
  scheme == "file".toList

/-- Whether addresses of a scheme name a host, and may have backslashes in place of slashes. -/
def isSpecial (scheme : List Char) : Bool :=
  (usualPort? scheme).isSome || isFile scheme

/-- An address without the controls and blanks at its ends, and without the tabs and line ends inside
it. -/
def cleaned (text : List Char) : List Char :=
  (Text.dropEndWhile (· ≤ ' ') (text.dropWhile (· ≤ ' '))).filter fun c =>
    c != '\t' && c != '\n' && c != '\r'

/-- Whether a text can be a scheme. -/
def isScheme : List Char → Bool
  | [] => false
  | c :: rest =>
      Path.isLetter c && rest.all fun c =>
        Path.isLetter c || (Text.digit? c).isSome || c == '+' || c == '-' || c == '.'

/-- The text before the first `separator` and, if there is one, what follows it. -/
def cutAt (separator : Char) (text : List Char) : List Char × Option (List Char) :=
  match Text.splitOnce separator text with
  | some (before, after) => (before, some after)
  | none => (text, none)

/-- The characters that are escaped in a fragment. -/
def reservedInFragment : List Char := [' ', '"', '<', '>', '\x60']

/-- The characters that are escaped in a query. -/
def reservedInQuery (special : Bool) : List Char :=
  [' ', '"', '#', '<', '>'] ++ (if special then ['\x27'] else [])

/-- The characters that are escaped in a name or a password. -/
def reservedInLogin : List Char :=
  Path.reserved ++ ['/', ':', ';', '=', '@', '[', '\\', ']', '^', '|']

/-- The host and the port in what follows a login. Colons between brackets belong to the host. -/
def splitPort (inBrackets : Bool) : List Char → List Char × Option (List Char)
  | [] => ([], none)
  | c :: rest =>
      if c = ':' ∧ !inBrackets then ([], some rest)
      else
        let (host, port) := splitPort (if c = '[' then true else if c = ']' then false else inBrackets) rest
        (c :: host, port)

/-- The greatest port. -/
def greatestPort : Nat := 65535

/-- The port that a text means, if it is not the usual one of the scheme. -/
def port? (scheme : List Char) : Option (List Char) → Option (Option Nat)
  | none => some none
  | some [] => some none
  | some digits =>
      match (Text.readDigits (greatestPort + 1) 0 digits).toOption with
      | some port => some (if usualPort? scheme = some port then none else some port)
      | none => none

/-- The name and the password in front of the last at sign. -/
def login (text : List Char) : List Char × Option (List Char) :=
  let (name, password) := cutAt ':' text
  (escape reservedInLogin name,
    (password.filter (!·.isEmpty)).map (escape reservedInLogin))

/-- What stands before the last at sign, if there is one, and after it. -/
def splitLogin (text : List Char) : Option (List Char) × List Char :=
  match Text.splitOnce '@' text.reverse with
  | some (after, before) => (some before.reverse, after.reverse)
  | none => (none, text)

/-- The host of an address of some scheme. -/
def hostOf? (scheme text : List Char) : Option (List Char) :=
  if isSpecial scheme || text.head? = some '[' then Host.ofText? text
  else Host.verbatim? text

/-- What stands between the scheme and a path, and what is left of the text: a backslash ends a port. -/
def authority? (scheme text : List Char) : Option (Authority × List Char) := do
  let (before, after) := splitLogin text
  let (name, password) := login (before.getD [])
  let (host, port) := splitPort false after
  let named ← hostOf? scheme host
  let number ← port? scheme (port.map fun digits => digits.takeWhile (· != '\\'))
  if named.isEmpty &&
      (port.isSome || before == some [] || !name.isEmpty || password.isSome) then none
  else some (⟨name, password, named, number⟩, (port.getD []).dropWhile (· != '\\'))

/-- The authority and the path in what follows two slashes. -/
def hierarchy? (scheme text : List Char) : Option (Option Authority × Path) := do
  let special := isSpecial scheme
  let slash := Path.isSlash special
  let (authority, left) ← authority? scheme (text.takeWhile (!slash ·))
  let path := (if left.isEmpty then [] else '/' :: left) ++ text.dropWhile (!slash ·)
  some (some authority,
    .segments (if !special && path.isEmpty then [] else Path.segmentsOf special path))

/-- The host and the path of a file, in what follows the scheme. A host that names this machine is left
out, and so is one in front of a drive. -/
def fileBody? (text : List Char) : Option (Option Authority × Path) :=
  let slash := Path.isSlash true
  let segments (path : List Char) := Text.pieces slash path
  let body (host : List Char) (path : List (List Char)) : Option Authority × Path :=
    (some ⟨[], none, if Path.namesDrive path then [] else host, none⟩, .segments (Path.ofFiles path))
  match text with
  | [] => some (body [] [[]])
  | first :: rest =>
      if !slash first then some (body [] (segments text))
      else if !slash (rest.headD ' ') then some (body [] (segments rest))
      else
        let rest := rest.drop 1
        let host := rest.takeWhile (!slash ·)
        let path := rest.dropWhile (!slash ·)
        if Path.isDrive host then some (body [] (segments rest))
        else if host.isEmpty then some (body [] (segments path))
        else
          (Host.ofText? host).map fun host =>
            if host = "localhost".toList then body [] (segments path)
            else body host (segments (path.drop 1))

/-- The authority and the path in what follows the scheme, up to a query. -/
def body? (scheme text : List Char) : Option (Option Authority × Path) :=
  if isFile scheme then fileBody? text
  else if isSpecial scheme then hierarchy? scheme (text.dropWhile (Path.isSlash true))
  else if "//".toList.isPrefixOf text then hierarchy? scheme (text.drop 2)
  else if text.head? = some '/' then some (none, .segments (Path.segmentsOf false text))
  else some (none, .flat (escape [] text))

/-- The address that a text means, if it means one by itself. -/
def ofText? (text : String) : Option Url := do
  let (scheme, rest) ← Text.splitOnce ':' (cleaned text.toList)
  if !isScheme scheme then none
  else
    let scheme := Text.asciiLower scheme
    let (rest, fragment) := cutAt '#' rest
    let (rest, query) := cutAt '?' rest
    let (authority, path) ← body? scheme rest
    some {
      scheme := scheme
      authority := authority
      path := path
      query := query.map (escape (reservedInQuery (isSpecial scheme)))
      fragment := fragment.map (escape reservedInFragment) }

/-- Whether requests can be sent to an address. -/
def isWeb (url : Url) : Bool :=
  url.scheme == "http".toList || url.scheme == "https".toList

/-- Whether an address names a host. -/
def namesHost (url : Url) : Bool :=
  (url.authority.map fun authority => !authority.host.isEmpty).getD false

/-- The name and the password in an address, if it has either. -/
def login? (url : Url) : Option (List Char × List Char) := do
  let authority ← url.authority
  let name ← unescaped? authority.name
  let password := authority.password.bind unescaped?
  if name.isEmpty && password.isNone then none else some (name, password.getD [])

/-- An address without name and password. -/
def withoutLogin (url : Url) : Url :=
  { url with authority := url.authority.map ({ · with name := [], password := none }) }

/-- An address without its fragment, as far as it is sent. -/
def sent (url : Url) : Url :=
  { url with fragment := none }

def Authority.text (authority : Authority) : List Char :=
  let login := authority.name ++ (authority.password.map (':' :: ·)).getD []
  "//".toList ++ (if login.isEmpty then [] else login ++ ['@']) ++ authority.host ++
    (authority.port.map fun port => ':' :: (toString port).toList).getD []

/-- What a request asks a host for. -/
def resource (url : Url) : List Char :=
  url.path.text ++ (url.query.map ('?' :: ·)).getD []

/-- What stands in place of an authority, so that two slashes at the start of a path do not announce
one. -/
def guard (url : Url) : List Char :=
  if "//".toList.isPrefixOf url.path.text then "/.".toList else []

/-- An address in writing. -/
def text (url : Url) : String :=
  String.ofList (url.scheme ++ [':'] ++ (url.authority.map Authority.text).getD url.guard ++
    url.resource ++ (url.fragment.map ('#' :: ·)).getD [])

/-- The greatest length of an address that is sent. -/
def greatestLength : Nat := 65534

/-- Whether an address can be sent as it is written: it is not too long, and its host has no quotes,
backquotes or braces. -/
def isSendable (url : Url) : Bool :=
  url.text.length ≤ greatestLength &&
    (url.authority.map (·.host)).all fun host =>
      !host.any ['"', '\x60', '\x7b', '\x7d'].contains

end Url

end BuildHerald.Http
