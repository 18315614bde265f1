import Countersign.Net.Host

/-!
# Addresses

The address of a service, read leniently and written in one normal form: the scheme in lowercase, no
usual port, no dot segments, and every character that may not stand where it stands percent-encoded.
-/

namespace Countersign

/-- The kinds of schemes. -/
inductive SchemeKind where
  /-- Files. -/
  | file
  /-- A common scheme with its usual port. -/
  | common (port : Nat)
  /-- Any other scheme. -/
  | other
  deriving DecidableEq, Repr

namespace SchemeKind

/-- The kind of the scheme with a name. -/
def ofName (name : String) : SchemeKind :=
  match name with
  | "file" => file
  | "http" | "ws" => common 80
  | "https" | "wss" => common 443
  | "ftp" => common 21
  | _ => other

/-- Whether backslashes count as slashes, and paths always have segments. -/
def isSpecial (kind : SchemeKind) : Bool :=
  kind != other

/-- The usual port. -/
def usualPort? : SchemeKind → Option Nat
  | common port => some port
  | _ => none

/-- Whether a character separates the segments of a path. -/
def isSlash (kind : SchemeKind) (character : Char) : Bool :=
  character == '/' || (kind.isSpecial && character == '\\')

end SchemeKind

/-- The server of an address. -/
structure Server where
  /-- The name of the user. -/
  user : List Char
  /-- The password. -/
  password : List Char
  /-- The host. -/
  host : Host
  /-- The port, unless it is the usual one. -/
  port? : Option Nat
  deriving DecidableEq, Repr

/-- The path of an address. -/
inductive AddressPath where
  /-- A text without segments. -/
  | flat (text : List Char)
  /-- Segments, each with a slash in front. -/
  | segments (names : List (List Char))
  deriving DecidableEq, Repr

/-- An address. -/
structure Address where
  /-- The scheme. -/
  scheme : String
  /-- The server. -/
  server? : Option Server
  /-- The path. -/
  path : AddressPath
  /-- What follows the question mark. -/
  query? : Option (List Char)
  /-- What follows the hash mark. -/
  fragment? : Option (List Char)
  deriving DecidableEq, Repr

namespace Server

/-- The port that digits denote; nothing for the usual one. -/
def readPort? (kind : SchemeKind) (digits : List Char) : Option (Option Nat) :=
  if digits.isEmpty then some none
  else do
    let value ← Host.numeral? 10 digits
    if 65535 < value then none
    else if kind.usualPort? = some value then some none
    else some (some value)

/-- Divides a text behind the host, which ends at the first colon outside brackets. -/
def splitHost (inBrackets : Bool) : List Char → List Char × Option (List Char)
  | [] => ([], none)
  | character :: rest =>
    if character = ':' ∧ !inBrackets then ([], some rest)
    else
      let inside := if character = '[' then true else if character = ']' then false else inBrackets
      let (host, port?) := splitHost inside rest
      (character :: host, port?)

/-- Divides a text behind the digits of a port.  Only a backslash may follow them, where it does not
count as a slash; it begins the path. -/
def splitPort? (text : List Char) : Option (List Char × List Char) :=
  match text.span Char.isDigit with
  | (digits, []) => some (digits, [])
  | (digits, '\\' :: rest) => some (digits, '\\' :: rest)
  | _ => none

/-- Divides a text behind the credentials, which end at the last `@`.  Nothing in front of it needs
a host behind it, unless the address ends there. -/
def splitCredentials? (isLast : Bool) (text : List Char) : Option (List Char × List Char) :=
  match Split.atLast '@' text with
  | none => some ([], text)
  | some ([], []) => if isLast then some ([], []) else none
  | some divided => some divided

/-- The server that the part of an address between the slashes denotes, and what of that part
belongs to the path; `isLast` tells that nothing follows. -/
def ofChars? (kind : SchemeKind) (isLast : Bool) (text : List Char) :
    Option (Server × List Char) := do
  let (credentials, rest) ← splitCredentials? isLast text
  let (user, password?) := Split.atFirst ':' credentials
  let password := password?.getD []
  let (hostText, behind?) := splitHost false rest
  let host ← if kind.isSpecial then Host.ofSpecial? hostText else Host.ofOther? hostText
  let (digits, path) ← splitPort? (behind?.getD [])
  let port? ← readPort? kind digits
  if hostText.isEmpty ∧ (behind?.isSome ∨ !user.isEmpty ∨ !password.isEmpty) then none
  else
    return (⟨Percent.encode Percent.inCredentials user,
      Percent.encode Percent.inCredentials password, host, port?⟩, path)

/-- The text of a server, with the marks around credentials and port. -/
def toChars (server : Server) : List Char :=
  let password := if server.password.isEmpty then [] else ':' :: server.password
  let credentials := server.user ++ password
  (if credentials.isEmpty then [] else credentials ++ ['@']) ++ server.host.toChars ++
    (match server.port? with
      | none => []
      | some port => ':' :: Nat.toDigits 10 port)

end Server

namespace AddressPath

/-- Whether a segment stands for the place where it is, also with an encoded dot. -/
def isDot (segment : List Char) : Bool :=
  ["." , "%2e"].contains (String.ofList (segment.map Char.toLower))

/-- Whether a segment stands for the place above. -/
def isDoubleDot (segment : List Char) : Bool :=
  ["..", ".%2e", "%2e.", "%2e%2e"].contains (String.ofList (segment.map Char.toLower))

/-- Whether a segment names a drive: a letter with a colon or a bar. -/
def isDrive : List Char → Bool
  | [letter, mark] => letter.isAlpha && (mark == ':' || mark == '|')
  | _ => false

/-- Whether a segment begins with the name of a drive; there is no way up from it. -/
def isStuck : List Char → Bool
  | letter :: mark :: '\\' :: _ => isDrive [letter, mark]
  | segment => isDrive segment

/-- The kept segments, backwards, without the last one. -/
def above : List (List Char) → List (List Char)
  | [] => []
  | last :: before => if isStuck last then last :: before else before

/-- A segment as it is kept.  The drive at the front of the path to a file has a colon. -/
def keep (kind : SchemeKind) (isFirst : Bool) (segment : List Char) : List Char :=
  match segment with
  | [letter, _] =>
    if kind = .file ∧ isFirst ∧ isDrive segment then [letter, ':']
    else Percent.encode Percent.inPath segment
  | _ => Percent.encode Percent.inPath segment

/-- Follows the segments of a path, of which `reversed` have been kept; dot segments are resolved,
and one at the end leaves an empty segment. -/
def resolve (kind : SchemeKind) (reversed : List (List Char)) : List (List Char) → List (List Char)
  | [] => reversed.reverse
  | segment :: rest =>
    if isDoubleDot segment then
      let kept := above reversed
      if rest.isEmpty then ([] :: kept).reverse else resolve kind kept rest
    else if isDot segment then
      if rest.isEmpty then ([] :: reversed).reverse else resolve kind reversed rest
    else resolve kind (keep kind reversed.isEmpty segment :: reversed) rest

/-- Segments without the empty ones at the front, but at least one. -/
def trim (names : List (List Char)) : List (List Char) :=
  match names.dropWhile List.isEmpty with
  | [] => [[]]
  | trimmed => trimmed

/-- Whether the first segment names a drive. -/
def hasDrive (names : List (List Char)) : Bool :=
  names.head?.any isDrive

/-- The path of given segments; that to a file does not begin with an empty one. -/
def ofNames (kind : SchemeKind) (names : List (List Char)) : AddressPath :=
  .segments (if kind = .file then trim names else names)

/-- The segments in a text, resolved. -/
def namesIn (kind : SchemeKind) (text : List Char) : List (List Char) :=
  match text with
  | [] => if kind.isSpecial then [[]] else []
  | first :: rest =>
    resolve kind [] (Split.parts kind.isSlash (if kind.isSlash first then rest else text))

/-- The path that follows a server. -/
def ofChars (kind : SchemeKind) (text : List Char) : AddressPath :=
  ofNames kind (namesIn kind text)

/-- The text of a path. -/
def toChars : AddressPath → List Char
  | flat text => text
  | segments names => names.flatMap ('/' :: ·)

/-- The path with a slash at the end.  Where it has to be added, the path is read once more. -/
def asFolder (kind : SchemeKind) : AddressPath → AddressPath
  | flat [] => flat ['%', '2', 'F']
  | flat text => if text.getLast? = some '/' then flat text else flat (text ++ ['/'])
  | segments names =>
    if names.getLast? = some [] then segments names
    else ofNames kind (resolve kind [] (names ++ [[]]))

end AddressPath

namespace Address

/-- A text without blanks and controls at its ends, and without line breaks and tabs. -/
def clean (text : List Char) : List Char :=
  let isBlank (character : Char) : Bool := character.toNat ≤ 0x20
  let trimmed := ((text.dropWhile isBlank).reverse.dropWhile isBlank).reverse
  trimmed.filter fun character => character != '\t' && character != '\n' && character != '\r'

/-- Whether a character may stand in a scheme after the first. -/
def isSchemeChar (character : Char) : Bool :=
  character.isAlphanum || ['+', '-', '.'].contains character

/-- Divides an address behind its scheme. -/
def splitScheme? (text : List Char) : Option (String × List Char) :=
  match text.span isSchemeChar with
  | (first :: name, ':' :: rest) =>
    if first.isAlpha then some (String.ofList ((first :: name).map Char.toLower), rest) else none
  | _ => none

/-- The server and the path of an address with slashes in front of the server; `isLast` tells that
nothing follows the path. -/
def withServer? (kind : SchemeKind) (isLast : Bool) (text : List Char) :
    Option (Option Server × AddressPath) := do
  let (serverText, pathText) := text.span fun character => !kind.isSlash character
  let (server, path) ← Server.ofChars? kind (isLast && pathText.isEmpty) serverText
  return (some server, AddressPath.ofChars kind (path ++ pathText))

/-- The server of the address of a file. -/
def fileServer (host : Host) : Server :=
  ⟨[], [], if host = .name "localhost".toList then .name [] else host, none⟩

/-- The server of files without a host. -/
def localServer : Server := fileServer (.name [])

/-- The server and the path of the address of a file behind two slashes.  A drive is no host, and a
path that begins with a drive leaves out the host. -/
def ofFileHost? (text : List Char) : Option (Server × AddressPath) :=
  let (hostText, pathText) := text.span fun character => !SchemeKind.file.isSlash character
  if AddressPath.isDrive hostText then some (localServer, AddressPath.ofChars .file text)
  else do
    let host ← if hostText.isEmpty then some (.name []) else Host.ofSpecial? hostText
    let names := AddressPath.namesIn .file pathText
    let server := if AddressPath.hasDrive names then localServer else fileServer host
    return (server, AddressPath.ofNames .file names)

/-- The server and the path of the address of a file; the local host is left out. -/
def ofFile? (text : List Char) : Option (Server × AddressPath) :=
  let isSlash := SchemeKind.file.isSlash
  match text with
  | first :: second :: rest =>
    if isSlash first && isSlash second then ofFileHost? rest
    else some (localServer, AddressPath.ofChars .file text)
  | _ => some (localServer, AddressPath.ofChars .file text)

/-- The server and the path of an address behind its scheme. -/
def place? (kind : SchemeKind) (isLast : Bool) (text : List Char) :
    Option (Option Server × AddressPath) :=
  match kind with
  | .common _ => withServer? kind isLast (text.dropWhile kind.isSlash)
  | .file => (ofFile? text).map fun (server, path) => (some server, path)
  | .other =>
    match text with
    | '/' :: '/' :: rest => withServer? kind isLast rest
    | '/' :: _ => some (none, AddressPath.ofChars kind text)
    | _ => some (none, .flat (Percent.encode Percent.isControl text))

/-- The address that a text denotes. -/
def ofText? (text : String) : Option Address := do
  let (scheme, rest) ← splitScheme? (clean text.toList)
  let kind := SchemeKind.ofName scheme
  let (rest, fragment?) := Split.atFirst '#' rest
  let (rest, query?) := Split.atFirst '?' rest
  let (server?, path) ← place? kind (query?.isNone && fragment?.isNone) rest
  return {
    scheme, server?, path
    query? := query?.map (Percent.encode (Percent.inQuery kind.isSpecial))
    fragment? := fragment?.map (Percent.encode Percent.inFragment) }

/-- What keeps a path from being taken for a server. -/
def guard : Option Server → AddressPath → List Char
  | none, .segments ([] :: _ :: _) => ['/', '.']
  | _, _ => []

/-- An optional part with its mark. -/
def marked (mark : Char) : Option (List Char) → List Char
  | none => []
  | some text => mark :: text

/-- The text of an address. -/
def toText (address : Address) : String :=
  let server := match address.server? with
    | none => []
    | some server => ['/', '/'] ++ server.toChars
  address.scheme ++ String.ofList (':' :: server ++ guard address.server? address.path ++
    address.path.toChars ++ marked '?' address.query? ++ marked '#' address.fragment?)

/-- The address with a slash at the end of its path. -/
def asFolder (address : Address) : Address :=
  { address with path := address.path.asFolder (SchemeKind.ofName address.scheme) }

/-- The address of something in the folder of an address. -/
def inFolder? (address : Address) (names : List String) : Option Address :=
  match address.path with
  | .flat _ => none
  | .segments folder =>
    some { address with
      path := .segments (folder.dropLast ++ names.map String.toList)
      query? := none
      fragment? := none }

end Address
end Countersign
