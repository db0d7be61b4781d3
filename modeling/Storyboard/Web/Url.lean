import Storyboard.Web.Host

/-!
# Addresses

An address is a scheme, a colon and what the scheme makes of the rest.  A web
address is brought to one written form: lower case in scheme and host, no number
after the host where the scheme implies it, no dot segments in the path, and escapes
where a character may not stand.  Of an address of another scheme only the scheme is
kept.
-/

namespace Storyboard
namespace Web

/-- An address. -/
inductive Url where
  /-- A web address in its written form. -/
  | web (text : String)
  /-- An address of another scheme. -/
  | other (scheme : String)
  deriving DecidableEq

/-- Why a text is no address. -/
inductive UrlError where
  /-- There is no scheme. -/
  | relative
  /-- What follows the scheme is malformed. -/
  | malformed
  deriving DecidableEq

namespace Url

/-- Characters that are left out of an address wherever they stand. -/
def isLineBreak (c : Char) : Bool := c == '\t' || c == '\n' || c == '\r'

/-- Whether a character is a space or a control before it. -/
def isMargin (c : Char) : Bool := c.toNat ≤ 0x20

/-- An address as it is read: without spaces and controls at the ends, and on one line. -/
def tidied (text : String) : List Char :=
  let inner := ((text.toList.dropWhile isMargin).reverse.dropWhile isMargin).reverse
  inner.filter fun c => !isLineBreak c

/-- Whether a character may start a scheme. -/
def isLetter (c : Char) : Bool :=
  ('a' ≤ c && c ≤ 'z') || ('A' ≤ c && c ≤ 'Z')

/-- Whether a character may stand in a scheme. -/
def isSchemeChar (c : Char) : Bool :=
  isLetter c || Host.isDecimal c || c == '+' || c == '-' || c == '.'

/-- The scheme and what follows its colon. -/
def scheme? (text : List Char) : Option (String × List Char) :=
  match text.head?, text.dropWhile isSchemeChar with
  | some first, ':' :: rest =>
      if isLetter first then
        some (String.ofList ((text.takeWhile isSchemeChar).map Char.toLower), rest)
      else none
  | _, _ => none

/-- The number of the service that a scheme stands for when none is given. -/
def impliedService? (scheme : String) : Option Nat :=
  [("http", 80), ("https", 443), ("ws", 80), ("wss", 443), ("ftp", 21)].lookup scheme

/-- Whether a scheme belongs to the web and its older kin, files apart. -/
def isSpecial (scheme : String) : Bool := (impliedService? scheme).isSome

/-- Whether a character ends the part of an address that names the host. -/
def endsAuthority (special : Bool) (c : Char) : Bool :=
  c == '/' || c == '?' || c == '#' || (special && c == '\\')

/-- Characters that are escaped in a fragment. -/
def fragmentSet : List Char := [' ', '"', '<', '>', '\x60']

/-- Characters that are escaped in a path. -/
def pathSet : List Char := fragmentSet ++ ['#', '?', '{', '}']

/-- Characters that are escaped in a name or a password. -/
def userSet : List Char := pathSet ++ ['/', ':', ';', '=', '@', '[', '\\', ']', '^', '|']

/-- Characters that are escaped in the query of a web address. -/
def querySet : List Char := [' ', '"', '#', '<', '>', '\x27']

/-- The text after the last `@`, and the text before it, if there is one. -/
def splitUser (authority : List Char) : Option (List Char) × List Char :=
  let host := (authority.reverse.takeWhile (· != '@')).reverse
  if host.length = authority.length then (none, authority)
  else (some (authority.take (authority.length - host.length - 1)), host)

/-- The written form of a name and a password, with the `@` after them if there are any. -/
def writtenUser (user : List Char) : List Char :=
  let name := escape userSet (user.takeWhile (· != ':'))
  let password := escape userSet ((user.dropWhile (· != ':')).drop 1)
  let both := name ++ (if password = [] then [] else ':' :: password)
  if both = [] then [] else both ++ ['@']

/-- The host and what follows it; a colon between brackets belongs to the host. -/
def splitHost : Bool → List Char → List Char × List Char
  | _, [] => ([], [])
  | inside, c :: rest =>
      if c = ':' ∧ !inside then ([], c :: rest)
      else
        let inside := if c = '[' then true else if c = ']' then false else inside
        let (host, after) := splitHost inside rest
        (c :: host, after)

/-- The number of a service, at most `2^16 - 1`; without digits there is none. -/
def service? (digits : List Char) : Option (Option Nat) :=
  if digits = [] then some none
  else if digits.all Host.isDecimal then
    ((Host.numeralValue? 10 digits).filter (· < Nat.pow 2 16)).map some
  else none

/-- The written form of the number that follows a host after a colon; one that the scheme implies is
left out. -/
def writtenService? (scheme : String) (after : List Char) : Option (List Char) :=
  match service? ((after.drop 1).takeWhile (· != '\\')) with
  | none => none
  | some none => some []
  | some (some service) =>
      if impliedService? scheme = some service then some []
      else some (':' :: Decimal.natChars service)

/-- Whether an address of an unknown scheme may do without a host. -/
def mayLackHost (user : Option (List Char)) (followed : Bool) : Bool :=
  match user with
  | none => true
  | some [] => !followed
  | some user => writtenUser user == []

/--
The written form of what stands between the slashes and the path; `followed` says
whether anything comes after it.
-/
def authority? (scheme : String) (authority : List Char) (followed : Bool) : Option (List Char) :=
  let (user, rest) := splitUser authority
  let (host, after) := splitHost false rest
  let name := writtenUser (user.getD [])
  if isSpecial scheme then do
    let host ← Host.parse? host
    return name ++ host ++ (← writtenService? scheme after)
  else if host = [] then
    if mayLackHost user (followed && rest == []) ∧ after = [] then some [] else none
  else if Host.isOpaque host then
    (writtenService? scheme after).map fun service => name ++ host ++ service
  else none

/-- Whether a segment stands for the place itself. -/
def isSingleDot (segment : List Char) : Bool :=
  let text := String.ofList (segment.map Char.toLower)
  text == "." || text == "%2e"

/-- Whether a segment stands for the place above. -/
def isDoubleDot (segment : List Char) : Bool :=
  let text := String.ofList (segment.map Char.toLower)
  text == ".." || text == ".%2e" || text == "%2e." || text == "%2e%2e"

/-- Whether a text is the letter of a drive. -/
def isDrive (text : List Char) : Bool :=
  match text with
  | [letter, mark] => isLetter letter && (mark == ':' || mark == '|')
  | _ => false

/-- The segments of the place above, the last one first.  Nothing lies above the root or the letter
of a drive. -/
def above : List (List Char) → List (List Char)
  | [] => []
  | segment :: rest => if isDrive segment then segment :: rest else rest

/-- The segments that are left when those with dots have been followed; `kept` holds the ones
before, the last one first. -/
def follow (kept : List (List Char)) : List (List Char) → List (List Char)
  | [] => kept.reverse
  | segment :: rest =>
      let closing := if rest = [] then [[]] else []
      if isDoubleDot segment then follow (closing ++ above kept) rest
      else if isSingleDot segment then follow (closing ++ kept) rest
      else follow (segment :: kept) rest

/-- The written form of the path of a web address. -/
def writtenPath (path : List Char) : List Char :=
  let slashed := path.map fun c => if c = '\\' then '/' else c
  let inner := if slashed.head? = some '/' then slashed.drop 1 else slashed
  '/' :: Text.joinWith ['/'] (follow [] ((Text.splitAt '/' inner).map (escape pathSet)))

/-- The written form of what follows the host of a web address. -/
def writtenRest (rest : List Char) : List Char :=
  let beforeFragment := rest.takeWhile (· != '#')
  let fragment := rest.dropWhile (· != '#')
  let path := beforeFragment.takeWhile (· != '?')
  let query := beforeFragment.dropWhile (· != '?')
  writtenPath path ++
    (match query with
     | [] => []
     | mark :: text => mark :: escape querySet text) ++
    (match fragment with
     | [] => []
     | mark :: text => mark :: escape fragmentSet text)

/-- Whether a character is one of the two slashes. -/
def isSlash (c : Char) : Bool := c == '/' || c == '\\'

/-- Whether the rest of a file address is well formed. -/
def isFile (rest : List Char) : Bool :=
  match rest with
  | a :: b :: more =>
      if isSlash a && isSlash b then
        let host := more.takeWhile fun c => !endsAuthority true c
        host = [] || isDrive host || (Host.parse? host).isSome
      else true
  | _ => true

/-- The address of a scheme and what follows its colon. -/
def ofScheme (scheme : String) (rest : List Char) : Except UrlError Url :=
  if scheme = "file" then
    if isFile rest then .ok (.other scheme) else .error .malformed
  else
    let special := isSpecial scheme
    let opened : Option (List Char) :=
      if special then some (rest.dropWhile isSlash)
      else match rest with
        | '/' :: '/' :: more => some more
        | _ => none
    match opened with
    | none => .ok (.other scheme)
    | some text =>
        let authority := text.takeWhile fun c => !endsAuthority special c
        let rest := text.dropWhile fun c => !endsAuthority special c
        match authority? scheme authority (!rest.isEmpty) with
        | none => .error .malformed
        | some authority =>
            if scheme = "http" ∨ scheme = "https" then
              .ok (.web (String.ofList
                (scheme.toList ++ "://".toList ++ authority ++ writtenRest rest)))
            else .ok (.other scheme)

/-- Read an address. -/
def parse (text : String) : Except UrlError Url :=
  match scheme? (tidied text) with
  | none => .error .relative
  | some (scheme, rest) => ofScheme scheme rest

end Url
end Web
end Storyboard
