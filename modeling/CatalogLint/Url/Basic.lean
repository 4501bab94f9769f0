/-
# Addresses of resources

`isUrl` says whether a text is the absolute address of a resource: a scheme and a colon, and, where two
slashes follow or the scheme is one of the web's, a valid authority of an optional user, a host and an
optional port.  Whatever path, query or fragment follows is fine.  Blanks and controls around the text
and tabs and line ends within it do not matter.
-/
import CatalogLint.Url.Host

namespace CatalogLint.Url

/-! ## 1. Schemes -/

/-- What a scheme says about the rest of an address. -/
inductive Scheme
  /-- A scheme of the web, whose addresses have a host. -/
  | web
  /-- The scheme of files, whose addresses may have a host. -/
  | file
  /-- Any other scheme. -/
  | other
  deriving DecidableEq, Repr

/-- What a scheme says, by its name in small letters. -/
def Scheme.ofName (name : List Char) : Scheme :=
  let name := String.ofList name
  if name == "file" then file
  else if ["http", "https", "ws", "wss", "ftp"].contains name then web
  else other

/-- Whether a backslash counts as a slash. -/
def Scheme.isSpecial : Scheme → Bool
  | other => false
  | _ => true

/-- Whether a character may stand in a scheme. -/
def isSchemeChar (c : Char) : Bool := c.isAlphanum || c == '+' || c == '-' || c == '.'

/-- Takes a scheme and its colon. -/
def scheme? (cs : List Char) : Option (Scheme × List Char) :=
  let name := cs.takeWhile isSchemeChar
  match name.head?, cs.dropWhile isSchemeChar with
  | some c, ':' :: rest =>
    if c.isAlpha then some (.ofName (name.map Char.toLower), rest) else none
  | _, _ => none

/-! ## 2. Authorities -/

/-- Whether a character ends an authority. -/
def endsAuthority (s : Scheme) (c : Char) : Bool :=
  c == '/' || c == '?' || c == '#' || (s.isSpecial && c == '\\')

/-- The characters of a host, up to a colon outside brackets; `inside` tells whether a bracket is
open. -/
def hostChars (inside : Bool) : List Char → List Char
  | [] => []
  | ':' :: cs => if inside then ':' :: hostChars inside cs else []
  | '[' :: cs => '[' :: hostChars true cs
  | ']' :: cs => ']' :: hostChars false cs
  | c :: cs => c :: hostChars inside cs

/-- Whether what follows a host in its authority is nothing or a port.  A backslash ends the port also
where it does not count as a slash. -/
def isPort (cs : List Char) : Bool :=
  match cs with
  | [] => true
  | _ :: digits =>
    Number.digitsValue (digits.takeWhile Char.isDigit) ≤ 65535 &&
      (digits.dropWhile Char.isDigit).head?.all (· == '\\')

/-- Whether a host is valid for a scheme. -/
def isHost (s : Scheme) (cs : List Char) : Bool :=
  if s.isSpecial then isWebHost cs else isPlainHost cs

/-- The user of an authority, if an `@` stands in it, and what follows its last `@`. -/
def splitUser (cs : List Char) : Option (List Char) × List Char :=
  match cs.reverse.dropWhile (· != '@') with
  | _ :: user => (some user.reverse, cs.drop (user.length + 1))
  | [] => (none, cs)

/-- Whether an authority is valid; `ended` tells whether something follows it.  An empty host is one
only for schemes that are not of the web, and there only without a user and a port; an `@` that
nothing precedes and nothing follows up to the end of the authority is refused. -/
def isAuthority (s : Scheme) (ended : Bool) (cs : List Char) : Bool :=
  let (user, place) := splitUser cs
  let host := hostChars false place
  let port := place.drop host.length
  if host.isEmpty then
    !s.isSpecial && port.isEmpty && (user.getD []).all (· == ':') && (user.getD []).length ≤ 1 &&
      !(ended && user == some [])
  else isHost s host && isPort port

/-! ## 3. Addresses -/

/-- Whether a character is a slash of either kind. -/
def isSlash (c : Char) : Bool := c == '/' || c == '\\'

/-- Whether the authority in front of a text is valid. -/
def startsWithAuthority (s : Scheme) (cs : List Char) : Bool :=
  isAuthority s (cs.any (endsAuthority s)) (cs.takeWhile fun c => !endsAuthority s c)

/-- Whether a text is the letter of a drive. -/
def isDrive (cs : List Char) : Bool :=
  match cs with
  | [c, d] => c.isAlpha && (d == ':' || d == '|')
  | _ => false

/-- Whether what follows the scheme of files is valid: no host, an empty one, or a host. -/
def isFileRest (cs : List Char) : Bool :=
  match cs with
  | a :: b :: rest =>
    if isSlash a && isSlash b then
      let host := rest.takeWhile fun c => !endsAuthority .file c
      host.isEmpty || isDrive host || isWebHost host
    else true
  | _ => true

/-- Whether what follows a scheme is valid. -/
def isRest (s : Scheme) (cs : List Char) : Bool :=
  match s with
  | .file => isFileRest cs
  | .web => startsWithAuthority .web (cs.dropWhile isSlash)
  | .other =>
    match cs with
    | '/' :: '/' :: rest => startsWithAuthority .other rest
    | _ => true

/-- Whether a character around an address does not matter. -/
def isOuter (c : Char) : Bool := c.toNat ≤ 0x20

/-- Whether a character does not matter anywhere in an address. -/
def isIgnored (c : Char) : Bool := c == '\t' || c == '\n' || c == '\r'

/-- The characters of an address that matter. -/
def relevant (cs : List Char) : List Char :=
  ((cs.dropWhile isOuter).reverse.dropWhile isOuter).reverse.filter fun c => !isIgnored c

/-- Whether a text is the absolute address of a resource. -/
def isUrl (text : String) : Bool :=
  match scheme? (relevant text.toList) with
  | some (s, rest) => isRest s rest
  | none => false

end CatalogLint.Url
