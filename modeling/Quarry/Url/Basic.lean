import Quarry.Url.Host

/-!
# Connection urls

A url is read as far as its scheme and its authority: the scheme before the first
colon, and behind slashes an optional user with password, a host and an optional port.
What follows the authority is never refused. Spaces and controls at the ends and tabs and
line breaks anywhere do not count.

The schemes of the web have a domain for a host and need one, however many slashes there
are, and a backslash is a slash to them. Files have a host only behind two slashes and
need none, and neither user nor port.
-/
namespace Quarry

namespace Url

def isControlOrSpace (c : Char) : Bool := c.toNat ≤ 0x20

def isTabOrNewline (c : Char) : Bool := c = '\t' || c = '\n' || c = '\r'

def clean (s : String) : List Char :=
  let cs := s.toList.dropWhile isControlOrSpace
  ((cs.reverse.dropWhile isControlOrSpace).reverse).filter (!isTabOrNewline ·)

def isSchemeChar (c : Char) : Bool := c.isAlphanum || c = '+' || c = '-' || c = '.'

def splitScheme? (cs : List Char) : Option (String × List Char) :=
  match cs with
  | [] => none
  | c :: _ =>
    if c.isAlpha then
      match cs.dropWhile isSchemeChar with
      | ':' :: rest => some (String.ofList ((cs.takeWhile isSchemeChar).map Char.toLower), rest)
      | _ => none
    else none

inductive Manner where
  | web
  | file
  | plain
  deriving DecidableEq

def Manner.ofScheme (scheme : String) : Manner :=
  if scheme ∈ ["http", "https", "ws", "wss", "ftp"] then web
  else if scheme = "file" then file
  else plain

def Manner.isSlash (m : Manner) (c : Char) : Bool := c = '/' || m ≠ .plain && c = '\\'

def Manner.endsAuthority (m : Manner) (c : Char) : Bool := m.isSlash c || c = '?' || c = '#'

def splitUser (cs : List Char) : Option (List Char) × List Char :=
  match cs.reverse.dropWhile (· ≠ '@') with
  | [] => (none, cs)
  | _ :: user => (some user.reverse, (cs.reverse.takeWhile (· ≠ '@')).reverse)

/-- The host and what follows it, from the colon of the port on; a colon within brackets
belongs to the host. -/
def splitHost : Bool → List Char → List Char × List Char
  | _, [] => ([], [])
  | bracketed, c :: cs =>
    if c = ':' ∧ ¬ bracketed then ([], c :: cs)
    else
      let (host, rest) := splitHost (if c = '[' then true else if c = ']' then false else bracketed) cs
      (c :: host, rest)

/-- The port is a number up to 65535 and ends the authority or stands before a backslash. -/
def checkPort (cs : List Char) : Except UrlError Unit :=
  let digits := cs.takeWhile Char.isDigit
  let number := digits.foldl (fun n c => 10 * n + (c.toNat - '0'.toNat)) 0
  if 65535 < number then .error .invalidPort
  else match cs.dropWhile Char.isDigit with
    | [] => .ok ()
    | c :: _ => if c = '\\' then .ok () else .error .invalidPort

/-- Whether the user part says anything: a name, or a password behind a colon. -/
def hasCredentials (user : List Char) : Bool := !user.isEmpty && user ≠ [':']

/-- Check an authority, where `last` tells that nothing follows it. -/
def checkAuthority (last : Bool) (authority : List Char) : Except UrlError Unit :=
  match splitUser authority with
  | (user, place) =>
    let (host, port) := splitHost false place
    if user = some [] ∧ place = [] ∧ ¬ last then .error .emptyHost
    else do
      checkOpaqueHost host
      if host = [] ∧ port ≠ [] then .error .emptyHost
      else do
        checkPort (port.drop 1)
        if host = [] ∧ user.any hasCredentials then .error .emptyHost else .ok ()

def checkWebAuthority (authority : List Char) : Except UrlError Unit :=
  match splitHost false (splitUser authority).2 with
  | ([], _) => .error .emptyHost
  | (host, port) => do
    checkDomainHost host
    checkPort (port.drop 1)

def isDrive : List Char → Bool
  | [c, d] => c.isAlpha && (d = ':' || d = '|')
  | _ => false

def checkFileHost (host : List Char) : Except UrlError Unit :=
  if host = [] ∨ isDrive host then .ok () else checkDomainHost host

def Manner.check (m : Manner) (cs : List Char) : Except UrlError Unit :=
  match m, cs with
  | web, _ => checkWebAuthority ((cs.dropWhile m.isSlash).takeWhile (!m.endsAuthority ·))
  | file, a :: b :: rest =>
    if m.isSlash a ∧ m.isSlash b then checkFileHost (rest.takeWhile (!m.endsAuthority ·))
    else .ok ()
  | plain, '/' :: '/' :: rest =>
    checkAuthority (rest.dropWhile (!m.endsAuthority ·)).isEmpty
      (rest.takeWhile (!m.endsAuthority ·))
  | _, _ => .ok ()

def scheme (s : String) : Except UrlError String :=
  match splitScheme? (clean s) with
  | none => .error .relativeWithoutBase
  | some (scheme, rest) => do
    (Manner.ofScheme scheme).check rest
    .ok scheme

end Url
end Quarry
