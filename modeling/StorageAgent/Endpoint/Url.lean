import StorageAgent.HostName.Label
import StorageAgent.Text.Basic

/-!
# Addresses of endpoints

An address has a scheme, an authority after two slashes, a path, and more that
does not matter here (RFC 3986); each of them may be missing. The authority has
a user, a host and a port. `Url.destination` says whether a text is an address,
and whether it names a scheme and a host.
-/
namespace StorageAgent

/-- What an address leads to. -/
inductive Destination where
  /-- It is no address. -/
  | invalid
  /-- It lacks a scheme or a host. -/
  | relative
  | absolute
  deriving DecidableEq, Repr

namespace Url

def sizeLimit : Nat := 65536

def isControl (c : Char) : Bool := decide (c.toNat < 32 ∨ c.toNat = 127)

def isSchemeChar (c : Char) : Bool := c.isAlphanum || c == '+' || c == '.' || c == '-'

def scheme (chars : List Char) : List Char × List Char :=
  let word := if (chars.head?.map Char.isAlpha).getD false then chars.takeWhile isSchemeChar else []
  match chars.drop word.length with
  | ':' :: rest => (word, rest)
  | _ => ([], chars)

def authority : List Char → List Char × List Char
  | '/' :: '/' :: rest =>
    let inside := rest.takeWhile fun c => c != '/' && c != '?' && c != '#'
    (inside, rest.drop inside.length)
  | chars => ([], chars)

/-- The user of an authority, and what follows the last at sign. -/
def user (authority : List Char) : List Char × List Char :=
  let rest := (authority.reverse.takeWhile (· != '@')).reverse
  (authority.take (authority.length - rest.length - 1), rest)

/-- The host, and the port as it is written. A host in brackets ends with the last bracket. -/
def hostAndPort (chars : List Char) : List Char × List Char :=
  let host :=
    if chars.head? == some '[' && chars.contains ']' then
      (chars.reverse.dropWhile (· != ']')).reverse
    else chars.takeWhile (· != ':')
  match chars.drop host.length with
  | ':' :: port => (host, port)
  | port => (host, port)

/-- Whether a text can stand for a host: a numeric address that is right, any other ASCII text, or an
internationalised name. -/
def isHost (host : List Char) : Bool :=
  if host.isEmpty then true
  else if HostName.looksFourPart host then HostName.isFourPart host
  else if host.head? == some '[' && host.getLast? == some ']' then
    HostName.isEightPart (host.drop 1).dropLast
  else host.all HostName.Punycode.isAscii || HostName.isValid host

/-- The ports that need not be written. -/
def standardPorts : List (String × Int) :=
  [("ftp", 21), ("http", 80), ("https", 443), ("ws", 80), ("wss", 443)]

/-- Whether a path may stand at the beginning of an address. -/
def isOpening : List Char → Bool
  | '/' :: '/' :: _ => false
  | ':' :: _ => false
  | _ => true

/-- What an address leads to. -/
def destination (text : String) : Destination :=
  let chars := text.toList
  let (scheme, rest) := scheme chars
  let (authority, path) := authority rest
  let (user, rest) := user authority
  let (host, port) := hostAndPort rest
  let number? := Text.Numeral.integer? (String.ofList port)
  let hasPort := !port.isEmpty && number? != standardPorts.lookup (String.ofList scheme)
  if sizeLimit < chars.length || chars.any isControl || !isHost host then .invalid
  else if !port.isEmpty && number?.isNone then .invalid
  else if !scheme.isEmpty && !host.isEmpty then .absolute
  else if !scheme.isEmpty || !user.isEmpty || !host.isEmpty || hasPort || isOpening path then .relative
  else .invalid

end Url
end StorageAgent
