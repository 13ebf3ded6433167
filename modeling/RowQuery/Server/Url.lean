import RowQuery.Text.Blank
import RowQuery.Text.Case
import RowQuery.Text.Percent
import RowQuery.Text.Split
import RowQuery.Value.Integer

/-!
URLs cut into scheme, authority and path. Control characters and blanks before them, and tabs and
line ends anywhere, are dropped first; a scheme is only taken when it starts with a letter; a host
in brackets is an IPv6 address or a future form of one.
-/

namespace RowQuery

structure Url where
  scheme : List Char
  authority : List Char
  path : List Char
  deriving Repr

namespace Url

def isSchemeChar (c : Char) : Bool := c.isAlphanum || c == '+' || c == '-' || c == '.'

/-- The scheme in small letters, empty when there is none, and the rest of the text. -/
def cutScheme (cs : List Char) : List Char × List Char :=
  match Text.cutChars ':' cs with
  | (c :: scheme, some rest) =>
    if c.isAlpha && scheme.all isSchemeChar then ((c :: scheme).map Char.toLower, rest)
    else ([], cs)
  | _ => ([], cs)

def endsAuthority (c : Char) : Bool := c == '/' || c == '?' || c == '#'

/-- The authority after two slashes, empty without them, and the rest of the text. -/
def cutAuthority : List Char → List Char × List Char
  | '/' :: '/' :: cs =>
    (cs.takeWhile fun c => !endsAuthority c, cs.dropWhile fun c => !endsAuthority c)
  | cs => ([], cs)

/-- Four groups of at most three digits without leading zeros, each at most 255. -/
def isIpv4 (cs : List Char) : Bool :=
  let parts := Text.splitChars '.' cs
  parts.length == 4 && parts.all fun p =>
    !p.isEmpty && p.length ≤ 3 && p.all Char.isDigit && (p.length == 1 || p.head? != some '0') &&
      p.foldl (fun n d => 10 * n + (d.toNat - 48)) 0 ≤ 255

def isHexGroup (p : List Char) : Bool :=
  !p.isEmpty && p.length ≤ 4 && p.all fun c => (Text.hexValue? c).isSome

/-- Eight groups, or fewer with one empty place between them; `::` may stand at either end. -/
def isGroups (parts : List (List Char)) : Bool :=
  let inner := (parts.drop 1).dropLast
  let first := parts.head?.getD []
  let last := parts.getLast?.getD []
  if parts.length < 3 || 9 < parts.length then false
  else match (List.range inner.length).filter fun i => (inner[i]?.getD []).isEmpty with
    | [] => parts.length == 8 && parts.all isHexGroup
    | [i] =>
      let high := if first.isEmpty then i else i + 1
      let low := if last.isEmpty then parts.length - i - 3 else parts.length - i - 2
      (!first.isEmpty || high == 0) && (!last.isEmpty || low == 0) && high + low < 8 &&
        ((parts.take (i + 1)).drop (i + 1 - high)).all isHexGroup &&
        ((parts.drop (i + 2)).take low).all isHexGroup
    | _ => false

/-- An IPv6 address; its end may be written as an IPv4 address, and a zone may follow. -/
def isIpv6 (cs : List Char) : Bool :=
  let (address, zone) := Text.cutChars '%' cs
  let parts := Text.splitChars ':' address
  let last := parts.getLast?.getD []
  let zoneFine := match zone with
    | none => true
    | some z => !z.isEmpty && !z.contains '%'
  let groups := if last.contains '.' then parts.dropLast ++ [['0'], ['0']] else parts
  zoneFine && !cs.contains '/' && 3 ≤ parts.length && (!last.contains '.' || isIpv4 last) &&
    isGroups groups

/-- The letter v, hexadecimal digits, a point and at least one character. -/
def isFutureAddress : List Char → Bool
  | 'v' :: cs =>
    let digits := cs.takeWhile fun c => (Text.hexValue? c).isSome
    match cs.dropWhile fun c => (Text.hexValue? c).isSome with
    | '.' :: rest => !digits.isEmpty && !rest.isEmpty && !rest.contains '\n'
    | _ => false
  | _ => false

/-- The authority without user and password. -/
def hostAndPort (authority : List Char) : List Char := (Text.cutLastChars '@' authority).2

/-- What stands in brackets is an address, with nothing before it and at most a port after it. -/
def bracketsFine (authority : List Char) : Bool :=
  let host := match Text.cutChars '[' (hostAndPort authority) with
    | (before, some rest) =>
      let (address, after) := Text.cutChars ']' rest
      let port := after.getD []
      if before.isEmpty && (port.isEmpty || port.head? == some ':') then some address else none
    | (_, none) => some (Text.cutChars ':' (hostAndPort authority)).1
  match host with
  | none => false
  | some ('v' :: rest) => isFutureAddress ('v' :: rest)
  | some address => isIpv6 address

/-- Characters that compatibility forms make into one of `/?#@:`. -/
def lookalikes : List Nat :=
  [0x2047, 0x2048, 0x2049, 0x2100, 0x2101, 0x2105, 0x2106, 0x2A74, 0xFE13, 0xFE16, 0xFE55, 0xFE56,
    0xFE5F, 0xFE6B, 0xFF03, 0xFF0F, 0xFF1A, 0xFF1F, 0xFF20]

/-- Brackets come in pairs around an address, and no character looks like a delimiter. -/
def authorityFine (authority : List Char) : Bool :=
  authority.contains '[' == authority.contains ']' &&
    (!authority.contains '[' || bracketsFine authority) &&
    !authority.any fun c => lookalikes.contains c.toNat

/-- The parts of a URL, none when its authority is malformed. -/
def ofString? (s : String) : Option Url :=
  let cs := (s.toList.dropWhile fun c => c.toNat ≤ 32).filter fun c =>
    c != '\t' && c != '\r' && c != '\n'
  let (scheme, rest) := cutScheme cs
  let (authority, rest) := cutAuthority rest
  let path := (Text.cutChars '?' (Text.cutChars '#' rest).1).1
  if authorityFine authority then some { scheme, authority, path } else none

/-- The user and the password before the last at sign, both still encoded. -/
def credentials (u : Url) : List Char × List Char :=
  match (Text.cutLastChars '@' u.authority).1 with
  | none => ([], [])
  | some cs => ((Text.cutChars ':' cs).1, (Text.cutChars ':' cs).2.getD [])

/-- The host and the port as they are written, without brackets. -/
def hostPort (u : Url) : List Char × List Char :=
  let cs := hostAndPort u.authority
  match Text.cutChars '[' cs with
  | (_, some rest) =>
    let (host, after) := Text.cutChars ']' rest
    (host, (Text.cutChars ':' (after.getD [])).2.getD [])
  | (_, none) => ((Text.cutChars ':' cs).1, (Text.cutChars ':' cs).2.getD [])

/-- The host in small letters; the zone of an address keeps its case. -/
def host (u : Url) : List Char :=
  match Text.cutChars '%' u.hostPort.1 with
  | (name, none) => Text.lowerChars [] name
  | (name, some zone) => Text.lowerChars [] name ++ '%' :: zone

/-- The port, none when it is no number up to 65535 or has too many digits for one; zero when there
is none. -/
def port? (u : Url) : Option Nat :=
  let cs := u.hostPort.2
  if !cs.all Char.isDigit || Text.maxDigits < cs.length then none
  else
    let n := Text.ofDigits (cs.map fun c => c.toNat - 48)
    if n ≤ 65535 then some n else none

end Url

end RowQuery
