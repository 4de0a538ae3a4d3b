/-!
Addresses as part of a locator. An address is fit when it is an authority, possibly with a path, a
query and a fragment behind it, that may follow a scheme and two slashes.
-/

namespace Telemetry.Net

/-- The characters an authority is made of, apart from the percent sign. -/
def isAuthorityChar (c : Char) : Bool :=
  c.isAlphanum || "!$&'()*+,-.:;=@[]_~".toList.contains c

def endsAuthority (c : Char) : Bool := c == '/' || c == '?' || c == '#'

/-- What has been seen of an authority. -/
structure AuthorityScan where
  /-- Colons since the last closing bracket or at sign. -/
  colons : Nat := 0
  opened : Bool := false
  closed : Bool := false
  /-- A percent sign has not been cleared by a closing bracket or an at sign. -/
  percent : Bool := false
deriving DecidableEq, Repr

def mostColons : Nat := 8

/-- Goes over one character, refusing one that cannot stand there. -/
def AuthorityScan.step (scan : AuthorityScan) (c : Char) : Option AuthorityScan :=
  if c = ':' then
    if mostColons ≤ scan.colons then none else some { scan with colons := scan.colons + 1 }
  else if c = '[' then
    if scan.percent || scan.opened then none else some { scan with opened := true }
  else if c = ']' then
    if !scan.opened || scan.closed then none
    else some { scan with closed := true, colons := 0, percent := false }
  else if c = '@' then some { scan with colons := 0, percent := false }
  else if c = '%' then some { scan with percent := true }
  else if isAuthorityChar c then some scan
  else none

def isAuthority (text : List Char) : Bool :=
  match text.foldlM AuthorityScan.step {} with
  | none => false
  | some scan =>
      !text.isEmpty && scan.opened == scan.closed && scan.colons ≤ 1 && !scan.percent &&
        text.getLast? != some '@'

def isPathChar (c : Char) : Bool :=
  let code := c.toNat
  code == 0x21 || (0x24 ≤ code && code ≤ 0x3B) || code == 0x3D || (0x40 ≤ code && code ≤ 0x5F) ||
    (0x61 ≤ code && code ≤ 0x7A) || code == 0x7C || code == 0x7E || code == 0x22 ||
    code == 0x7B || code == 0x7D || 0x80 ≤ code

def isQueryChar (c : Char) : Bool :=
  let code := c.toNat
  code == 0x21 || (0x24 ≤ code && code ≤ 0x3B) || code == 0x3D || (0x3F ≤ code && code ≤ 0x7E) ||
    0x80 ≤ code

/-- What may follow an authority: a path up to a query or a fragment. A fragment holds anything. -/
def isLocatorEnd (text : List Char) : Bool :=
  let path := text.takeWhile (fun c => c != '?' && c != '#')
  let afterPath := text.drop path.length
  let query := afterPath.takeWhile (· != '#')
  path.all isPathChar && (query.drop 1).all isQueryChar

def longestLocator : Nat := 65534

/-- Whether a scheme and two slashes followed by the address make a locator. -/
def isLocator (scheme address : String) : Bool :=
  let text := address.toList
  let authority := text.takeWhile (fun c => !endsAuthority c)
  scheme.utf8ByteSize + 3 + address.utf8ByteSize ≤ longestLocator && isAuthority authority &&
    isLocatorEnd (text.drop authority.length)

end Telemetry.Net
