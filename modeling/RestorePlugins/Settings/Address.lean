import RestorePlugins.Text.Utf8

namespace RestorePlugins.Settings

/-!
# Addresses of sockets

The address of a socket is its path behind `unix:/`.  It has to be an absolute URI: a scheme,
an authority that is not empty, and a path.  So a usable path begins with a slash, and its first
name, which stands as the authority, is not empty.

* `authorityLength` — how far the authority at the front of some bytes reaches, if it is allowed.
* `isPathAndQuery` — whether the rest is an allowed path with an allowed query.
* `isUri`, `isSocketAddress` — the rules together.
-/

/-- A letter or digit. -/
def isAlphanumeric (b : UInt8) : Bool :=
  (0x30 ≤ b && b ≤ 0x39) || (0x41 ≤ b && b ≤ 0x5a) || (0x61 ≤ b && b ≤ 0x7a)

/-- A character that ends an authority. -/
def endsAuthority (b : UInt8) : Bool := (utf8 "/?#").contains b

/-- A character that an authority may hold anywhere. -/
def isAuthorityByte (b : UInt8) : Bool := isAlphanumeric b || (utf8 "!$&'()*+,-.;=_~").contains b

/-- What has been seen of an authority. -/
structure AuthorityScan where
  /-- The colons since the last at sign or bracket. -/
  colons : Nat := 0
  opened : Bool := false
  closed : Bool := false
  /-- A percent sign stands since the last at sign or closing bracket. -/
  percent : Bool := false
  /-- The last character is an at sign. -/
  endsInAt : Bool := false

namespace AuthorityScan

/-- The most colons in a row of parts. -/
def maxColons : Nat := 8

/-- Looks at one more character. -/
def step (s : AuthorityScan) (b : UInt8) : Option AuthorityScan :=
  let s := { s with endsInAt := false }
  if b = 0x3a then
    if maxColons ≤ s.colons then none else some { s with colons := s.colons + 1 }
  else if b = 0x5b then
    if s.percent || s.opened then none else some { s with opened := true }
  else if b = 0x5d then
    if !s.opened || s.closed then none
    else some { s with closed := true, colons := 0, percent := false }
  else if b = 0x40 then some { s with colons := 0, percent := false, endsInAt := true }
  else if b = 0x25 then some { s with percent := true }
  else if isAuthorityByte b then some s
  else none

/-- Whether an authority may end here. -/
def mayEnd (s : AuthorityScan) : Bool :=
  s.opened == s.closed && decide (s.colons ≤ 1) && !s.endsInAt && !s.percent

end AuthorityScan

/-- Reads the authority at the front; gives its length. -/
def scanAuthority (s : AuthorityScan) : Bytes → Option Nat
  | [] => if s.mayEnd then some 0 else none
  | b :: rest =>
    if endsAuthority b then if s.mayEnd then some 0 else none
    else match s.step b with
      | none => none
      | some s => (scanAuthority s rest).map (· + 1)

/-- How far the authority at the front reaches, if it is allowed. -/
def authorityLength (bs : Bytes) : Option Nat := scanAuthority {} bs

/-- A character of a query. -/
def isQueryByte (b : UInt8) : Bool :=
  b = 0x21 || (0x24 ≤ b && b ≤ 0x3b) || b = 0x3d || (0x3f ≤ b && b ≤ 0x7e)

/-- A character of a path. -/
def isPathByte (b : UInt8) : Bool :=
  b = 0x21 || b = 0x22 || (0x24 ≤ b && b ≤ 0x3b) || b = 0x3d || (0x40 ≤ b && b ≤ 0x5f)
    || (0x61 ≤ b && b ≤ 0x7e)

/-- Whether a query is allowed; what follows a number sign is not looked at. -/
def isQuery : Bytes → Bool
  | [] => true
  | b :: rest => b = 0x23 || (isQueryByte b && isQuery rest)

/-- Whether a path with its query is allowed. -/
def isPathAndQuery : Bytes → Bool
  | [] => true
  | b :: rest =>
    if b = 0x23 then true
    else if b = 0x3f then isQuery rest
    else isPathByte b && isPathAndQuery rest

/-- The most bytes of a URI. -/
def maxUriBytes : Nat := 65534

/-- What follows the scheme `unix` of a URI, if the URI has it. -/
def afterScheme? (bs : Bytes) : Option Bytes :=
  let scheme := utf8 "unix://"
  if scheme.isPrefixOf bs then some (bs.drop scheme.length) else none

/-- Whether bytes are an absolute URI of a socket. -/
def isUri (bs : Bytes) : Bool :=
  decide (bs.length ≤ maxUriBytes) &&
    match afterScheme? bs with
    | none => false
    | some rest =>
      match authorityLength rest with
      | none => false
      | some length => decide (length ≠ 0) && isPathAndQuery (rest.drop length)

/-- Whether the address of the socket at a path is allowed. -/
def isSocketAddress (path : String) : Bool := isUri (utf8 ("unix:/" ++ path))

end RestorePlugins.Settings
