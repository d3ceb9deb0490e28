/-!
# Addresses

Which texts are addresses, and what is left of one on the wire.  An address is a path, a host, or
a scheme with a host and a path; a fragment is accepted and dropped.
-/

set_option autoImplicit false

namespace BucketProvisioning.Uri

/-- An address is shorter than this, in bytes. -/
def lengthLimit : Nat := 65535

/-- Whether a character may stand in a path as it is. -/
def isPathChar (c : Char) : Bool :=
  let n := c.toNat
  n = 0x21 || (0x24 ≤ n && n ≤ 0x3B) || n = 0x3D || (0x40 ≤ n && n ≤ 0x5F)
    || (0x61 ≤ n && n ≤ 0x7A) || n = 0x7C || n = 0x7E || 0x80 ≤ n
    || c = '"' || c = '\x7b' || c = '\x7d'

/-- Whether a character may stand in a query as it is. -/
def isQueryChar (c : Char) : Bool :=
  let n := c.toNat
  n = 0x21 || (0x24 ≤ n && n ≤ 0x3B) || n = 0x3D || (0x3F ≤ n && n ≠ 0x7F)

/-- Whether a character may stand in the name of a scheme. -/
def isSchemeChar (c : Char) : Bool :=
  c.isAlphanum || c = '+' || c = '-' || c = '.' || c = '~'

/-- Whether a character may stand in a host part; a percent sign is judged apart. -/
def isAuthorityChar (c : Char) : Bool :=
  c.isAlphanum || ['!', '$', '&', '\'', '(', ')', '*', '+', ',', '-', '.', ':', ';', '=', '@', '[',
    ']', '_', '~'].contains c

/-- What has been seen of a host part. -/
structure HostScan where
  /-- Colons that may introduce a number after the host. -/
  colons : Nat := 0
  /-- Whether a bracket has been opened. -/
  opened : Bool := false
  /-- Whether it has been closed. -/
  closed : Bool := false
  /-- Whether a percent sign stands outside of a user name. -/
  percent : Bool := false
  /-- Whether the last character ends a user name. -/
  atEnd : Bool := false

/-- The next character of a host part. -/
def HostScan.step (s : HostScan) (c : Char) : Option HostScan :=
  let s' := { s with atEnd := false }
  if c = ':' then if 8 ≤ s.colons then none else some { s' with colons := s.colons + 1 }
  else if c = '[' then if s.percent || s.opened then none else some { s' with opened := true }
  else if c = ']' then
    if !s.opened || s.closed then none
    else some { s' with closed := true, colons := 0, percent := false }
  else if c = '@' then some { s' with colons := 0, percent := false, atEnd := true }
  else if c = '%' then some { s' with percent := true }
  else if isAuthorityChar c then some s'
  else none

/-- Whether a host part may end here. -/
def HostScan.complete (s : HostScan) : Bool :=
  s.opened == s.closed && s.colons ≤ 1 && !s.atEnd && !s.percent

/-- Whether a character ends the host part. -/
def endsAuthority (c : Char) : Bool := c = '/' || c = '?' || c = '#'

/-- The host part at the beginning of a text and what follows it. -/
def splitAuthority (cs : List Char) : Option (List Char × List Char) :=
  let host := cs.takeWhile (!endsAuthority ·)
  match host.foldlM HostScan.step {} with
  | some s => if s.complete then some (host, cs.dropWhile (!endsAuthority ·)) else none
  | none => none

/-- The path and query at the beginning of a text, without a fragment. -/
def pathAndQuery (cs : List Char) : Option (List Char) :=
  let path := cs.takeWhile fun c => c ≠ '?' && c ≠ '#'
  let rest := (cs.dropWhile fun c => c ≠ '?' && c ≠ '#').takeWhile (· ≠ '#')
  if path.all isPathChar && rest.all isQueryChar then some (path ++ rest) else none

/-- Whether a text begins with a word, in either case. -/
def beginsWith (word cs : List Char) : Bool :=
  (cs.take word.length).map Char.toLower = word

/-- The text after the scheme, if there is one; nothing if the scheme is too long. -/
def afterScheme (cs : List Char) : Option (Bool × List Char) :=
  if beginsWith "http://".toList cs then some (true, cs.drop 7)
  else if beginsWith "https://".toList cs then some (true, cs.drop 8)
  else if cs.length ≤ 3 then some (false, cs)
  else
    let name := cs.takeWhile isSchemeChar
    match cs.drop name.length with
    | ':' :: '/' :: '/' :: rest => if 64 < name.length then none else some (true, rest)
    | _ => some (false, cs)

/-- Whether a text of at least two characters that is no path is an address. -/
def isAbsoluteOrHost (cs : List Char) : Bool :=
  match afterScheme cs with
  | none => false
  | some (absolute, rest) =>
    match splitAuthority rest with
    | none => false
    | some (host, rest) =>
      if absolute then !host.isEmpty && (pathAndQuery rest).isSome else rest.isEmpty

/-- Whether a text is an address. -/
def isValid (s : String) : Bool :=
  s.utf8ByteSize < lengthLimit &&
    match s.toList with
    | [] => false
    | ['*'] => true
    | '/' :: cs => (pathAndQuery ('/' :: cs)).isSome
    | [c] => ((splitAuthority [c]).map fun r => r.2.isEmpty).getD false
    | cs => isAbsoluteOrHost cs

end BucketProvisioning.Uri
