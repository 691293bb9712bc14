/-!
# Addresses

An address has one of four forms: `scheme://authority/path?query`, an authority alone, a path with a
query alone, or `*`. A fragment is dropped when an address is read. An authority holds ASCII only; a
path and a query may hold any character beyond ASCII.

Reading checks every part and keeps it as it is: nothing is decoded, folded or normalized, apart
from the schemes `http` and `https`, which are held in lower case. The path ends at the first `?` or
`#`, wherever it stands, so a text that is put into a path without being checked for these two may
come out as something else than a path. An authority is scanned once, character by character
(`AuthorityScan`); the scan counts colons and brackets, and forgets those of a user and of a
bracketed host when they end.

Writing an address puts a path after every authority that has a scheme (`https://h` is written
`https://h/`), and an address that was read is written without its fragment. `Uri.withTarget?` is
the operation by which one address is made from another one: only the path and the query are
replaced.
-/

namespace WorkspaceAccess

/-- A path, as far as there is one, and a query: what of an address a server gets to see. -/
structure PathAndQuery where
  /-- The characters of the path; there may be none. -/
  path : List Char
  /-- The characters of the query, if there is one. -/
  query : Option (List Char)
  deriving DecidableEq, Inhabited

/-- An address, in its parts. Only addresses that were read are known to be well-formed. -/
structure Uri where
  /-- The scheme, if the address has one. -/
  scheme : Option String
  /-- The authority; the empty text if the address has none. -/
  authority : String
  /-- The path and the query. -/
  target : PathAndQuery
  deriving DecidableEq, Inhabited

namespace PathAndQuery

/-- Neither a path nor a query. -/
def empty : PathAndQuery := ⟨[], none⟩

/-- The character may stand in a path as it is. Neither `?` nor `#` may, and beyond ASCII all
may. -/
def isPathChar (c : Char) : Bool :=
  let n := c.toNat
  n == 0x21 || n == 0x22 || (0x24 ≤ n && n ≤ 0x3B) || n == 0x3D || (0x40 ≤ n && n ≤ 0x5F) ||
    (0x61 ≤ n && n ≤ 0x7E) || 0x80 ≤ n

/-- The character may stand in a query as it is. -/
def isQueryChar (c : Char) : Bool :=
  let n := c.toNat
  n == 0x21 || (0x24 ≤ n && n ≤ 0x3B) || n == 0x3D || (0x3F ≤ n && n ≤ 0x7E) || 0x80 ≤ n

/-- The characters before the fragment; all of them if there is none. -/
def withoutFragment (s : List Char) : List Char := s.takeWhile (· ≠ '#')

/-- A path starts with a slash, unless it is `*` or there is none. -/
def isPathStart (path : List Char) : Bool :=
  path == [] || path == ['*'] || path.head? == some '/'

/-- The path and the query that a text writes. -/
def ofChars? (s : List Char) : Option PathAndQuery :=
  let s := withoutFragment s
  let path := s.takeWhile (· ≠ '?')
  let query := match s.dropWhile (· ≠ '?') with
    | [] => none
    | _ :: query => some query
  if path.all isPathChar && (query.getD []).all isQueryChar && isPathStart path then
    some ⟨path, query⟩
  else none

/-- There is neither a path nor a query. -/
def isEmpty (t : PathAndQuery) : Bool := t.path.isEmpty && t.query.isNone

end PathAndQuery

namespace Uri

/-- An address alone may have this many bytes; longer ones are refused. -/
def maxLength : Nat := 65534

/-- A scheme may have this many characters. -/
def maxSchemeLength : Nat := 64

/-- The character may stand in a scheme. -/
def isSchemeChar (c : Char) : Bool :=
  c.isAlphanum || c == '+' || c == '-' || c == '.' || c == '~'

/-- The scheme in front of an address and the text after `://`; no scheme if there is none, and
`none` if it is too long. -/
def splitScheme? (s : List Char) : Option (Option String × List Char) :=
  let lower := (s.take 8).map Char.toLower
  if lower.take 7 = "http://".toList then some (some "http", s.drop 7)
  else if lower = "https://".toList then some (some "https", s.drop 8)
  else
    let name := s.takeWhile isSchemeChar
    match s.drop name.length with
    | ':' :: '/' :: '/' :: rest =>
      if name.length ≤ maxSchemeLength then
        if s.length ≤ 3 then some (none, s) else some (some (String.ofList name), rest)
      else none
    | _ => some (none, s)

/-- The character may stand in an authority as it is. -/
def isAuthorityChar (c : Char) : Bool :=
  c.isAlphanum || "!$&'()*+,-.:;=@[]_~".toList.contains c

/-- What has been seen of an authority. -/
structure AuthorityScan where
  /-- Colons since the last `@` or `]`. -/
  colons : Nat := 0
  /-- A bracket was opened. -/
  opened : Bool := false
  /-- The bracket was closed. -/
  closed : Bool := false
  /-- A `%` since the last `@` or `]`. -/
  percent : Bool := false
  /-- The last character was `@`. -/
  afterAt : Bool := false

namespace AuthorityScan

/-- Takes one more character of the authority. Colons and percent signs of the user and of a
bracketed host are forgotten at their end. -/
def next (st : AuthorityScan) (c : Char) : Option AuthorityScan :=
  let st := { st with afterAt := c == '@' }
  match c with
  | ':' => if 8 ≤ st.colons then none else some { st with colons := st.colons + 1 }
  | '[' => if st.percent || st.opened then none else some { st with opened := true }
  | ']' =>
    if !st.opened || st.closed then none
    else some { st with closed := true, colons := 0, percent := false }
  | '@' => some { st with colons := 0, percent := false }
  | '%' => some { st with percent := true }
  | c => if isAuthorityChar c then some st else none

/-- What was seen is a whole authority: brackets come in pairs, at most one colon is left for a
port, a percent sign stood for a user or a host in brackets, and something follows the `@`. -/
def isComplete (st : AuthorityScan) : Bool :=
  st.opened == st.closed && st.colons ≤ 1 && !st.afterAt && !st.percent

end AuthorityScan

/-- A character at which an authority ends. -/
def endsAuthority (c : Char) : Bool := c == '/' || c == '?' || c == '#'

/-- The text is an authority, which may be empty. -/
def isAuthority (s : List Char) : Bool :=
  match s.foldlM AuthorityScan.next {} with
  | none => false
  | some st => st.isComplete

/-- The address that a text writes. -/
def ofChars? (s : List Char) : Option Uri :=
  match s with
  | [] => none
  | ['*'] => some ⟨none, "", ⟨['*'], none⟩⟩
  | '/' :: _ => (PathAndQuery.ofChars? s).map (⟨none, "", ·⟩)
  | _ => do
    let (scheme, rest) ← splitScheme? s
    let authority := rest.takeWhile fun c => !endsAuthority c
    let rest := rest.drop authority.length
    if isAuthority authority then
      match scheme with
      | none => if rest.isEmpty then some ⟨none, String.ofList authority, .empty⟩ else none
      | some scheme =>
        if authority.isEmpty then none
        else (PathAndQuery.ofChars? rest).map (⟨some scheme, String.ofList authority, ·⟩)
    else none

/-- The address that a text writes, if it is not too long. Blanks around it are no part of an
address. -/
def parse? (text : String) : Option Uri :=
  if text.utf8ByteSize ≤ maxLength then ofChars? text.toList else none

/-- There is a path: one is written, or the address has a scheme and so a path is called for. -/
def hasPath (u : Uri) : Bool := !u.target.isEmpty || u.scheme.isSome

/-- The characters of the path; a slash where a path is called for and none is written. -/
def path (u : Uri) : List Char :=
  if u.hasPath then (if u.target.path.isEmpty then ['/'] else u.target.path) else []

/-- The address as text, from its parts in order. -/
def text (u : Uri) : String :=
  (match u.scheme with
    | some scheme => scheme ++ "://"
    | none => "") ++ u.authority ++ String.ofList u.path ++
  (match u.target.query with
    | some query => "?" ++ String.ofList query
    | none => "")

/-- The address with another path and query. An authority without a scheme cannot have one. -/
def withTarget? (u : Uri) (target : PathAndQuery) : Option Uri :=
  if u.scheme.isNone && u.authority ≠ "" then none
  else some { u with target }

end Uri

end WorkspaceAccess
