import WorkspaceAccess.CommandLine.Number
import WorkspaceAccess.Text.Parts

/-!
# Addresses on the Command Line

The address at which the administration is served is a network address with a port. It is one of
four numbers between dots, or one of eight hexadecimal groups in brackets.

Only the form is checked here; the address is used by nothing but the server of the administration,
so a text is either such an address or not, and no structure is built from it. The forms are
narrower than they are elsewhere in use: a number below 256 has no zero in front, a group has one to
four digits, and at most one run of groups may be left out. Four numbers may stand in place of the
last two groups, and in brackets the number of a network may follow after a percent sign.
-/

namespace WorkspaceAccess.SettingValue

/-- A part of an address of four numbers: one to three digits below 256 without a zero in
front. -/
def isOctet (s : List Char) : Bool :=
  !s.isEmpty && s.length ≤ 3 && s.all Char.isDigit && (s.length == 1 || s.head? != some '0') &&
    (number? 256 (String.ofList s)).isSome

/-- An address of four numbers, each of one to three digits. -/
def isIPv4 (s : List Char) : Bool :=
  let parts := Text.parts (· == '.') s
  parts.length == 4 && parts.all isOctet

/-- The number of groups of a part of an address in hexadecimal groups, if it is one; four numbers
at its end are two groups, and an empty part has none. -/
def groups? (s : List Char) : Option Nat :=
  if s.isEmpty then some 0
  else
    let parts := Text.parts (· == ':') s
    let isGroup (g : List Char) : Bool :=
      !g.isEmpty && g.length ≤ 4 &&
        g.all fun c => c.isDigit || ('a' ≤ c && c ≤ 'f') || ('A' ≤ c && c ≤ 'F')
    if parts.all isGroup then some parts.length
    else if parts.dropLast.all isGroup && isIPv4 (parts.getLast?.getD []) then
      some (parts.length + 1)
    else none

/-- The text before and after the first two colons in a row. -/
def splitGap? : List Char → Option (List Char × List Char)
  | ':' :: ':' :: rest => some ([], rest)
  | c :: rest => (splitGap? rest).map fun p => (c :: p.1, p.2)
  | [] => none

/-- An address in hexadecimal groups, where two colons may stand for groups of zero. There are eight
groups, or fewer and two colons somewhere between them. -/
def isIPv6 (s : List Char) : Bool :=
  match splitGap? s with
  | none => groups? s == some 8
  | some (front, back) =>
    match groups? front, groups? back with
    | some m, some n => m + n ≤ 7 && !front.contains '.'
    | _, _ => false

/-- A port, which is a number that fits into two bytes. -/
def isPort (s : List Char) : Bool :=
  !s.isEmpty && s.all Char.isDigit && (number? 65536 (String.ofList s)).isSome

/-- An address in hexadecimal groups and the number of the network that it belongs to, if one
follows after a percent sign. -/
def isScopedIPv6 (s : List Char) : Bool :=
  match s.dropWhile (· ≠ '%') with
  | _ :: scope =>
    isIPv6 (s.takeWhile (· ≠ '%')) && scope.all Char.isDigit &&
      (number? 0x1_0000_0000 (String.ofList scope)).isSome
  | [] => isIPv6 s

/-- An address with a port. Brackets tell the colons of an address apart from the one in front of
the port. -/
def isSocketAddress (text : String) : Bool :=
  match text.toList with
  | '[' :: rest =>
    match rest.dropWhile (· ≠ ']') with
    | ']' :: ':' :: port => isScopedIPv6 (rest.takeWhile (· ≠ ']')) && isPort port
    | _ => false
  | s =>
    match s.dropWhile (· ≠ ':') with
    | ':' :: port => isIPv4 (s.takeWhile (· ≠ ':')) && isPort port
    | _ => false

end WorkspaceAccess.SettingValue

