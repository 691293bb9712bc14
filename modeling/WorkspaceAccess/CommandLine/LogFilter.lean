import WorkspaceAccess.CommandLine.Number
import WorkspaceAccess.Text.Alphanumeric
import WorkspaceAccess.Text.Blank
import WorkspaceAccess.Text.Cut
import WorkspaceAccess.Text.Parts

/-!
# Which Events Are Logged

A log filter is a list of directives between commas. A directive is a level, a target, or a span in
brackets with or without a field in braces, and may set a level after an equals sign. Blanks around
a directive are ignored, unless it ends in a level that is set.

A directive is read character by character by a small machine, `Progress`, whose states say which
part is being read and where it begins. The machine accepts or rejects; what the directives mean is
the business of the log and nothing here depends on it.

The places in a directive are counted without the blanks in front of it, but its parts are cut out
of the text with them. So beside blanks of several bytes a cut may fall inside a character, and such
a text ends the program with a message about the place (`LogFilterFault.split`) and not with one
about the option. `WorkspaceAccess.Text.Cut` says where a cut is possible.
-/

namespace WorkspaceAccess

/-- What keeps a text from being a log filter: its form, or a cut through a character. -/
inductive LogFilterFault where
  /-- A directive is not of the right form. -/
  | malformed
  /-- A part of a directive begins or ends inside a character. -/
  | split (place : Text.SplitCharacter)
  deriving DecidableEq

namespace LogFilter

/-- The text names a level of events, by a word in letters of either case or by a number up to
five. -/
def isLevel (s : List Char) : Bool :=
  let words := ["trace", "debug", "info", "warn", "error", "off"]
  words.contains (String.ofList (s.map Char.toLower)) ||
    (SettingValue.number? 6 (String.ofList s)).isSome

/-- The character may begin a target. -/
def beginsTarget (c : Char) : Bool :=
  c == '-' || c == ':' || c == '_' || Text.isAlphanumeric c

/-- What has been read of a directive, with the place where the part being read begins. A directive
may end after a target, a span or a level. -/
inductive Progress where
  /-- Nothing has been read of it yet. -/
  | nothing
  /-- A part of a target, or of a level without target. -/
  | target
  /-- The bracket of a span. -/
  | span (start : Nat)
  /-- The brace of a field. -/
  | field (start : Nat)
  /-- A whole field, behind which its span may end. -/
  | afterField
  /-- A whole span, behind which a level may follow. -/
  | afterSpan
  /-- The equals sign before a level. -/
  | level (start : Nat)

/-- Whether a part can be cut out of a text. -/
def cut (text : List Char) (start stop : Nat) : Except LogFilterFault Unit :=
  (Text.checkCut text start stop).mapError .split

/-- Reads the character at a place of a directive. The parts that it ends are cut out of the text
with the blanks. -/
def Progress.next (text : List Char) (progress : Progress) (place : Nat) (c : Char) :
    Except LogFilterFault Progress :=
  match progress with
  | nothing =>
    if c = '[' then .ok (span (place + 1))
    else if beginsTarget c then .ok target
    else .error .malformed
  | target =>
    if c = '=' then (cut text 0 place).map fun _ => level (place + 1)
    else if c = '[' then (cut text 0 place).map fun _ => span (place + 1)
    else .ok target
  | span start =>
    if c = ']' then (cut text start place).map fun _ => afterSpan
    else if c = '\x7b' then (cut text start place).map fun _ => field (place + 1)
    else .ok (span start)
  | field start =>
    if c = '\x7d' then do
      cut text start place
      if start = place then .error .malformed else .ok afterField
    else .ok (field start)
  | afterField => if c = ']' then .ok afterSpan else .error .malformed
  | afterSpan => if c = '=' then .ok (level (place + 1)) else .error .malformed
  | level start => .ok (level start)

/-- Whether what sets a level may stand at the end of the text with the blanks. -/
def checkLevel (text name : List Char) (blank : Bool) (start : Nat) :
    Except LogFilterFault Unit := do
  cut text start (String.ofList text).utf8ByteSize
  if !blank && (name.isEmpty || isLevel name) then .ok () else .error .malformed

/-- Reads the rest of a directive, which begins at a place. Once an equals sign has been read, all
that follows is the level. -/
def readRest (text : List Char) (blank : Bool) :
    Progress → Nat → List Char → Except LogFilterFault Unit
  | .level start, _, name => checkLevel text name blank start
  | .target, _, [] | .afterSpan, _, [] => .ok ()
  | _, _, [] => .error .malformed
  | progress, place, c :: rest => do
    readRest text blank (← progress.next text place c) (place + c.utf8Size) rest

/-- Whether a text is a directive. -/
def checkDirective (text : List Char) : Except LogFilterFault Unit :=
  let trimmed := Text.trimWhile Text.isBlank text
  readRest text (trimmed != text) .nothing 0 trimmed

end LogFilter

/-- Whether a text is a log filter: directives between commas, where nothing may stand between
two. -/
def SettingValue.checkLogFilter (text : String) : Except LogFilterFault Unit :=
  ((Text.parts (· == ',') text.toList).filter fun d => !d.isEmpty).forM LogFilter.checkDirective

/-- A field is compared with any text. -/
example : (SettingValue.checkLogFilter "web[request\x7bpath=(\x7d]=info").isOk = true := by
  decide +kernel

/-- The cut after the target falls inside the blank in front of it. -/
example : (SettingValue.checkLogFilter "\u3000a=info").isOk = false := by
  decide +kernel

end WorkspaceAccess
