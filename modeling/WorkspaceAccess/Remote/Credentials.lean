import WorkspaceAccess.Certificate.Basic
import WorkspaceAccess.Certificate.Pem
import WorkspaceAccess.CommandLine.Address
import WorkspaceAccess.Remote.Error
import WorkspaceAccess.SortedMap
import WorkspaceAccess.Time.Timestamp
import WorkspaceAccess.Uri

/-!
# Who a Client Is

A user is recognised by what a provider says, by a name and a password, by a token, by the token in
a file or by what a command says, whichever of them comes first; a client certificate may come on
top. Commands cannot be run, and of all files only the empty device can be read, so that a user who
needs others is not recognised. A user may ask to act as another one.

A `Target` is everything that is known about how a cluster is reached, and `Target.check` says
whether a client can be built from it. The checks are made in a fixed order, and the first that
fails is reported: the proxy, the credentials, the certificates of both sides, and the names to act
as. Texts that are sent in the head of a request have to be ones that can stand there.

None of this is about whether a server accepts the client. The checks decide, without any request,
whether there is a client at all; their failures are failures of connecting.
-/

namespace WorkspaceAccess

/-- Data that is given to base 64 or else kept in a file. Where both are given, the text counts. -/
structure KeptData where
  /-- The data to base 64. -/
  text : Option String := none
  /-- The file that holds the data. -/
  file : Option String := none

namespace KeptData

/-- The bytes in a file that can be read: there are none in the empty device. -/
def fileBytes? (path : String) : Option (List UInt8) := if path = "/dev/null" then some [] else none

/-- The data is given. -/
def isGiven (d : KeptData) : Bool := d.text.isSome || d.file.isSome

/-- The data, if it can be read. A text comes before a file. -/
def bytes? (d : KeptData) : Option (List UInt8) :=
  match d.text with
  | some text => Base64.decode text.toList
  | none => d.file.bind fileBytes?

end KeptData

/-- A provider that finds a user, of a kind that fixes what its settings mean. -/
structure Provider where
  /-- The kind of provider, which fixes what its settings mean. -/
  name : String
  /-- What the provider needs to know. -/
  settings : SortedMap String String

/-- How a user is recognised. Several ways may be given at once. -/
structure Credentials where
  /-- The name of the user. -/
  username : Option String := none
  /-- The password of the user. -/
  password : Option String := none
  /-- The token of the user. -/
  token : Option String := none
  /-- The file that holds the token. -/
  tokenFile : Option String := none
  /-- The certificate of the client. -/
  certificate : KeptData := {}
  /-- The key of the client. -/
  key : KeptData := {}
  /-- The user to act as. -/
  actAs : Option String := none
  /-- The groups to act as. -/
  actAsGroups : List String := []
  /-- The provider that finds the user. -/
  provider : Option Provider := none
  /-- The command that finds the user, as whether it is told about the cluster. -/
  command : Option Bool := none

namespace Credentials

/-- What a client shows to be recognised, as far as it matters for building the client. -/
inductive Proof where
  /-- It shows nothing by which it could be recognised. -/
  | none
  /-- A name and a password. -/
  | password
  /-- It shows a token, the same for every request. -/
  | token (text : String)
  /-- A token that is asked for anew when it is no longer valid. -/
  | renewable

/-- How long a token of a provider has to be valid, in seconds. -/
def margin : Int := 60

/-- The token in the settings of a provider is valid for some time. There is no answer for an end
that is no time. -/
def isValid? (now : Timestamp) (expiry : String) : Option Bool :=
  (Timestamp.parse? expiry).map fun t => now.seconds + margin < t.seconds

/-- What a provider says. One kind has a token that does not end, the other also one that does. -/
def ofProvider (now : Timestamp) (p : Provider) : Except ApiError Proof :=
  let setting := p.settings.get?
  if p.name = "oidc" ∨ (p.name = "gcp" ∧ (setting "id-token").isSome) then
    match setting "id-token" with
    | some token => .ok (.token token)
    | none => .error .unrecognised
  else if p.name = "gcp" ∧ (setting "access-token").isSome then
    match (setting "expiry").bind (isValid? now) with
    | some true => .ok .renewable
    | _ => .error .unrecognised
  else .error .unrecognised

/-- What the client shows: the first of the ways that are given, in the order in which they
count. -/
def proof (now : Timestamp) (c : Credentials) : Except ApiError Proof :=
  match c.provider with
  | some p => ofProvider now p
  | none =>
    if c.username.isSome ∧ c.password.isSome then .ok .password
    else match c.token with
      | some token => .ok (.token token)
      | none =>
        match c.tokenFile with
        | some path =>
          if (KeptData.fileBytes? path).isSome then .ok .renewable else .error .unrecognised
        | none => if c.command.isSome then .error .unrecognised else .ok .none

/-- The text may stand in the head of a request. -/
def isHeaderText (s : String) : Bool :=
  s.toList.all fun c => c = '\t' || (0x20 ≤ c.toNat && c.toNat ≠ 0x7F)

/-- The client can be recognised, and a token that it shows can be sent. -/
def checkProof (now : Timestamp) (c : Credentials) : Except ApiError Unit := do
  match ← c.proof now with
  | .token token => if isHeaderText token then .ok () else .error .unspeakableToken
  | _ => .ok ()

/-- The client's certificate and key cannot be read, or there is one of each. Those that cannot be
read are passed over, as if they had not been given. -/
def isIdentityUsable (c : Credentials) : Bool :=
  match c.certificate.bytes?, c.key.bytes? with
  | some certificate, some key =>
    match Pem.sections? (key ++ '\n'.toNat.toUInt8 :: certificate) with
    | some sections =>
      let of (tags : List String) := sections.filter fun s => tags.contains s.tag
      let certificates := of ["CERTIFICATE"]
      let keys := of ["PRIVATE KEY", "RSA PRIVATE KEY", "EC PRIVATE KEY"]
      !certificates.isEmpty && !keys.isEmpty &&
        certificates.all (Certificate.isCertificate ·.data) && keys.all (Certificate.isKey ·.data)
    | none => false
  | _, _ => true

/-- The users and groups to act as can be named in a request. -/
def isImpersonationSpeakable (c : Credentials) : Bool :=
  (c.actAs.toList ++ c.actAsGroups).all isHeaderText

end Credentials

/-- How a client reaches a cluster: where, through what, and as whom. -/
structure Target where
  /-- The address of the cluster. -/
  url : Uri
  /-- The address of a proxy. -/
  proxy : Option Uri
  /-- The certificates by which the cluster is recognised, if they are given. -/
  certificates : List (List UInt8)
  /-- The name that the cluster has to have. -/
  serverName : Option String
  /-- Who the client is, and how it is recognised. -/
  credentials : Credentials

namespace Target

/-- What has been read of a name of a host, with the length of the label that is being read. -/
inductive HostName where
  /-- Nothing has been read of it yet. -/
  | nothing
  /-- A point after a label. -/
  | point
  /-- A point, after a part that is only digits. -/
  | pointAfterDigits
  /-- So many characters of a label. -/
  | label (length : Nat)
  /-- So many digits of a label. -/
  | digits (length : Nat)
  /-- So many characters of a label, the last of them a dash. -/
  | dash (length : Nat)

/-- One more character of a name. A label has at most 63 of them, and no dash at its ends. -/
def HostName.next (h : HostName) (c : Char) : Option HostName :=
  let inside (length : Nat) (digit : HostName) : Option HostName :=
    if 63 ≤ length then none
    else if c.isDigit then some digit
    else if c.isAlpha ∨ c = '_' then some (label (length + 1))
    else if c = '-' then some (dash (length + 1))
    else none
  match h with
  | nothing | point | pointAfterDigits =>
    if c.isDigit then some (digits 1) else if c.isAlpha ∨ c = '_' then some (label 1) else none
  | label n => if c = '.' then some point else inside n (label (n + 1))
  | digits n => if c = '.' then some pointAfterDigits else inside n (digits (n + 1))
  | dash n => inside n (label (n + 1))

/-- The text names a host: labels with points between them, of which the last is no number, or an
address. -/
def isHost (s : String) : Bool :=
  (s.length ≤ 253 &&
    match s.toList.foldlM HostName.next .nothing with
    | some (.label _) | some .point => true
    | _ => false) ||
  SettingValue.isIPv4 s.toList || SettingValue.isIPv6 s.toList

/-- Why a proxy cannot be used. -/
def checkProxy (t : Target) : Except ApiError Unit :=
  match t.proxy with
  | none => .ok ()
  | some proxy =>
    if proxy.scheme = some "http" ∨ proxy.scheme = some "socks5" then .error .proxyNotBuiltIn
    else .error .proxyUnknown

/-- Whether a client can be built: it needs no proxy, can be recognised, has usable certificates,
and can name whom it acts as. -/
def check (now : Timestamp) (t : Target) : Except ApiError Unit := do
  t.checkProxy
  t.credentials.checkProof now
  if !t.certificates.all Certificate.isCertificate || !t.credentials.isIdentityUsable ||
      !t.serverName.all isHost then
    .error .unusableCertificates
  if t.credentials.isImpersonationSpeakable then .ok () else .error .unspeakable

end Target

end WorkspaceAccess
