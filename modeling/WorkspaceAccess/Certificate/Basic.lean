/-!
# Certificates and Keys

Certificates and keys are nested elements, each a tag, a length and as many bytes. Only their
outline is looked at here: which elements there have to be and in which order. Nobody verifies a
signature with them; what matters is whether a client can be built from the credentials that a
secret holds, and this fails at the outline, long before a server is asked.

An element is read from the front of some bytes, and the elements that some bytes are, from their
beginning to their end. The reading is bounded by the number of bytes, which no sequence of elements
exceeds, since every element has a tag. Lengths are those of at most two bytes, written without
spare ones: there is one way to write each.

The patterns in `isStatement` and `isCertificate` follow the order in which a certificate lists its
parts. `WorkspaceAccess.Remote.Credentials` applies them to the sections that
`WorkspaceAccess.Certificate.Pem` finds in the texts of a kubeconfig.
-/

namespace WorkspaceAccess.Certificate

/-- An element: a tag that says how its bytes are to be read, and these bytes. -/
structure Element where
  /-- The byte that says what the element is. -/
  tag : UInt8
  /-- The bytes that the element consists of. -/
  content : List UInt8
  deriving DecidableEq

/-- A length and the bytes after it. A length below 128 is one byte; else a byte says of how many
bytes it is, one or two, and none of them may be spared. -/
def length? : List UInt8 → Option (Nat × List UInt8)
  | 0x81 :: a :: rest => if 0x80 ≤ a then some (a.toNat, rest) else none
  | 0x82 :: a :: b :: rest => if a = 0 then none else some (a.toNat * 256 + b.toNat, rest)
  | a :: rest => if a < 0x80 then some (a.toNat, rest) else none
  | [] => none

/-- The element in front of some bytes, and the bytes after it. -/
def element? : List UInt8 → Option (Element × List UInt8)
  | [] => none
  | tag :: rest => do
    let (length, rest) ← length? rest
    if length ≤ rest.length then some (⟨tag, rest.take length⟩, rest.drop length) else none

/-- The elements that some bytes are, read with a bound on their number. -/
def elementsFrom? : Nat → List UInt8 → Option (List Element)
  | _, [] => some []
  | 0, _ => none
  | fuel + 1, bytes => do
    let (e, rest) ← element? bytes
    return e :: (← elementsFrom? fuel rest)

/-- The elements that some bytes are, if they are a sequence of elements with nothing left over. The
bound is never what ends the reading. -/
def elements? (bytes : List UInt8) : Option (List Element) := elementsFrom? bytes.length bytes

/-- The elements inside the one that some bytes are, which has to be a sequence. -/
def inside? (bytes : List UInt8) : Option (List Element) :=
  match elements? bytes with
  | some [⟨0x30, content⟩] => elements? content
  | _ => none

/-- What a certificate says, which its issuer signs: a version or none, a serial number, how it is
signed, its issuer, how long it is valid, its subject and the key. -/
def isStatement (signing : List UInt8) (content : List UInt8) : Bool :=
  match elements? content with
  | some (⟨0xA0, [0x02, 0x01, 0x02]⟩ :: ⟨0x02, _ :: _⟩ :: ⟨0x30, s⟩ :: ⟨0x30, _⟩ :: ⟨0x30, _⟩ ::
      ⟨0x30, _⟩ :: ⟨0x30, _⟩ :: _) => s == signing
  | some [⟨0x02, _ :: _⟩, ⟨0x30, s⟩, ⟨0x30, _⟩, ⟨0x30, _⟩, ⟨0x30, _⟩, ⟨0x30, _⟩] => s == signing
  | _ => false

/-- The bytes have the outline of a certificate: what it says, how it is signed, and the
signature. -/
def isCertificate (bytes : List UInt8) : Bool :=
  match inside? bytes with
  | some [⟨0x30, statement⟩, ⟨0x30, signing⟩, ⟨0x03, 0 :: _⟩] => isStatement signing statement
  | _ => false

/-- The bytes have the outline of a private key: a sequence that begins with a number and does not
end there. -/
def isKey (bytes : List UInt8) : Bool :=
  match inside? bytes with
  | some (⟨0x02, _ :: _⟩ :: _ :: _) => true
  | _ => false

end WorkspaceAccess.Certificate
