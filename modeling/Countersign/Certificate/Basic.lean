import Countersign.Certificate.Name
import Countersign.Key.Info
import Countersign.Time.Calendar

/-!
# Certificates

The structure of X.509 certificates.  A certificate is taken apart and its parts are checked one by
one; signatures and the meaning of extensions are left to others.
-/

namespace Countersign

open Der

/-- The certificate that a byte string encodes, as far as it is used. -/
structure Certificate where
  /-- The content of the serial number. -/
  serialNumber : Bytes
  /-- The name of the issuer. -/
  issuer : DistinguishedName
  /-- The name of the owner. -/
  subject : DistinguishedName
  /-- The owner's public key. -/
  publicKey : Spki
  deriving DecidableEq, Repr

namespace Certificate

/-- The number that two ASCII digits spell. -/
def twoDigits? (tens ones : UInt8) : Option Nat :=
  if 0x30 ≤ tens ∧ tens ≤ 0x39 ∧ 0x30 ≤ ones ∧ ones ≤ 0x39 then
    some ((tens.toNat - 0x30) * 10 + (ones.toNat - 0x30))
  else none

/-- The numbers that pairs of ASCII digits before a closing `Z` spell. -/
def digitPairs? : Bytes → Option (List Nat)
  | [0x5A] => some []
  | tens :: ones :: rest => do
    let first ← twoDigits? tens ones
    let more ← digitPairs? rest
    return first :: more
  | _ => none

/-- The year before which certificates have no valid times. -/
def firstYear : Nat := 1970

/-- Whether a date and a time of day exist and are not too early. -/
def isTime (year month day hour minute second : Nat) : Bool :=
  firstYear ≤ year && (Calendar.Date.mk year month day).isValid && hour < 24 && minute < 60 &&
    second < 60

/-- Whether an element holds a time, with two or with four digits for the year. -/
def isTimeElement (element : Element) : Bool :=
  match digitPairs? element.content with
  | some [year, month, day, hour, minute, second] =>
    element.tag = Tag.utcTime &&
      isTime (if year < 50 then 2000 + year else 1900 + year) month day hour minute second
  | some [century, year, month, day, hour, minute, second] =>
    element.tag = Tag.generalizedTime && isTime (100 * century + year) month day hour minute second
  | _ => false

/-- Reads a time. -/
def timeReader : Reader Unit := do
  let element ← Reader.element
  if isTimeElement element then return () else failure

/-- Reads the two ends of the validity of a certificate. -/
def validityReader : Reader Unit :=
  Reader.inside Tag.sequence do
    timeReader
    timeReader

/-- The greatest number of bytes of a serial number. -/
def maxSerialBytes : Nat := 21

/-- The serial number with a given content. -/
def serial? (content : Bytes) : Option Bytes :=
  if isMinimalInteger content ∧ content.length ≤ maxSerialBytes then some content else none

/-- Reads what the context numbers `number`, passing over anything with a smaller number; nothing
when something else comes first.  `fuel` bounds the number of elements passed over. -/
def contextReader {α : Type} (number : Nat) (reader : Reader α) : (fuel : Nat) → Reader (Option α)
  | 0 => return none
  | fuel + 1 => do
    match ← Reader.peek with
    | none => return none
    | some tag =>
      if !Tag.isKnown tag then failure
      else
        match Tag.contextNumber? tag with
        | none => return none
        | some found =>
          if number < found then return none
          else if found = number then return some (← reader)
          else do
            let _ ← Reader.element
            contextReader number reader fuel

/-- How many elements may be passed over: more than any certificate holds. -/
def contextReaderLimit : Reader Nat := fun bytes => some (bytes.length + 1, bytes)

/-- Reads an optional part that the context numbers. -/
def optionalPart {α : Type} (number : Nat) (reader : Reader α) : Reader (Option α) := do
  let limit ← contextReaderLimit
  contextReader number reader limit

/-- The version number with a given content. -/
def version? : Bytes → Option Nat
  | [0] => some 0
  | [1] => some 1
  | [2] => some 2
  | _ => none

/-- Reads the version. -/
def versionReader : Reader (Option Nat) :=
  optionalPart 0 (Reader.inside (Tag.context true 0) (Reader.value Tag.integer version?))

/-- Reads a unique identifier. -/
def uniqueIdReader (number : Nat) : Reader (Option BitString) :=
  optionalPart number (Reader.value (Tag.context false number) BitString.ofContent?)

/-- The truth value with a given content. -/
def boolean? : Bytes → Option Bool
  | [0x00] => some false
  | [0xFF] => some true
  | _ => none

/-- Reads an extension. -/
def extensionReader : Reader Unit :=
  Reader.inside Tag.sequence do
    let _ ← Oid.reader
    match ← Reader.peek with
    | some tag =>
      if tag = Tag.boolean then
        let _ ← Reader.value Tag.boolean boolean?
      let _ ← Reader.tagged Tag.octetString
      return ()
    | none => failure

/-- Reads the extensions. -/
def extensionsReader : Reader (Option (List Unit)) :=
  optionalPart 3 (Reader.inside (Tag.context true 3)
    (Reader.listInside Tag.sequence extensionReader))

/-- Reads the signed part of a certificate. -/
def signedPartReader : Reader Certificate :=
  Reader.inside Tag.sequence do
    let _ ← versionReader
    let serialNumber ← Reader.value Tag.integer serial?
    let _ ← AlgorithmIdentifier.reader
    let issuer ← DistinguishedName.reader
    validityReader
    let subject ← DistinguishedName.reader
    let publicKey ← Spki.reader
    let _ ← uniqueIdReader 1
    let _ ← uniqueIdReader 2
    let _ ← extensionsReader
    return ⟨serialNumber, issuer, subject, publicKey⟩

/-- Reads a certificate. -/
def reader : Reader Certificate :=
  Reader.inside Tag.sequence do
    let certificate ← signedPartReader
    let _ ← AlgorithmIdentifier.reader
    let _ ← BitString.reader
    return certificate

/-- The certificate that a byte string encodes. -/
def ofDer (der : Bytes) : Except KeyError Certificate :=
  match Reader.encoding reader der with
  | some certificate => .ok certificate
  | none => .error .malformedCertificate

/-- The encoding of the owner's public key. -/
def publicKeyDer (certificate : Certificate) : Bytes :=
  certificate.publicKey.encode

/-- The name of the owner as text. -/
def subjectText (certificate : Certificate) : String :=
  certificate.subject.toText

end Certificate
end Countersign
