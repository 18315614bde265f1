import Countersign.Certificate.ShortName
import Countersign.Der.Primitive
import Countersign.Text.Hex
import Countersign.Text.Utf8

/-!
# Distinguished names

The names in certificates: a sequence of sets of attributes.  A set is kept in the order of the
encodings of its attributes and holds none twice, so equal names are identical.  Names are shown
from the most specific part to the least, with short attribute names where the value is plain
text.
-/

namespace Countersign

open Der

/-- One attribute of a name. -/
structure NameAttribute where
  /-- The type of the attribute. -/
  oid : Oid
  /-- The value. -/
  value : Element
  deriving DecidableEq, Repr

namespace NameAttribute

/-- Reads an attribute. -/
def reader : Reader NameAttribute :=
  Reader.inside Tag.sequence do
    let oid ← Oid.reader
    let value ← Reader.element
    return ⟨oid, value⟩

/-- The encoding of an attribute. -/
def encode (entry : NameAttribute) : Bytes :=
  Element.encode ⟨Tag.sequence, entry.oid.encode ++ entry.value.encode⟩

/-- Compares two byte strings by their first difference. -/
def bytesBefore : Bytes → Bytes → Bool
  | _, [] => false
  | [], _ :: _ => true
  | a :: left, b :: right => if a = b then bytesBefore left right else a < b

/-- Puts an attribute into a list sorted by encoding; nothing if it is there already. -/
def insert? (entry : NameAttribute) : List NameAttribute → Option (List NameAttribute)
  | [] => some [entry]
  | first :: rest =>
    if entry = first then none
    else if bytesBefore entry.encode first.encode then some (entry :: first :: rest)
    else (insert? entry rest).map (first :: ·)

/-- Sorts attributes by encoding; nothing if one occurs twice. -/
def sort? (entries : List NameAttribute) : Option (List NameAttribute) :=
  entries.foldlM (fun sorted entry => insert? entry sorted) []

/-- Whether a byte is in the alphabet of printable strings. -/
def isPrintable (byte : UInt8) : Bool :=
  (0x30 ≤ byte && byte ≤ 0x39) || (0x41 ≤ byte && byte ≤ 0x5A) || (0x61 ≤ byte && byte ≤ 0x7A) ||
    [0x20, 0x27, 0x28, 0x29, 0x2B, 0x2C, 0x2D, 0x2E, 0x2F, 0x3A, 0x3D, 0x3F].contains byte

/-- The text of a value of a string type that holds valid text. -/
def text? (value : Element) : Option String :=
  if value.tag = Tag.utf8String then Utf8.decode? value.content
  else if value.tag = Tag.printableString then
    if value.content.all isPrintable then Utf8.decode? value.content else none
  else if value.tag = Tag.ia5String ∨ value.tag = Tag.teletexString then
    if value.content.all (· < 0x80) then Utf8.decode? value.content else none
  else none

/-- One character of a shown value; `first` and `last` tell where it stands. -/
def showCharacter (first last : Bool) (character : Char) : List Char :=
  if character = '#' ∧ first then ['\\', '#']
  else if character = ' ' ∧ (first ∨ last) then ['\\', ' ']
  else if ['"', '+', ',', ';', '<', '>', '\\'].contains character then ['\\', character]
  else if character.toNat < 0x20 ∨ character.toNat = 0x7F then
    '\\' :: Hex.pair (UInt8.ofNat character.toNat)
  else [character]

/-- The characters of a shown value after its beginning. -/
def showRest (first : Bool) : List Char → List Char
  | [] => []
  | character :: rest => showCharacter first rest.isEmpty character ++ showRest false rest

/-- An attribute as text: its short name and escaped text, or its identifier and encoding. -/
def toText (entry : NameAttribute) : String :=
  match ShortName.find? entry.oid, text? entry.value with
  | some name, some text => name ++ "=" ++ String.ofList (showRest true text.toList)
  | _, _ => entry.oid.dotted ++ "=#" ++ Hex.encode entry.value.encode

end NameAttribute

/-- A distinguished name: sets of attributes, the least specific first. -/
structure DistinguishedName where
  /-- The sets, each sorted. -/
  sets : List (List NameAttribute)
  deriving DecidableEq, Repr

namespace DistinguishedName

/-- Reads a set of attributes. -/
def setReader : Reader (List NameAttribute) := do
  let entries ← Reader.listInside Tag.set NameAttribute.reader
  StateT.lift (NameAttribute.sort? entries)

/-- Reads a name. -/
def reader : Reader DistinguishedName := do
  let sets ← Reader.listInside Tag.sequence setReader
  return ⟨sets⟩

/-- A name as text, the most specific part first. -/
def toText (name : DistinguishedName) : String :=
  ",".intercalate (name.sets.reverse.map fun entries =>
    "+".intercalate (entries.map NameAttribute.toText))

end DistinguishedName
end Countersign
