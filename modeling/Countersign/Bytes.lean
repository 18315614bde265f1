/-!
# Byte strings

Keys, signatures, certificates and hashed data are all finite byte strings, kept as lists so that
their readers and writers recurse on the data.  Text enters the byte world through UTF-8.
-/

namespace Countersign

/-- A finite byte string. -/
abbrev Bytes := List UInt8

namespace Bytes

/-- The UTF-8 encoding of a list of characters. -/
def ofChars (characters : List Char) : Bytes :=
  characters.flatMap String.utf8EncodeChar

/-- The UTF-8 encoding of a text. -/
def ofText (text : String) : Bytes :=
  ofChars text.toList

/-- The natural number whose big-endian digits to the base 256 are the bytes. -/
def toNatBE (bytes : Bytes) : Nat :=
  bytes.foldl (fun value byte => value * 256 + byte.toNat) 0

/-- The natural number whose little-endian digits to the base 256 are the bytes. -/
def toNatLE (bytes : Bytes) : Nat :=
  toNatBE bytes.reverse

/-- The lowest `width` digits of a number to the base 256, least significant first. -/
def ofNatLE : (width : Nat) → Nat → Bytes
  | 0, _ => []
  | width + 1, value => UInt8.ofNat (value % 256) :: ofNatLE width (value / 256)

/-- The lowest `width` digits of a number to the base 256, most significant first. -/
def ofNatBE (width value : Nat) : Bytes :=
  (ofNatLE width value).reverse

/-- The base-256 digits of a number without leading zeros, most significant first. -/
def digitsBE (value : Nat) : Bytes :=
  ofNatBE ((value.log2 + 8) / 8) value

@[simp]
theorem ofChars_nil : ofChars [] = [] := rfl

@[simp]
theorem ofChars_append (front back : List Char) :
    ofChars (front ++ back) = ofChars front ++ ofChars back := by
  simp [ofChars]

@[simp]
theorem length_ofNatLE (width value : Nat) : (ofNatLE width value).length = width := by
  induction width generalizing value with
  | zero => rfl
  | succ width ih => simp [ofNatLE, ih]

end Bytes
end Countersign
