import Countersign.Text.Base64

/-!
# Public keys as text

A public key in PEM form: its base64 text in lines of sixty-four characters between two marks, every
line closed by a carriage return and a line feed.
-/

namespace Countersign
namespace Pem

/-- The end of a line. -/
def lineEnd : List Char := ['\r', '\n']

/-- Cuts characters into lines of sixty-four; `fuel` bounds their number. -/
def lines : (fuel : Nat) → List Char → List (List Char)
  | 0, _ => []
  | fuel + 1, characters =>
    if characters.isEmpty then [] else characters.take 64 :: lines fuel (characters.drop 64)

/-- The text of a public key given by its encoding. -/
def publicKey (der : Bytes) : String :=
  let body := Base64.encodeChars der
  String.ofList ("-----BEGIN PUBLIC KEY-----".toList ++ lineEnd ++
    (lines body.length body).flatMap (· ++ lineEnd) ++
    "-----END PUBLIC KEY-----".toList ++ lineEnd)

end Pem
end Countersign
