import Mathlib.Data.List.Basic
import Countersign.Json.Reader
import Countersign.Text.Utf8

/-!
# Encoded text is read back

Each character is cut out of its encoding as it was: the first byte tells how many bytes follow, and
the bounds on the second byte admit everything that is encoded.  They admit nothing else, so bytes
that are cut into characters throughout are the encoding of these characters.
-/

namespace Countersign
namespace Utf8

variable {byte : UInt8}

theorem start_ascii (below : byte.toNat < 0x80) :
    start byte = ([some (Char.ofNat byte.toNat)], none) := by
  have ascii : byte < 0x80 := UInt8.lt_iff_toNat_lt.mpr below
  rw [start, if_pos ascii]

private theorem start_of_opening {pending : Pending} (above : 0x80 ≤ byte.toNat)
    (opened : opening? byte = some pending) : start byte = ([], some pending) := by
  have not_ascii : ¬byte < 0x80 := fun less => by
    have := UInt8.lt_iff_toNat_lt.mp less
    simp at this
    omega
  rw [start, if_neg not_ascii, opened]

theorem start_two (above : 0xC2 ≤ byte.toNat) (below : byte.toNat < 0xE0) :
    start byte = ([], some ⟨0, 0x80, 0xBF, byte.toNat - 0xC0⟩) := by
  refine start_of_opening (by omega) ?_
  simp [opening?, UInt8.lt_iff_toNat_lt, Nat.not_lt.mpr above, below]

theorem start_three (above : 0xE0 ≤ byte.toNat) (below : byte.toNat < 0xF0) :
    start byte = ([], some ⟨1, if byte = 0xE0 then 0xA0 else 0x80,
      if byte = 0xED then 0x9F else 0xBF, byte.toNat - 0xE0⟩) := by
  refine start_of_opening (by omega) ?_
  have not_less : ¬byte.toNat < 0xC2 := by omega
  simp [opening?, UInt8.lt_iff_toNat_lt, not_less, Nat.not_lt.mpr above, below]

theorem start_four (above : 0xF0 ≤ byte.toNat) (below : byte.toNat < 0xF5) :
    start byte = ([], some ⟨2, if byte = 0xF0 then 0x90 else 0x80,
      if byte = 0xF4 then 0x8F else 0xBF, byte.toNat - 0xF0⟩) := by
  refine start_of_opening (by omega) ?_
  have not_two : ¬byte.toNat < 0xC2 := by omega
  have not_three : ¬byte.toNat < 0xE0 := by omega
  simp [opening?, UInt8.lt_iff_toNat_lt, not_two, not_three, Nat.not_lt.mpr above, below]

theorem step_last {low high : UInt8} {scalar : Nat} (continues : low ≤ byte ∧ byte ≤ high) :
    step (some ⟨0, low, high, scalar⟩) byte =
      ([some (Char.ofNat (scalar * 64 + (byte.toNat - 0x80)))], none) := by
  simp only [step, if_pos continues]

theorem step_more {remaining : Nat} {low high : UInt8} {scalar : Nat}
    (continues : low ≤ byte ∧ byte ≤ high) :
    step (some ⟨remaining + 1, low, high, scalar⟩) byte =
      ([], some ⟨remaining, 0x80, 0xBF, scalar * 64 + (byte.toNat - 0x80)⟩) := by
  simp only [step, if_pos continues]

theorem scanFrom_cons (state : Option Pending) (byte : UInt8) (rest : Bytes) :
    scanFrom state (byte :: rest) = (step state byte).1 ++ scanFrom (step state byte).2 rest := by
  cases state <;> rfl

section Sequences

variable {first second third fourth : UInt8}

/-- A byte that continues a character. -/
def IsContinuation (byte : UInt8) : Prop :=
  0x80 ≤ byte ∧ byte ≤ 0xBF

theorem IsContinuation.bounds {byte : UInt8} (continued : IsContinuation byte) :
    0x80 ≤ byte.toNat ∧ byte.toNat ≤ 0xBF :=
  ⟨UInt8.le_iff_toNat_le.mp continued.1, UInt8.le_iff_toNat_le.mp continued.2⟩

/-- After the first bytes that call for it, the bounds on the second byte are narrower than those of
a continuation. -/
theorem within_iff {byte low high : UInt8} {shortest longest : Prop} [Decidable shortest]
    [Decidable longest] (low_above : 0x80 ≤ low) (high_below : high ≤ 0xBF) :
    ((if shortest then low else 0x80) ≤ byte ∧ byte ≤ if longest then high else 0xBF) ↔
      IsContinuation byte ∧ (shortest → low ≤ byte) ∧ (longest → byte ≤ high) := by
  have above_iff : (if shortest then low else 0x80) ≤ byte ↔
      0x80 ≤ byte ∧ (shortest → low ≤ byte) := by
    split
    case isTrue least =>
      exact ⟨fun above => ⟨UInt8.le_trans low_above above, fun _ => above⟩, fun h => h.2 least⟩
    case isFalse other => exact ⟨fun above => ⟨above, (absurd · other)⟩, And.left⟩
  have below_iff : (byte ≤ if longest then high else 0xBF) ↔
      byte ≤ 0xBF ∧ (longest → byte ≤ high) := by
    split
    case isTrue greatest =>
      exact ⟨fun below => ⟨UInt8.le_trans below high_below, fun _ => below⟩, fun h => h.2 greatest⟩
    case isFalse other => exact ⟨fun below => ⟨below, (absurd · other)⟩, And.left⟩
  rw [above_iff, below_iff, and_and_and_comm]
  rfl

theorem scanFrom_one (below : first.toNat < 0x80) (rest : Bytes) :
    scanFrom none (first :: rest) = some (Char.ofNat first.toNat) :: scanFrom none rest := by
  rw [scanFrom_cons, step, start_ascii below]
  rfl

theorem scanFrom_two (above : 0xC2 ≤ first.toNat) (below : first.toNat < 0xE0)
    (continued : IsContinuation second) (rest : Bytes) :
    scanFrom none (first :: second :: rest) =
      some (Char.ofNat ((first.toNat - 0xC0) * 64 + (second.toNat - 0x80))) ::
        scanFrom none rest := by
  rw [scanFrom_cons, step, start_two above below, scanFrom_cons, step_last continued]
  rfl

theorem scanFrom_three (above : 0xE0 ≤ first.toNat) (below : first.toNat < 0xF0)
    (second_continues : IsContinuation second) (not_short : first = 0xE0 → 0xA0 ≤ second)
    (not_surrogate : first = 0xED → second ≤ 0x9F) (third_continues : IsContinuation third)
    (rest : Bytes) :
    scanFrom none (first :: second :: third :: rest) =
      some (Char.ofNat (((first.toNat - 0xE0) * 64 + (second.toNat - 0x80)) * 64 +
        (third.toNat - 0x80))) :: scanFrom none rest := by
  have bounded : (if first = 0xE0 then 0xA0 else 0x80) ≤ second ∧
      second ≤ if first = 0xED then 0x9F else 0xBF :=
    (within_iff (by decide) (by decide)).mpr ⟨second_continues, not_short, not_surrogate⟩
  rw [scanFrom_cons, step, start_three above below, scanFrom_cons, step_more bounded,
    scanFrom_cons, step_last third_continues]
  rfl

theorem scanFrom_four (above : 0xF0 ≤ first.toNat) (below : first.toNat < 0xF5)
    (second_continues : IsContinuation second) (not_short : first = 0xF0 → 0x90 ≤ second)
    (not_long : first = 0xF4 → second ≤ 0x8F) (third_continues : IsContinuation third)
    (fourth_continues : IsContinuation fourth) (rest : Bytes) :
    scanFrom none (first :: second :: third :: fourth :: rest) =
      some (Char.ofNat ((((first.toNat - 0xF0) * 64 + (second.toNat - 0x80)) * 64 +
        (third.toNat - 0x80)) * 64 + (fourth.toNat - 0x80))) :: scanFrom none rest := by
  have bounded : (if first = 0xF0 then 0x90 else 0x80) ≤ second ∧
      second ≤ if first = 0xF4 then 0x8F else 0xBF :=
    (within_iff (by decide) (by decide)).mpr ⟨second_continues, not_short, not_long⟩
  rw [scanFrom_cons, step, start_four above below, scanFrom_cons, step_more bounded,
    scanFrom_cons, step_more third_continues, scanFrom_cons, step_last fourth_continues]
  rfl

end Sequences

private theorem toNat_byte {value : Nat} (below : value < 256) :
    (UInt8.ofNat value).toNat = value := by
  rw [UInt8.toNat_ofNat']
  exact Nat.mod_eq_of_lt below

/-- The byte that holds six bits of a character after the first byte. -/
private def follower (bits : Nat) : UInt8 :=
  UInt8.ofNat (bits % 64 + 128)

private theorem toNat_follower (bits : Nat) : (follower bits).toNat = bits % 64 + 128 :=
  toNat_byte (by omega)

private theorem le_follower {bound : UInt8} {bits : Nat} (le : bound.toNat ≤ bits % 64 + 128) :
    bound ≤ follower bits := by
  rw [UInt8.le_iff_toNat_le, toNat_follower]
  exact le

private theorem follower_le {bound : UInt8} {bits : Nat} (le : bits % 64 + 128 ≤ bound.toNat) :
    follower bits ≤ bound := by
  rw [UInt8.le_iff_toNat_le, toNat_follower]
  exact le

private theorem isContinuation_follower (bits : Nat) : IsContinuation (follower bits) :=
  ⟨le_follower (Nat.le_add_left 128 _),
    follower_le (Nat.add_le_add_right (Nat.le_of_lt_succ (Nat.mod_lt _ (by decide))) 128)⟩

private theorem scanFrom_encoded_two {value : Nat} (above : 127 < value) (below : value ≤ 2047)
    (rest : Bytes) :
    scanFrom none (UInt8.ofNat (value / 64 % 32 + 192) :: follower value :: rest) =
      some (Char.ofNat value) :: scanFrom none rest := by
  have first_eq : (UInt8.ofNat (value / 64 % 32 + 192)).toNat = value / 64 % 32 + 192 :=
    toNat_byte (by omega)
  have scalar_eq : (value / 64 % 32 + 192 - 0xC0) * 64 + (value % 64 + 128 - 0x80) = value := by
    omega
  rw [scanFrom_two (by omega) (by omega) (isContinuation_follower value), first_eq,
    toNat_follower, scalar_eq]

private theorem scanFrom_encoded_three {value : Nat} (above : 2047 < value)
    (below : value ≤ 65535) (valid : value.isValidChar) (rest : Bytes) :
    scanFrom none (UInt8.ofNat (value / 4096 % 16 + 224) :: follower (value / 64) ::
      follower value :: rest) = some (Char.ofNat value) :: scanFrom none rest := by
  have first_eq : (UInt8.ofNat (value / 4096 % 16 + 224)).toNat = value / 4096 % 16 + 224 :=
    toNat_byte (by omega)
  have not_short (least : UInt8.ofNat (value / 4096 % 16 + 224) = 0xE0) :
      0xA0 ≤ follower (value / 64) := by
    have least_eq : _ = 224 := first_eq.symm.trans (congrArg UInt8.toNat least)
    exact le_follower (show 160 ≤ _ by omega)
  have not_surrogate (greatest : UInt8.ofNat (value / 4096 % 16 + 224) = 0xED) :
      follower (value / 64) ≤ 0x9F := by
    have greatest_eq : _ = 237 := first_eq.symm.trans (congrArg UInt8.toNat greatest)
    rw [Nat.isValidChar] at valid
    exact follower_le (show _ ≤ 159 by omega)
  have scalar_eq : ((value / 4096 % 16 + 224 - 0xE0) * 64 + (value / 64 % 64 + 128 - 0x80)) * 64 +
      (value % 64 + 128 - 0x80) = value := by
    omega
  rw [scanFrom_three (by omega) (by omega) (isContinuation_follower _) not_short not_surrogate
    (isContinuation_follower _), first_eq, toNat_follower, toNat_follower, scalar_eq]

private theorem scanFrom_encoded_four {value : Nat} (above : 65535 < value)
    (valid : value.isValidChar) (rest : Bytes) :
    scanFrom none (UInt8.ofNat (value / 262144 % 8 + 240) :: follower (value / 4096) ::
      follower (value / 64) :: follower value :: rest) =
      some (Char.ofNat value) :: scanFrom none rest := by
  have bounded : value < 0x110000 := by
    rw [Nat.isValidChar] at valid
    omega
  have first_eq : (UInt8.ofNat (value / 262144 % 8 + 240)).toNat = value / 262144 % 8 + 240 :=
    toNat_byte (by omega)
  have not_short (least : UInt8.ofNat (value / 262144 % 8 + 240) = 0xF0) :
      0x90 ≤ follower (value / 4096) := by
    have least_eq : _ = 240 := first_eq.symm.trans (congrArg UInt8.toNat least)
    exact le_follower (show 144 ≤ _ by omega)
  have not_long (greatest : UInt8.ofNat (value / 262144 % 8 + 240) = 0xF4) :
      follower (value / 4096) ≤ 0x8F := by
    have greatest_eq : _ = 244 := first_eq.symm.trans (congrArg UInt8.toNat greatest)
    exact follower_le (show _ ≤ 143 by omega)
  have scalar_eq : (((value / 262144 % 8 + 240 - 0xF0) * 64 + (value / 4096 % 64 + 128 - 0x80)) *
      64 + (value / 64 % 64 + 128 - 0x80)) * 64 + (value % 64 + 128 - 0x80) = value := by
    omega
  rw [scanFrom_four (by omega) (by omega) (isContinuation_follower _) not_short not_long
    (isContinuation_follower _) (isContinuation_follower _), first_eq, toNat_follower,
    toNat_follower, toNat_follower, scalar_eq]

/-- A character is cut out of its encoding. -/
theorem scanFrom_utf8EncodeChar (character : Char) (rest : Bytes) :
    scanFrom none (String.utf8EncodeChar character ++ rest) =
      some character :: scanFrom none rest := by
  have valid : character.val.toNat.isValidChar := character.valid
  rw [String.utf8EncodeChar]
  generalize spelled : character.val.toNat = value at valid
  have same : Char.ofNat value = character := spelled ▸ Char.ofNat_toNat character
  rw [← same]
  split
  case isTrue one =>
    have byte_eq : (UInt8.ofNat value).toNat = value := toNat_byte (by omega)
    rw [List.singleton_append, scanFrom_one (by omega), byte_eq]
  case isFalse wide =>
    split
    case isTrue two => exact scanFrom_encoded_two (by omega) two rest
    case isFalse wider =>
      split
      case isTrue three => exact scanFrom_encoded_three (by omega) three valid rest
      case isFalse widest => exact scanFrom_encoded_four (by omega) valid rest

theorem scan_ofChars (characters : List Char) :
    scan (Bytes.ofChars characters) = characters.map some := by
  rw [scan]
  induction characters with
  | nil => rfl
  | cons first rest ih =>
    rw [Bytes.ofChars, List.flatMap_cons, scanFrom_utf8EncodeChar]
    exact congrArg (some first :: ·) ih

/-- The bytes of a text are cut into its characters. -/
theorem scan_ofText (text : String) : scan (Bytes.ofText text) = text.toList.map some :=
  scan_ofChars text.toList

theorem decodeLossy_ofText (text : String) : decodeLossy (Bytes.ofText text) = text := by
  rw [decodeLossy, scan_ofText, List.map_map]
  simp [Function.comp_def]

section Encodings

variable {first second third fourth : UInt8}

private theorem val_ofNat {value : Nat} (valid : value.isValidChar) :
    (Char.ofNat value).val.toNat = value := by
  rw [Char.ofNat, dif_pos valid]
  rfl

private theorem ofNat_eq (byte : UInt8) {value : Nat} (same : byte.toNat = value) :
    UInt8.ofNat value = byte := by
  rw [← same, UInt8.ofNat_toNat]

theorem utf8EncodeChar_one {first : UInt8} (below : first.toNat < 0x80) :
    String.utf8EncodeChar (Char.ofNat first.toNat) = [first] := by
  have value_eq : (Char.ofNat first.toNat).val.toNat = first.toNat :=
    val_ofNat (by rw [Nat.isValidChar]; omega)
  rw [String.utf8EncodeChar, value_eq, if_pos (by omega), UInt8.ofNat_toNat]

theorem utf8EncodeChar_two (above : 0xC2 ≤ first.toNat) (below : first.toNat < 0xE0)
    (continued : IsContinuation second) :
    String.utf8EncodeChar
      (Char.ofNat ((first.toNat - 0xC0) * 64 + (second.toNat - 0x80))) = [first, second] := by
  have bounds := continued.bounds
  rw [String.utf8EncodeChar, val_ofNat (by rw [Nat.isValidChar]; omega), if_neg (by omega),
    if_pos (by omega), ofNat_eq first (by omega), ofNat_eq second (by omega)]

theorem utf8EncodeChar_three (above : 0xE0 ≤ first.toNat) (below : first.toNat < 0xF0)
    (second_continues : IsContinuation second) (not_short : first = 0xE0 → 0xA0 ≤ second)
    (not_surrogate : first = 0xED → second ≤ 0x9F) (third_continues : IsContinuation third) :
    String.utf8EncodeChar (Char.ofNat (((first.toNat - 0xE0) * 64 + (second.toNat - 0x80)) * 64 +
      (third.toNat - 0x80))) = [first, second, third] := by
  have second_bounds := second_continues.bounds
  have third_bounds := third_continues.bounds
  simp only [← UInt8.toNat_inj, UInt8.le_iff_toNat_le] at not_short not_surrogate
  change first.toNat = 224 → 160 ≤ _ at not_short
  change first.toNat = 237 → _ ≤ 159 at not_surrogate
  rw [String.utf8EncodeChar, val_ofNat (by rw [Nat.isValidChar]; omega), if_neg (by omega),
    if_neg (by omega), if_pos (by omega), ofNat_eq first (by omega),
    ofNat_eq second (by omega), ofNat_eq third (by omega)]

theorem utf8EncodeChar_four (above : 0xF0 ≤ first.toNat) (below : first.toNat < 0xF5)
    (second_continues : IsContinuation second) (not_short : first = 0xF0 → 0x90 ≤ second)
    (not_long : first = 0xF4 → second ≤ 0x8F) (third_continues : IsContinuation third)
    (fourth_continues : IsContinuation fourth) :
    String.utf8EncodeChar (Char.ofNat ((((first.toNat - 0xF0) * 64 + (second.toNat - 0x80)) * 64 +
      (third.toNat - 0x80)) * 64 + (fourth.toNat - 0x80))) = [first, second, third, fourth] := by
  have second_bounds := second_continues.bounds
  have third_bounds := third_continues.bounds
  have fourth_bounds := fourth_continues.bounds
  simp only [← UInt8.toNat_inj, UInt8.le_iff_toNat_le] at not_short not_long
  change first.toNat = 240 → 144 ≤ _ at not_short
  change first.toNat = 244 → _ ≤ 143 at not_long
  rw [String.utf8EncodeChar, val_ofNat (by rw [Nat.isValidChar]; omega), if_neg (by omega),
    if_neg (by omega), if_neg (by omega), ofNat_eq first (by omega),
    ofNat_eq second (by omega), ofNat_eq third (by omega),
    ofNat_eq fourth (by omega)]

end Encodings

section Scanned

variable {first : UInt8} {bytes : Bytes} {characters : List Char} {low high : UInt8} {scalar : Nat}

private theorem step_broken {pending : Pending} {byte : UInt8}
    (ends : ¬(pending.low ≤ byte ∧ byte ≤ pending.high)) :
    step (some pending) byte = (none :: (start byte).1, (start byte).2) := by
  simp only [step, if_neg ends]

/-- A character that lacks bytes is no character. -/
private theorem exists_cons_of_scanFrom {pending : Pending}
    (scanned : scanFrom (some pending) bytes = characters.map some) :
    ∃ byte rest, bytes = byte :: rest ∧ pending.low ≤ byte ∧ byte ≤ pending.high ∧
      (step (some pending) byte).1 ++ scanFrom (step (some pending) byte).2 rest =
        characters.map some := by
  cases bytes with
  | nil => cases characters <;> cases scanned
  | cons byte rest =>
    rw [scanFrom_cons] at scanned
    by_cases continues : pending.low ≤ byte ∧ byte ≤ pending.high
    · exact ⟨byte, rest, rfl, continues.1, continues.2, scanned⟩
    · rw [step_broken continues] at scanned
      cases characters <;> cases scanned

theorem last_of_scanFrom
    (scanned : scanFrom (some ⟨0, low, high, scalar⟩) bytes = characters.map some) :
    ∃ byte rest tail, bytes = byte :: rest ∧ low ≤ byte ∧ byte ≤ high ∧
      characters = Char.ofNat (scalar * 64 + (byte.toNat - 0x80)) :: tail ∧
      scanFrom none rest = tail.map some := by
  obtain ⟨byte, rest, rfl, above, below, scanned⟩ := exists_cons_of_scanFrom scanned
  rw [step_last ⟨above, below⟩] at scanned
  cases characters with
  | nil => cases scanned
  | cons first tail =>
    obtain ⟨same, scanned⟩ := List.cons.inj scanned
    exact ⟨byte, rest, tail, rfl, above, below, by rw [Option.some.inj same], scanned⟩

theorem more_of_scanFrom {remaining : Nat}
    (scanned : scanFrom (some ⟨remaining + 1, low, high, scalar⟩) bytes = characters.map some) :
    ∃ byte rest, bytes = byte :: rest ∧ low ≤ byte ∧ byte ≤ high ∧
      scanFrom (some ⟨remaining, 0x80, 0xBF, scalar * 64 + (byte.toNat - 0x80)⟩) rest =
        characters.map some := by
  obtain ⟨byte, rest, rfl, above, below, scanned⟩ := exists_cons_of_scanFrom scanned
  rw [step_more ⟨above, below⟩] at scanned
  exact ⟨byte, rest, rfl, above, below, scanned⟩

/-- What begins with a character begins with its encoding. -/
def BeginsWithCharacter (bytes : Bytes) (characters : List Char) : Prop :=
  ∃ character rest tail, bytes = String.utf8EncodeChar character ++ rest ∧
    characters = character :: tail ∧ scanFrom none rest = tail.map some

private theorem start_of_no_opening (wide : 0x80 ≤ first.toNat)
    (outside : first.toNat < 0xC2 ∨ 0xF5 ≤ first.toNat) : start first = ([none], none) := by
  have not_ascii : ¬first < 0x80 := by
    rw [UInt8.lt_iff_toNat_lt]
    exact Nat.not_lt.mpr wide
  have closed : opening? first = none := by
    simp only [opening?, UInt8.lt_iff_toNat_lt]
    change (if first.toNat < 194 then none else if first.toNat < 224 then _
      else if first.toNat < 240 then _ else if first.toNat < 245 then _ else none) = none
    rcases outside with low | high
    · rw [if_pos low]
    · rw [if_neg (by omega), if_neg (by omega), if_neg (by omega), if_neg (by omega)]
  rw [start, if_neg not_ascii, closed]

theorem beginsWithCharacter_of_scanFrom {more : Bytes}
    (scanned : scanFrom none (first :: more) = characters.map some) :
    BeginsWithCharacter (first :: more) characters := by
  rw [scanFrom_cons, step] at scanned
  rcases Nat.lt_or_ge first.toNat 0x80 with ascii | wide
  · rw [start_ascii ascii] at scanned
    cases characters with
    | nil => cases scanned
    | cons character tail =>
      obtain ⟨same, rest_scanned⟩ := List.cons.inj scanned
      cases same
      exact ⟨_, more, tail, by rw [utf8EncodeChar_one ascii]; rfl, rfl, rest_scanned⟩
  rcases Nat.lt_or_ge first.toNat 0xC2 with low | opens
  · rw [start_of_no_opening wide (.inl low)] at scanned
    cases characters <;> cases scanned
  rcases Nat.lt_or_ge first.toNat 0xE0 with two | wider
  · rw [start_two opens two] at scanned
    obtain ⟨second, rest, tail, rfl, above, below, rfl, rest_scanned⟩ := last_of_scanFrom scanned
    exact ⟨_, rest, tail, by rw [utf8EncodeChar_two opens two ⟨above, below⟩]; rfl, rfl,
      rest_scanned⟩
  rcases Nat.lt_or_ge first.toNat 0xF0 with three | widest
  · rw [start_three wider three] at scanned
    obtain ⟨second, seconds, rfl, above, below, second_scanned⟩ := more_of_scanFrom scanned
    obtain ⟨third, rest, tail, rfl, third_above, third_below, rfl, rest_scanned⟩ :=
      last_of_scanFrom second_scanned
    obtain ⟨continued, not_short, not_surrogate⟩ :=
      (within_iff (by decide) (by decide)).mp ⟨above, below⟩
    refine ⟨_, rest, tail, ?_, rfl, rest_scanned⟩
    rw [utf8EncodeChar_three wider three continued not_short not_surrogate
      ⟨third_above, third_below⟩]
    rfl
  rcases Nat.lt_or_ge first.toNat 0xF5 with four | beyond
  · rw [start_four widest four] at scanned
    obtain ⟨second, seconds, rfl, above, below, second_scanned⟩ := more_of_scanFrom scanned
    obtain ⟨third, thirds, rfl, third_above, third_below, third_scanned⟩ :=
      more_of_scanFrom second_scanned
    obtain ⟨fourth, rest, tail, rfl, fourth_above, fourth_below, rfl, rest_scanned⟩ :=
      last_of_scanFrom third_scanned
    obtain ⟨continued, not_short, not_long⟩ :=
      (within_iff (by decide) (by decide)).mp ⟨above, below⟩
    refine ⟨_, rest, tail, ?_, rfl, rest_scanned⟩
    rw [utf8EncodeChar_four widest four continued not_short not_long
      ⟨third_above, third_below⟩ ⟨fourth_above, fourth_below⟩]
    rfl
  · rw [start_of_no_opening wide (.inr beyond)] at scanned
    cases characters <;> cases scanned

/-- Bytes that are cut into characters throughout are the encoding of these characters. -/
theorem ofChars_of_scan (scanned : scan bytes = characters.map some) :
    Bytes.ofChars characters = bytes := by
  rw [scan] at scanned
  induction characters generalizing bytes with
  | nil =>
    cases bytes with
    | nil => rfl
    | cons first more =>
      obtain ⟨character, rest, tail, -, impossible, -⟩ := beginsWithCharacter_of_scanFrom scanned
      cases impossible
  | cons character tail ih =>
    cases bytes with
    | nil => cases scanned
    | cons first more =>
      obtain ⟨_, rest, _, bytes_eq, same, rest_scanned⟩ := beginsWithCharacter_of_scanFrom scanned
      cases same
      rw [bytes_eq, Bytes.ofChars, List.flatMap_cons]
      exact congrArg (String.utf8EncodeChar character ++ ·) (ih rest_scanned)

private theorem mapM_id_eq_some_iff {pieces : List (Option Char)} :
    pieces.mapM id = some characters ↔ pieces = characters.map some := by
  induction pieces generalizing characters with
  | nil => cases characters <;> simp
  | cons piece rest ih =>
    cases piece with
    | none => cases characters <;> simp
    | some first =>
      cases characters with
      | nil => simp [Option.bind_eq_some_iff]
      | cons head tail => simpa [Option.bind_eq_some_iff, ih] using and_comm

/-- What is read as text is the encoding of that text. -/
theorem decode?_eq_some_iff {text : String} :
    decode? bytes = some text ↔ Bytes.ofText text = bytes := by
  rw [decode?, Option.map_eq_some_iff]
  constructor
  · rintro ⟨characters, read, rfl⟩
    rw [Bytes.ofText, String.toList_ofList]
    exact ofChars_of_scan (mapM_id_eq_some_iff.mp read)
  · rintro rfl
    exact ⟨text.toList, mapM_id_eq_some_iff.mpr (scan_ofText text), String.ofList_toList⟩

/-- Bytes are text unless some stretch of them is no character. -/
theorem exists_decode?_of_not_mem (no_gap : none ∉ scan bytes) :
    ∃ text, decode? bytes = some text := by
  have each_some : ∀ piece ∈ scan bytes, (id piece).map some = some piece := by
    intro piece listed
    cases piece with
    | none => exact absurd listed no_gap
    | some character => rfl
  have all_some : ((scan bytes).filterMap id).map some = scan bytes := by
    rw [List.map_filterMap, List.filterMap_congr each_some, List.filterMap_some]
  refine ⟨String.ofList ((scan bytes).filterMap id), ?_⟩
  rw [decode?, mapM_id_eq_some_iff.mpr all_some.symm]
  rfl

end Scanned

end Utf8

/-- A text is read from its bytes as from itself. -/
theorem Json.Text.readBytes_ofText (text : String) :
    Text.readBytes (Bytes.ofText text) = Text.read text := by
  rw [readBytes, read, Source.ofBytes, Source.ofText, Utf8.scan_ofText]

end Countersign
