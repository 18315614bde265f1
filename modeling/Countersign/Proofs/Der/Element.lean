import Countersign.Der.Element
import Countersign.Proofs.Bytes

/-!
# Elements have one encoding

Reading an element and encoding it are inverse to each other: what is read at the front of a byte
string is exactly an encoding, and every encoding with a known tag and a length below the limit is
read back, whatever follows it.
-/

namespace Countersign
namespace Der

/-- The lengths that four bytes cannot spell begin here. -/
def lengthLimit : Nat := 256 ^ 4

theorem longLength?_eq_some_iff {bytes : Bytes} {length : Nat} :
    longLength? bytes = some length ↔ 0x80 ≤ length ∧ bytes = Bytes.digitsBE length := by
  cases bytes with
  | nil =>
    simp only [longLength?, reduceCtorEq, false_iff, not_and]
    exact fun _ empty => Bytes.digitsBE_ne_nil length empty.symm
  | cons first rest =>
    simp only [longLength?]
    split
    · rename_i refused
      simp only [reduceCtorEq, false_iff, not_and]
      intro long digits
      have spelled := congrArg Bytes.toNatBE digits
      rw [Bytes.toNatBE_digitsBE] at spelled
      rcases refused with zero | short
      · exact Bytes.head_digitsBE_ne_zero (by omega) digits.symm zero
      · omega
    · rename_i accepted
      obtain ⟨first_ne, long⟩ := not_or.mp accepted
      constructor
      · intro same
        cases same
        exact ⟨by omega, (Bytes.digitsBE_toNatBE first_ne).symm⟩
      · rintro ⟨_, digits⟩
        rw [digits, Bytes.toNatBE_digitsBE]

private theorem lengthBytes_short {length : Nat} (short : length < 0x80) :
    lengthBytes length = [UInt8.ofNat length] :=
  if_pos short

private theorem lengthBytes_long {length : Nat} (long : 0x80 ≤ length) :
    lengthBytes length =
      UInt8.ofNat (0x80 + (Bytes.digitsBE length).length) :: Bytes.digitsBE length :=
  if_neg (by omega)

/-- A length takes its digits and a byte that announces them, or a single byte if it is short. -/
theorem length_lengthBytes_le_iff {length width : Nat} (positive : 0 < width) :
    (lengthBytes length).length ≤ width + 1 ↔ length < 256 ^ width := by
  by_cases short : length < 0x80
  · have fits : 256 ^ 1 ≤ 256 ^ width := Nat.pow_le_pow_right (by omega) positive
    rw [lengthBytes_short short, List.length_singleton]
    omega
  · rw [lengthBytes_long (by omega), List.length_cons, Nat.add_le_add_iff_right,
      Bytes.length_digitsBE_le_iff (by omega)]

/-- A length in digits is announced by their number, of which there are at most four. -/
private theorem readLength_digits {length : Nat} (long : 0x80 ≤ length)
    (below : length < lengthLimit) (rest : Bytes) :
    readLength (lengthBytes length ++ rest) = some (length, rest) := by
  have digits_le : (Bytes.digitsBE length).length ≤ 4 :=
    (Bytes.length_digitsBE_le_iff (by omega)).mpr below
  have digits_pos : 0 < (Bytes.digitsBE length).length :=
    List.length_pos_iff.mpr (Bytes.digitsBE_ne_nil length)
  have announced :
      (UInt8.ofNat (0x80 + (Bytes.digitsBE length).length)).toNat =
        0x80 + (Bytes.digitsBE length).length := by
    rw [UInt8.toNat_ofNat']
    omega
  rw [lengthBytes_long long, List.cons_append, readLength, if_neg, announced,
    Nat.add_sub_cancel_left, if_pos, List.take_left, List.drop_left,
    longLength?_eq_some_iff.mpr ⟨long, rfl⟩, Option.map_some]
  · exact ⟨digits_pos, digits_le, by simp⟩
  · rw [UInt8.lt_iff_toNat_lt, announced]
    simp

theorem readLength_eq_some_iff {bytes rest : Bytes} {length : Nat} :
    readLength bytes = some (length, rest) ↔
      bytes = lengthBytes length ++ rest ∧ length < lengthLimit := by
  constructor
  · intro read
    cases bytes with
    | nil => cases read
    | cons first after =>
      rw [readLength] at read
      split at read
      · rename_i short
        cases read
        have below : first.toNat < 0x80 := UInt8.lt_iff_toNat_lt.mp short
        refine ⟨?_, by unfold lengthLimit; omega⟩
        rw [lengthBytes_short below, UInt8.ofNat_toNat]
        rfl
      · rename_i long
        dsimp only at read
        split at read
        · rename_i counted
          obtain ⟨count_pos, count_le, count_fits⟩ := counted
          obtain ⟨found, spelled, same⟩ := Option.map_eq_some_iff.mp read
          cases same
          obtain ⟨found_long, digits⟩ := longLength?_eq_some_iff.mp spelled
          have digits_length : (Bytes.digitsBE length).length = first.toNat - 0x80 := by
            rw [← digits, List.length_take]
            omega
          have first_ge : 0x80 ≤ first.toNat := by
            simpa [UInt8.lt_iff_toNat_lt] using long
          have announced : 0x80 + (first.toNat - 0x80) = first.toNat := by omega
          constructor
          · rw [lengthBytes_long found_long, digits_length, announced, UInt8.ofNat_toNat, ← digits,
              List.cons_append, List.take_append_drop]
          · exact (Bytes.length_digitsBE_le_iff (by omega)).mp (by omega)
        · cases read
  · rintro ⟨rfl, below⟩
    by_cases short : length < 0x80
    · have spelled : (UInt8.ofNat length).toNat = length := by
        rw [UInt8.toNat_ofNat']
        omega
      rw [lengthBytes_short short, List.singleton_append, readLength, if_pos, spelled]
      rw [UInt8.lt_iff_toNat_lt, spelled]
      exact short
    · exact readLength_digits (by omega) below rest

namespace Element

theorem length_encode (element : Element) :
    element.encode.length =
      (lengthBytes element.content.length).length + element.content.length + 1 := by
  simp [encode]

theorem length_content_lt (element : Element) : element.content.length < element.encode.length := by
  rw [length_encode]
  omega

end Element

namespace Reader

variable {α : Type}

theorem element_eq_some_iff {bytes rest : Bytes} {element : Element} :
    Reader.element bytes = some (element, rest) ↔
      bytes = element.encode ++ rest ∧ Tag.isKnown element.tag = true ∧
        element.content.length < lengthLimit := by
  cases bytes with
  | nil => simp [Reader.element, Element.encode]
  | cons tag after =>
    simp only [Reader.element, Element.encode, List.cons_append, List.append_assoc]
    constructor
    · intro read
      split at read
      · rename_i known
        split at read
        · rename_i length content length_read
          obtain ⟨rfl, below⟩ := readLength_eq_some_iff.mp length_read
          split at read
          · rename_i fits
            cases read
            have content_length : (content.take length).length = length := by
              rw [List.length_take]
              omega
            rw [content_length, List.take_append_drop]
            exact ⟨rfl, known, below⟩
          · cases read
        · cases read
      · cases read
    · rintro ⟨encoded, known, below⟩
      obtain ⟨rfl, rfl⟩ := List.cons.inj encoded
      have length_read : readLength (lengthBytes element.content.length ++
          (element.content ++ rest)) = some (element.content.length, element.content ++ rest) :=
        readLength_eq_some_iff.mpr ⟨rfl, below⟩
      rw [if_pos known, length_read]
      simp

theorem bind_eq_some_iff {β : Type} {first : Reader α} {next : α → Reader β} {bytes rest : Bytes}
    {result : β} :
    (first >>= next) bytes = some (result, rest) ↔
      ∃ value between, first bytes = some (value, between) ∧
        next value between = some (result, rest) := by
  change (first bytes).bind (fun pair => next pair.1 pair.2) = _ ↔ _
  simp [Option.bind_eq_some_iff]

theorem pure_eq_some_iff {value result : α} {bytes rest : Bytes} :
    (pure value : Reader α) bytes = some (result, rest) ↔ value = result ∧ bytes = rest := by
  change some (value, bytes) = some (result, rest) ↔ _
  simp

theorem whole_eq_some_iff {reader : Reader α} {bytes : Bytes} {value : α} :
    whole reader bytes = some value ↔ reader bytes = some (value, []) := by
  unfold whole
  split
  · rename_i found read
    simp [read]
  · rename_i absent
    constructor
    · exact fun impossible => nomatch impossible
    · exact fun read => absurd read (absent value)

theorem encoding_eq_some_iff {reader : Reader α} {bytes : Bytes} {value : α} :
    encoding reader bytes = some value ↔
      reader bytes = some (value, []) ∧ bytes.length ≤ maxSize := by
  rw [encoding, Option.ite_none_right_eq_some, whole_eq_some_iff, and_comm]

/-- The content of an element with a given tag is read from the element's encoding. -/
theorem tagged_eq_some_iff {tag : UInt8} {bytes content rest : Bytes} :
    tagged tag bytes = some (content, rest) ↔
      bytes = Element.encode ⟨tag, content⟩ ++ rest ∧ Tag.isKnown tag = true ∧
        content.length < lengthLimit := by
  simp only [tagged, bind_eq_some_iff, element_eq_some_iff]
  constructor
  · rintro ⟨element, between, ⟨encoded, known, short⟩, done⟩
    split at done
    · rename_i same
      obtain ⟨rfl, rfl⟩ := pure_eq_some_iff.mp done
      cases same
      exact ⟨encoded, known, short⟩
    · cases done
  · rintro ⟨encoded, known, short⟩
    exact ⟨⟨tag, content⟩, rest, ⟨encoded, known, short⟩, by rw [if_pos rfl]; rfl⟩

private theorem lift_eq_some_iff {outcome : Option α} {bytes rest : Bytes} {value : α} :
    (StateT.lift outcome : Reader α) bytes = some (value, rest) ↔
      outcome = some value ∧ bytes = rest := by
  change outcome.bind (fun found => some (found, bytes)) = _ ↔ _
  simp only [Option.bind_eq_some_iff, Option.some.injEq, Prod.mk.injEq]
  constructor
  · rintro ⟨_, found, rfl, rest_eq⟩
    exact ⟨found, rest_eq⟩
  · rintro ⟨found, rest_eq⟩
    exact ⟨value, found, rfl, rest_eq⟩

theorem inside_eq_some_iff {tag : UInt8} {reader : Reader α} {bytes rest : Bytes} {value : α} :
    inside tag reader bytes = some (value, rest) ↔
      ∃ content, bytes = Element.encode ⟨tag, content⟩ ++ rest ∧ Tag.isKnown tag = true ∧
        content.length < lengthLimit ∧ reader content = some (value, []) := by
  simp only [inside, bind_eq_some_iff, tagged_eq_some_iff, lift_eq_some_iff, whole_eq_some_iff]
  constructor
  · rintro ⟨content, _, ⟨encoded, known, short⟩, read, rfl⟩
    exact ⟨content, encoded, known, short, read⟩
  · rintro ⟨content, encoded, known, short, read⟩
    exact ⟨content, rest, ⟨encoded, known, short⟩, read, rfl⟩

theorem value_eq_some_iff {tag : UInt8} {ofContent? : Bytes → Option α} {bytes rest : Bytes}
    {value : α} :
    Reader.value tag ofContent? bytes = some (value, rest) ↔
      ∃ content, bytes = Element.encode ⟨tag, content⟩ ++ rest ∧ Tag.isKnown tag = true ∧
        content.length < lengthLimit ∧ ofContent? content = some value := by
  simp only [Reader.value, bind_eq_some_iff, tagged_eq_some_iff, lift_eq_some_iff]
  constructor
  · rintro ⟨content, _, ⟨encoded, known, short⟩, denoted, rfl⟩
    exact ⟨content, encoded, known, short, denoted⟩
  · rintro ⟨content, encoded, known, short, denoted⟩
    exact ⟨content, rest, ⟨encoded, known, short⟩, denoted, rfl⟩

/-- A reader that leaves no more bytes than it is given. -/
def Shortens (reader : Reader α) : Prop :=
  ∀ bytes value rest, reader bytes = some (value, rest) → rest.length ≤ bytes.length

namespace Shortens

variable {β : Type}

theorem pure (value : α) : Shortens (Pure.pure value : Reader α) := by
  intro bytes result rest read
  obtain ⟨-, rfl⟩ := pure_eq_some_iff.mp read
  exact le_rfl

theorem lift (outcome : Option α) : Shortens (StateT.lift outcome) := by
  intro bytes result rest read
  obtain ⟨-, rfl⟩ := lift_eq_some_iff.mp read
  exact le_rfl

theorem bind {first : Reader α} {next : α → Reader β} (shortens : Shortens first)
    (next_shortens : ∀ value, Shortens (next value)) : Shortens (first >>= next) := by
  intro bytes result rest read
  obtain ⟨value, between, first_read, next_read⟩ := bind_eq_some_iff.mp read
  exact (next_shortens value _ _ _ next_read).trans (shortens _ _ _ first_read)

theorem failure : Shortens (failure : Reader α) :=
  fun _ _ _ read => nomatch read

theorem peek : Shortens Reader.peek := by
  intro bytes result rest read
  cases read
  exact le_rfl

theorem element : Shortens Reader.element := by
  intro bytes result rest read
  obtain ⟨rfl, -⟩ := element_eq_some_iff.mp read
  simp

theorem tagged (tag : UInt8) : Shortens (Reader.tagged tag) := by
  intro bytes content rest read
  obtain ⟨rfl, -⟩ := tagged_eq_some_iff.mp read
  simp

theorem inside (tag : UInt8) (reader : Reader α) : Shortens (Reader.inside tag reader) :=
  (tagged tag).bind fun _ => lift _

theorem value (tag : UInt8) (ofContent? : Bytes → Option α) :
    Shortens (Reader.value tag ofContent?) :=
  (tagged tag).bind fun _ => lift _

theorem listInside (tag : UInt8) (reader : Reader α) : Shortens (Reader.listInside tag reader) :=
  (tagged tag).bind fun _ => lift _

end Shortens

end Reader
end Der
end Countersign
