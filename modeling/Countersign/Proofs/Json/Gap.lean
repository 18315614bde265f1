import Countersign.Proofs.Json.Mending
import Countersign.Proofs.Json.Text

/-!
# Gaps in a text

A stretch of bytes that encodes no character is a gap.  A reader stops at a gap, except inside a
string.  So what is read to its end is also read when characters fill the gaps, as a document in
which the broken parts are mended, and there are no gaps at all if no part is broken.
-/

namespace Countersign
namespace Json

/-- A source in which a replacement character stands for each stretch that is no character. -/
def Source.fill (source : Source) : Source :=
  source.map fun piece => some (piece.getD '\uFFFD')

namespace Source

@[simp] theorem fill_nil : fill [] = [] := rfl

@[simp] theorem fill_none (rest : Source) : fill (none :: rest) = some '\uFFFD' :: fill rest := rfl

@[simp] theorem fill_some (character : Char) (rest : Source) :
    fill (some character :: rest) = some character :: fill rest := rfl

theorem head?_fill {source : Source} {character : Char} (not_filled : character ≠ '\uFFFD') :
    source.fill.head? = some (some character) ↔ source.head? = some (some character) := by
  rcases source with _ | ⟨_ | first, rest⟩
  case nil => rfl
  case cons.none => simp [Ne.symm not_filled]
  case cons.some => rfl

theorem tail_fill (source : Source) : source.fill.tail = fill source.tail :=
  List.map_tail.symm

theorem ofText_decodeLossy (bytes : Bytes) :
    ofText (Utf8.decodeLossy bytes) = (ofBytes bytes).fill := by
  rw [ofText, Utf8.decodeLossy, String.toList_ofList, List.map_map]
  rfl

end Source

namespace Lexer

theorem skipBlanks_fill (source : Source) : skipBlanks source.fill = (skipBlanks source).fill := by
  induction source with
  | nil => rfl
  | cons piece rest ih =>
    cases piece with
    | none => rfl
    | some character =>
      rw [Source.fill_some, skipBlanks, skipBlanks]
      split
      · exact ih
      · rfl

theorem none_mem_skipBlanks {source : Source} (gap : none ∈ source) : none ∈ skipBlanks source := by
  induction source with
  | nil => exact gap
  | cons piece rest ih =>
    cases piece with
    | none => exact gap
    | some character =>
      rw [skipBlanks]
      split
      · exact ih (by simpa using gap)
      · exact gap

/-- A gap cannot stand before what is left when blanks are dropped. -/
theorem none_mem_of_skipBlanks {source rest : Source} {character : Char}
    (skipped : skipBlanks source = some character :: rest) (gap : none ∈ source) :
    none ∈ rest := by
  have left := none_mem_skipBlanks gap
  rw [skipped] at left
  simpa using left

theorem readDigits_fill (source : Source) :
    readDigits source.fill = ((readDigits source).1, (readDigits source).2.fill) := by
  induction source with
  | nil => rfl
  | cons piece rest ih =>
    cases piece with
    | none => rfl
    | some character =>
      rw [Source.fill_some, readDigits, readDigits]
      split
      · rw [ih]
      · rfl

theorem none_mem_readDigits {source : Source} (gap : none ∈ source) :
    none ∈ (readDigits source).2 := by
  induction source with
  | nil => exact gap
  | cons piece rest ih =>
    cases piece with
    | none => exact gap
    | some character =>
      rw [readDigits]
      split
      · exact ih (by simpa using gap)
      · exact gap

/-- A reader that passes over no gap: it reads the same when the gaps are filled, and they are still
to be read. -/
def StopsAtGaps {α : Type} (read : Source → Option (α × Source)) : Prop :=
  ∀ ⦃source rest : Source⦄ ⦃value : α⦄, read source = some (value, rest) →
    read source.fill = some (value, rest.fill) ∧ (none ∈ source → none ∈ rest)

theorem stopsAtGaps_readWhole : StopsAtGaps readWhole := by
  intro source rest digits read
  rw [readWhole_eq_some_iff] at read ⊢
  obtain ⟨digits_read, whole⟩ := read
  refine ⟨⟨by rw [readDigits_fill, digits_read], whole⟩, fun gap => ?_⟩
  have left := none_mem_readDigits gap
  rwa [digits_read] at left

private theorem stopsAtGaps_digits {α : Type} (make : List Digit → α) :
    StopsAtGaps fun source =>
      match readDigits source with
      | ([], _) => none
      | (digits, after) => some (make digits, after) := by
  intro source rest value read
  have left : none ∈ source → none ∈ (readDigits source).2 := none_mem_readDigits
  dsimp only at read ⊢
  rw [readDigits_fill]
  generalize readDigits source = found at read left
  obtain ⟨digits, after⟩ := found
  cases digits with
  | nil => cases read
  | cons first more =>
    cases read
    exact ⟨rfl, left⟩

theorem stopsAtGaps_readFraction : StopsAtGaps readFraction := by
  intro source rest fraction read
  rcases source with _ | ⟨_ | character, after⟩
  case nil => exact ⟨by cases read; rfl, by cases read; exact id⟩
  case cons.none => exact ⟨by cases read; rfl, by cases read; exact id⟩
  case cons.some =>
    by_cases point : character = '.'
    · subst point
      obtain ⟨filled, gap⟩ := stopsAtGaps_digits some read
      exact ⟨filled, by simpa using gap⟩
    · have pointless (tail : Source) : readFraction (some character :: tail) =
          some (none, some character :: tail) := by
        rw [readFraction]
        rintro after same
        cases same
        exact point rfl
      rw [pointless] at read
      cases read
      exact ⟨pointless _, id⟩

theorem readSign_fill (source : Source) :
    readSign source.fill = ((readSign source).1, (readSign source).2.fill) := by
  rcases source with _ | ⟨_ | character, after⟩
  case nil => rfl
  case cons.none => rfl
  case cons.some =>
    by_cases minus : character = '-'
    · rw [minus]
      rfl
    by_cases plus : character = '+'
    · rw [plus]
      rfl
    have unsigned (tail : Source) :
        readSign (some character :: tail) = (false, some character :: tail) := by
      rw [readSign]
      · exact fun _ same => minus (Option.some.inj (List.cons.inj same).1)
      · exact fun _ same => plus (Option.some.inj (List.cons.inj same).1)
    rw [Source.fill_some, unsigned, unsigned, Source.fill_some]

theorem none_mem_readSign {source : Source} (gap : none ∈ source) :
    none ∈ (readSign source).2 := by
  rw [readSign.eq_def]
  split
  · simpa using gap
  · simpa using gap
  · exact gap

theorem stopsAtGaps_readExponent : StopsAtGaps readExponent := by
  intro source rest exponent read
  rcases source with _ | ⟨_ | character, after⟩
  case nil => exact ⟨by cases read; rfl, by cases read; exact id⟩
  case cons.none => exact ⟨by cases read; rfl, by cases read; exact id⟩
  case cons.some =>
    rw [readExponent] at read
    rw [Source.fill_some, readExponent]
    split at read
    case isTrue mark =>
      rw [if_pos mark, readSign_fill]
      obtain ⟨filled, gap⟩ :=
        stopsAtGaps_digits (fun digits => some (Exponent.mk (readSign after).1 digits)) read
      exact ⟨filled, fun found => gap (none_mem_readSign (by simpa using found))⟩
    case isFalse other =>
      cases read
      exact ⟨if_neg other, id⟩

theorem stopsAtGaps_readUnsigned (negative : Bool) : StopsAtGaps (readUnsigned negative) := by
  intro source rest numeral read
  simp only [readUnsigned, Option.bind_eq_bind, Option.bind_eq_some_iff, Prod.exists] at read ⊢
  obtain ⟨whole, afterWhole, whole_read, fraction, afterFraction, fraction_read, exponent, after,
    exponent_read, same⟩ := read
  cases same
  obtain ⟨whole_filled, whole_gap⟩ := stopsAtGaps_readWhole whole_read
  obtain ⟨fraction_filled, fraction_gap⟩ := stopsAtGaps_readFraction fraction_read
  obtain ⟨exponent_filled, exponent_gap⟩ := stopsAtGaps_readExponent exponent_read
  exact ⟨⟨_, _, whole_filled, _, _, fraction_filled, _, _, exponent_filled, rfl⟩,
    fun gap => exponent_gap (fraction_gap (whole_gap gap))⟩

theorem stopsAtGaps_readNumeral : StopsAtGaps readNumeral := by
  intro source rest numeral read
  rcases source with _ | ⟨_ | character, after⟩
  case nil => cases read
  case cons.none => cases read
  case cons.some =>
    by_cases minus : character = '-'
    · subst minus
      obtain ⟨filled, gap⟩ := stopsAtGaps_readUnsigned true read
      exact ⟨filled, by simpa using gap⟩
    · have unsigned (tail : Source) :
          readNumeral (some character :: tail) = readUnsigned false (some character :: tail) := by
        rw [readNumeral]
        exact fun _ same => minus (Option.some.inj (List.cons.inj same).1)
      rw [unsigned] at read
      rw [Source.fill_some, unsigned]
      exact stopsAtGaps_readUnsigned false read

/-- A piece of a string in which a replacement character stands for what is no character. -/
def Piece.fill : Piece → Piece
  | .noCharacter => .character '\uFFFD'
  | piece => piece

theorem readPieces_letter (collected : List Piece) {letter character : Char}
    (escaped : escaped? letter = some character) (rest : Source) :
    readPieces collected (some '\\' :: some letter :: rest) =
      readPieces (.character character :: collected) rest := by
  rw [readPieces, escaped]
  rintro _ _ _ _ _ - rfl
  cases escaped

-- The pieces read so far are carried along in reverse, so they are filled with those to come.
theorem readPieces_fill {collected pieces : List Piece} {source rest : Source}
    (read : readPieces collected source = some (pieces, rest)) :
    readPieces (collected.map Piece.fill) source.fill =
      some (pieces.map Piece.fill, rest.fill) := by
  fun_induction readPieces collected source with
  | case2 collected source ih =>
    rw [Source.fill_none, readPieces_plain _ (by decide) (by decide) (by decide)]
    exact ih read
  | case3 collected source =>
    cases read
    rw [Source.fill_some, readPieces, List.map_reverse]
  | case4 collected a b c d source unit denoted ih =>
    simp only [Source.fill_some]
    rw [readPieces, denoted]
    exact ih read
  | case6 collected letter source _ character escaped ih =>
    rw [Source.fill_some, Source.fill_some, readPieces_letter _ escaped]
    exact ih read
  | case9 collected character source no_quote _ _ plain ih =>
    rw [not_or] at plain
    rw [Source.fill_some, readPieces_plain _ no_quote plain.1 plain.2]
    exact ih read
  | case1 | case5 | case7 | case8 => cases read

/-- A gap that is passed over by a string is a piece of it. -/
theorem gap_of_readPieces {collected pieces : List Piece} {source rest : Source}
    (read : readPieces collected source = some (pieces, rest))
    (gap : none ∈ source ∨ .noCharacter ∈ collected) : none ∈ rest ∨ .noCharacter ∈ pieces := by
  fun_induction readPieces collected source with
  | case3 collected source =>
    cases read
    simpa using gap
  | case2 collected source ih => exact ih read (.inr List.mem_cons_self)
  | case4 | case6 | case9 =>
    rename_i ih
    exact ih read (by simpa using gap)
  | case1 | case5 | case7 | case8 => cases read

/-- Pieces that denote a text hold no gap. -/
theorem not_mem_of_denote? {pieces : List Piece} {characters : List Char}
    (denoted : denote? pieces = some characters) : .noCharacter ∉ pieces := by
  fun_induction denote? pieces generalizing characters with
  | case1 => exact List.not_mem_nil
  | case2 | case4 | case7 | case9 =>
    rename_i ih
    obtain ⟨more, more_denoted, -⟩ := Option.map_eq_some_iff.mp denoted
    simpa using ih more_denoted
  | case3 | case5 | case6 | case8 => cases denoted

theorem map_fill_of_not_mem {pieces : List Piece} (no_gap : .noCharacter ∉ pieces) :
    pieces.map Piece.fill = pieces := by
  have unchanged : ∀ piece ∈ pieces, piece.fill = id piece := by
    intro piece listed
    cases piece with
    | noCharacter => exact absurd listed no_gap
    | _ => rfl
  rw [List.map_congr_left unchanged, List.map_id]

theorem readString_fill {source rest : Source} {name : Option String}
    (read : readString source = some (name, rest)) :
    ∃ other, readString source.fill = some (other, rest.fill) ∧
      ∀ text, name = some text → other = some text ∧ (none ∈ source → none ∈ rest) := by
  obtain ⟨⟨pieces, after⟩, pieces_read, same⟩ := Option.map_eq_some_iff.mp read
  cases same
  refine ⟨_, Option.map_eq_some_iff.mpr ⟨_, readPieces_fill pieces_read, rfl⟩, ?_⟩
  intro text named
  obtain ⟨characters, denoted, rfl⟩ := Option.map_eq_some_iff.mp named
  have no_gap := not_mem_of_denote? denoted
  refine ⟨by rw [map_fill_of_not_mem no_gap, denoted]; rfl, fun gap => ?_⟩
  exact (gap_of_readPieces pieces_read (.inl gap)).resolve_right no_gap

end Lexer

namespace Reader

open Lexer Document

/-- How a reader takes gaps: when they are filled it reads a mended part that ends at the same
place, and a part that is whole passes over no gap. -/
def TakesGaps {α : Type} (mended : α → α → Prop) (isWhole : α → Bool)
    (read : Source → Reading α) : Prop :=
  ∀ ⦃source rest : Source⦄ ⦃part : α⦄, read source = ⟨part, some rest⟩ →
    ∃ other, read source.fill = ⟨other, some rest.fill⟩ ∧ mended part other ∧
      (isWhole part = true → none ∈ source → none ∈ rest)

theorem takesGaps_word (document : Document) (expected : List Char) :
    TakesGaps Mended isWhole (word document expected) := by
  intro source rest part read
  induction expected generalizing source with
  | nil =>
    cases read
    exact ⟨_, rfl, .same _, fun _ => id⟩
  | cons first more ih =>
    rcases source with _ | ⟨_ | character, after⟩
    case nil => cases read
    case cons.none => cases read
    case cons.some =>
      rw [word] at read
      split at read
      case isTrue same =>
        obtain ⟨other, filled, mended, clear⟩ := ih read
        refine ⟨other, ?_, mended, fun whole gap => clear whole (by simpa using gap)⟩
        rw [Source.fill_some, word, if_pos same, filled]
      case isFalse => cases read

theorem takesGaps_string : TakesGaps Mended isWhole string := by
  intro source rest part read
  rw [string.eq_def] at read
  split at read
  case h_1 text after text_read =>
    cases read
    obtain ⟨other, filled, kept⟩ := readString_fill text_read
    obtain ⟨rfl, clear⟩ := kept text rfl
    exact ⟨_, by rw [string, filled], .same _, fun _ => clear⟩
  case h_2 after text_read =>
    cases read
    obtain ⟨other, filled, -⟩ := readString_fill text_read
    have clear (whole : isWhole (.broken .notText) = true) : none ∈ source → none ∈ rest := by
      cases whole
    cases other with
    | none => exact ⟨_, by rw [string, filled], .same _, clear⟩
    | some text => exact ⟨_, by rw [string, filled], .text text, clear⟩
  case h_3 => cases read

theorem takesGaps_number : TakesGaps Mended isWhole number := by
  intro source rest part read
  rw [number.eq_def] at read
  split at read
  case h_1 numeral after numeral_read =>
    cases read
    obtain ⟨filled, clear⟩ := stopsAtGaps_readNumeral numeral_read
    exact ⟨_, by rw [number, filled], .same _, fun _ => clear⟩
  case h_2 => cases read

theorem mendedMember_member {name other : Option String} {value mended_value : Document}
    (kept : ∀ text, name = some text → other = some text) (mended : value.Mended mended_value) :
    MendedMember (member name value) (member other mended_value) := by
  cases name with
  | some text =>
    rw [kept text rfl]
    exact .named text mended
  | none =>
    rw [member]
    split
    case isFalse => exact .lost _
    case isTrue json =>
      cases other with
      | some text => exact .nameless text (mended.isJson json)
      | none =>
        rw [member, if_pos (mended.isJson json)]
        exact .named _ (.same _)

theorem isWhole_member {name : Option String} {value : Document}
    (whole : (member name value).2.isWhole = true) :
    ∃ text, name = some text ∧ value.isWhole = true := by
  cases name with
  | some text => exact ⟨text, rfl, whole⟩
  | none =>
    rw [member] at whole
    split at whole <;> cases whole

section Step

variable {fuel : Nat}

theorem takesGaps_elements (documents : TakesGaps Mended isWhole (document fuel))
    (rests : TakesGaps (List.Forall₂ Mended) areWhole (elements fuel)) :
    TakesGaps (List.Forall₂ Mended) areWhole (elements (fuel + 1)) := by
  intro source after parts read
  rw [elements] at read
  rcases first_read : document fuel source with ⟨first, rest?⟩
  rw [first_read] at read
  dsimp only at read
  cases rest? with
  | none => cases read
  | some rest =>
    obtain ⟨other, filled, mended, clear⟩ := documents first_read
    dsimp only at read
    split at read
    case h_1 closing closed =>
      cases read
      refine ⟨[other], elements_last filled ?_, .cons mended .nil, fun whole gap => ?_⟩
      · rw [skipBlanks_fill, closed, Source.fill_some]
      · rw [areWhole, Bool.and_eq_true] at whole
        exact none_mem_of_skipBlanks closed (clear whole.1 gap)
    case h_2 next separated =>
      rcases more_read : elements fuel next with ⟨more, last⟩
      rw [more_read] at read
      cases read
      obtain ⟨others, more_filled, more_mended, more_clear⟩ := rests more_read
      refine ⟨other :: others, elements_next filled ?_ more_filled, .cons mended more_mended,
        fun whole gap => ?_⟩
      · rw [skipBlanks_fill, separated, Source.fill_some]
      · rw [areWhole, Bool.and_eq_true] at whole
        exact more_clear whole.2 (none_mem_of_skipBlanks separated (clear whole.1 gap))
    case h_3 => cases read

theorem takesGaps_members (documents : TakesGaps Mended isWhole (document fuel))
    (rests : TakesGaps (List.Forall₂ MendedMember) membersAreWhole (members fuel)) :
    TakesGaps (List.Forall₂ MendedMember) membersAreWhole (members (fuel + 1)) := by
  intro source after parts read
  rw [members] at read
  split at read
  case h_2 => cases read
  case h_1 nameSource opened =>
  split at read
  case h_1 => cases read
  case h_2 name afterName name_read =>
  split at read
  case h_2 => cases read
  case h_1 valueSource colon =>
  rcases value_read : document fuel valueSource with ⟨value, rest?⟩
  rw [value_read] at read
  dsimp only at read
  cases rest? with
  | none => cases read
  | some rest =>
    obtain ⟨other_name, name_filled, kept⟩ := readString_fill name_read
    obtain ⟨other, filled, mended, clear⟩ := documents value_read
    have clear_member (whole : (member name value).2.isWhole = true) (gap : none ∈ source) :
        none ∈ rest := by
      obtain ⟨text, named, value_whole⟩ := isWhole_member whole
      have in_name := none_mem_of_skipBlanks opened gap
      have after_name := (kept text named).2 in_name
      exact clear value_whole (none_mem_of_skipBlanks colon after_name)
    have pair := mendedMember_member (fun text named => (kept text named).1) mended
    have filled_opened : skipBlanks source.fill = some '"' :: Source.fill nameSource := by
      rw [skipBlanks_fill, opened, Source.fill_some]
    have filled_colon : skipBlanks afterName.fill = some ':' :: Source.fill valueSource := by
      rw [skipBlanks_fill, colon, Source.fill_some]
    dsimp only at read
    split at read
    case h_1 closing closed =>
      have filled_closed : skipBlanks rest.fill = some '\x7d' :: Source.fill closing := by
        rw [skipBlanks_fill, closed, Source.fill_some]
      cases read
      refine ⟨_, members_of_last filled_opened name_filled filled_colon filled filled_closed,
        .cons pair .nil, fun whole gap => ?_⟩
      rw [membersAreWhole, Bool.and_eq_true] at whole
      exact none_mem_of_skipBlanks closed (clear_member whole.1 gap)
    case h_2 next separated =>
      rcases more_read : members fuel next with ⟨more, last⟩
      rw [more_read] at read
      cases read
      obtain ⟨others, more_filled, more_mended, more_clear⟩ := rests more_read
      have filled_separated : skipBlanks rest.fill = some ',' :: Source.fill next := by
        rw [skipBlanks_fill, separated, Source.fill_some]
      refine ⟨_, members_of_next filled_opened name_filled filled_colon filled filled_separated
        more_filled, .cons pair more_mended, fun whole gap => ?_⟩
      rw [membersAreWhole, Bool.and_eq_true] at whole
      exact more_clear whole.2 (none_mem_of_skipBlanks separated (clear_member whole.1 gap))
    case h_3 => cases read

/-- Reads a container after its opening character: arrays and objects differ in how they close and
in what stands inside. -/
def container {α : Type} (closing : Char) (wrap : List α → Document)
    (inside : Source → Reading (List α)) (source : Source) : Reading Document :=
  if (skipBlanks source).head? = some (some closing) then
    ⟨wrap [], some (skipBlanks source).tail⟩
  else ⟨wrap (inside (skipBlanks source)).part, (inside (skipBlanks source)).rest⟩

theorem takesGaps_container {α : Type} (closing : Char) {wrap : List α → Document}
    {inside : Source → Reading (List α)} {related : List α → List α → Prop}
    {areWhole : List α → Bool} (not_filled : closing ≠ '\uFFFD')
    (wraps : ∀ ⦃parts others⦄, related parts others → (wrap parts).Mended (wrap others))
    (whole_wraps : ∀ ⦃parts⦄, (wrap parts).isWhole = true → areWhole parts = true)
    (takes : TakesGaps related areWhole inside) :
    TakesGaps Mended isWhole (container closing wrap inside) := by
  intro source after part read
  rw [container] at read ⊢
  simp only [skipBlanks_fill, Source.head?_fill not_filled]
  split at read
  case isTrue closed =>
    cases read
    refine ⟨wrap [], by rw [if_pos closed, Source.tail_fill], .same _, ?_⟩
    intro _ gap
    obtain ⟨tail, opened⟩ := List.head?_eq_some_iff.mp closed
    rw [opened]
    exact none_mem_of_skipBlanks opened gap
  case isFalse unclosed =>
    rcases inside_read : inside (skipBlanks source) with ⟨parts, rest?⟩
    rw [inside_read] at read
    cases read
    obtain ⟨others, filled, related_here, clear⟩ := takes inside_read
    refine ⟨wrap others, by rw [if_neg unclosed, filled], wraps related_here, fun whole gap => ?_⟩
    exact clear (whole_wraps whole) (none_mem_skipBlanks gap)

/-- Reads a document after its first character. -/
def documentAfter (fuel : Nat) (first : Char) (rest : Source) : Reading Document :=
  if first = 'n' then word .null ['u', 'l', 'l'] rest
  else if first = 't' then word (.bool true) ['r', 'u', 'e'] rest
  else if first = 'f' then word (.bool false) ['a', 'l', 's', 'e'] rest
  else if first = '"' then string rest
  else if first = '[' then container ']' .array (elements fuel) rest
  else if first = '\x7b' then container '\x7d' .object (members fuel) rest
  else if first = '-' ∨ (Digit.ofChar? first).isSome then number (some first :: rest)
  else stop

/-- The first character that is not blank decides what a document is. -/
theorem document_eq_documentAfter {source rest : Source} {first : Char}
    (opened : skipBlanks source = some first :: rest) :
    document (fuel + 1) source = documentAfter fuel first rest := by
  rw [document, opened]
  split
  case h_1 same => cases same; rfl
  case h_2 same => cases same; rfl
  case h_3 same => cases same; rfl
  case h_4 same => cases same; rfl
  case h_5 same =>
    cases same
    change _ = container ']' .array (elements fuel) rest
    rw [container]
    rcases skipBlanks rest with _ | ⟨_ | second, tail⟩
    · rfl
    · rfl
    · split <;> simp_all
  case h_6 same =>
    cases same
    change _ = container '\x7d' .object (members fuel) rest
    rw [container]
    rcases skipBlanks rest with _ | ⟨_ | second, tail⟩
    · rfl
    · rfl
    · split <;> simp_all
  case h_7 no_n no_t no_f no_quote no_bracket no_brace same =>
    cases same
    rw [documentAfter, if_neg no_n, if_neg no_t, if_neg no_f, if_neg no_quote, if_neg no_bracket,
      if_neg no_brace]
  case h_8 other => exact absurd rfl (other _ _)

theorem takesGaps_documentAfter (arrays : TakesGaps (List.Forall₂ Mended) areWhole (elements fuel))
    (objects : TakesGaps (List.Forall₂ MendedMember) membersAreWhole (members fuel))
    (first : Char) : TakesGaps Mended isWhole (documentAfter fuel first) := by
  unfold documentAfter
  split
  · exact takesGaps_word _ _
  split
  · exact takesGaps_word _ _
  split
  · exact takesGaps_word _ _
  split
  · exact takesGaps_string
  split
  · exact takesGaps_container ']' (by decide) (fun _ _ => .array) (fun _ => id) arrays
  split
  · exact takesGaps_container '\x7d' (by decide) (fun _ _ => .object) (fun _ => id) objects
  split
  · intro source rest part read
    obtain ⟨other, filled, mended, clear⟩ := takesGaps_number read
    exact ⟨other, filled, mended, fun whole gap => clear whole (List.mem_cons_of_mem _ gap)⟩
  · intro source rest part read
    cases read

theorem takesGaps_document (arrays : TakesGaps (List.Forall₂ Mended) areWhole (elements fuel))
    (objects : TakesGaps (List.Forall₂ MendedMember) membersAreWhole (members fuel)) :
    TakesGaps Mended isWhole (document (fuel + 1)) := by
  intro source after part read
  rcases opened : skipBlanks source with _ | ⟨_ | first, rest⟩
  case nil =>
    rw [document, opened] at read
    cases read
  case cons.none =>
    rw [document, opened] at read
    cases read
  case cons.some =>
    rw [document_eq_documentAfter opened] at read
    obtain ⟨other, filled, mended, clear⟩ := takesGaps_documentAfter arrays objects first read
    refine ⟨other, ?_, mended, fun whole gap => clear whole (none_mem_of_skipBlanks opened gap)⟩
    rw [document_eq_documentAfter (by rw [skipBlanks_fill, opened, Source.fill_some]), filled]

end Step

/-- The fuel bounds documents, elements and members at once, so the induction is on all three. -/
theorem takesGaps (fuel : Nat) :
    TakesGaps Mended isWhole (document fuel) ∧
      TakesGaps (List.Forall₂ Mended) areWhole (elements fuel) ∧
        TakesGaps (List.Forall₂ MendedMember) membersAreWhole (members fuel) := by
  induction fuel with
  | zero => exact ⟨nofun, nofun, nofun⟩
  | succ fuel ih =>
    obtain ⟨documents, arrays, objects⟩ := ih
    exact ⟨takesGaps_document arrays objects, takesGaps_elements documents arrays,
      takesGaps_members documents objects⟩

end Reader

namespace Text

theorem exists_of_complete {source : Source} (complete : (ofSource source).complete = true) :
    ∃ rest, Reader.document (2 * source.length + 2) source =
      ⟨(ofSource source).document, some rest⟩ ∧ rest.isBlank = true := by
  obtain ⟨rest, rest_eq, blank⟩ := (Option.any_eq_true _ _).mp complete
  refine ⟨rest, ?_, blank⟩
  rw [← rest_eq]
  rfl

/-- A text that is read to its end is also read when its gaps are filled. -/
theorem fill_of_complete {source : Source} (complete : (ofSource source).complete = true) :
    (ofSource source.fill).complete = true ∧
      (ofSource source).document.Mended (ofSource source.fill).document := by
  obtain ⟨rest, read, blank⟩ := exists_of_complete complete
  obtain ⟨other, filled, mended, -⟩ := (Reader.takesGaps _).1 read
  have length_eq : source.fill.length = source.length := List.length_map _
  have filled_blank : rest.fill.isBlank = true := by
    rw [Source.isBlank, List.isEmpty_iff] at blank ⊢
    rw [Lexer.skipBlanks_fill, blank, Source.fill_nil]
  rw [ofSource, length_eq, filled]
  exact ⟨filled_blank, mended⟩

/-- A text that is read to its end has no gaps, unless a part of its document is broken. -/
theorem not_mem_of_isWhole {source : Source} (complete : (ofSource source).complete = true)
    (whole : (ofSource source).document.isWhole = true) : none ∉ source := by
  obtain ⟨rest, read, blank⟩ := exists_of_complete complete
  obtain ⟨_, _, _, clear⟩ := (Reader.takesGaps _).1 read
  intro gap
  have left := Lexer.none_mem_skipBlanks (clear whole gap)
  rw [List.isEmpty_iff.mp blank] at left
  cases left

end Text
end Json
end Countersign
