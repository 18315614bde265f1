import Mathlib.Tactic.IntervalCases
import Countersign.Json.Reader
import Countersign.Proofs.Json.Numeral
import Countersign.Proofs.Json.Quoted

/-!
# Documents are read back

A document without broken parts whose numerals keep the rules of JSON is read back from its text, in
every layout that puts only blanks between its parts.
-/

namespace Countersign
namespace Json

open Lexer Writer

/-- A document without broken parts whose numerals keep the rules of JSON. -/
inductive Document.IsSpelled : Document → Prop
  | null : IsSpelled .null
  | bool (value : Bool) : IsSpelled (.bool value)
  | number {numeral : Numeral} (spelled : numeral.IsSpelled) : IsSpelled (.number numeral)
  | string (text : String) : IsSpelled (.string text)
  | array {elements : List Document} (spelled : ∀ element ∈ elements, IsSpelled element) :
    IsSpelled (.array elements)
  | object {members : Members} (spelled : ∀ member ∈ members, IsSpelled member.2) :
    IsSpelled (.object members)

/-- Characters that are all blank. -/
def AllBlank (blanks : List Char) : Prop :=
  ∀ character ∈ blanks, isBlank character = true

/-- A layout that puts only blanks between the parts of a document. -/
structure Writer.Layout.IsBlank (layout : Layout) : Prop where
  /-- Line breaks are blank. -/
  lineBreak : ∀ depth, AllBlank (layout.lineBreak depth)
  /-- Only blanks follow a colon. -/
  colon : ∃ blanks, layout.colon = ':' :: blanks ∧ AllBlank blanks

theorem Writer.Layout.isBlank_compact : Layout.compact.IsBlank :=
  ⟨fun _ _ member => (nomatch member), [], rfl, fun _ member => nomatch member⟩

theorem Writer.Layout.isBlank_indented : Layout.indented.IsBlank := by
  refine ⟨fun depth character member => ?_, [' '], rfl, fun character member => ?_⟩
  · rcases List.mem_cons.mp member with rfl | blank
    · rfl
    · rw [List.eq_of_mem_replicate blank]
      rfl
  · rw [List.mem_singleton.mp member]
    rfl

namespace Lexer

theorem skipBlanks_cons {character : Char} (solid : isBlank character = false) (rest : Source) :
    skipBlanks (some character :: rest) = some character :: rest := by
  rw [skipBlanks, solid]
  rfl

theorem skipBlanks_append {blanks : List Char} (blank : AllBlank blanks) (source : Source) :
    skipBlanks (blanks.map some ++ source) = skipBlanks source := by
  induction blanks with
  | nil => rfl
  | cons first more ih =>
    rw [List.map_cons, List.cons_append, skipBlanks, if_pos (blank first List.mem_cons_self)]
    exact ih fun character member => blank character (List.mem_cons_of_mem first member)

private theorem endsNumeral_cons {character : Char} {rest : Source}
    (other : Digit.ofChar? character = none ∧ character ≠ '.' ∧ character ≠ 'e' ∧ character ≠ 'E' ∧
      character ≠ '-') : Source.EndsNumeral (some character :: rest) := by
  intro _ _ split
  cases split
  exact other

private theorem endsNumeral_blanks {blanks : List Char} (blank : AllBlank blanks) {source : Source}
    (ends : source.EndsNumeral) : Source.EndsNumeral (blanks.map some ++ source) := by
  cases blanks with
  | nil => exact ends
  | cons first more =>
    have first_blank := blank first List.mem_cons_self
    simp only [isBlank, Bool.or_eq_true, decide_eq_true_eq] at first_blank
    apply endsNumeral_cons
    rcases first_blank with ((rfl | rfl) | rfl) | rfl <;> decide

end Lexer

namespace Reader

variable {layout : Layout}

theorem document_append_blanks {blanks : List Char} (blank : AllBlank blanks) (fuel : Nat)
    (source : Source) : document fuel (blanks.map some ++ source) = document fuel source := by
  cases fuel with
  | zero => rfl
  | succ fuel => rw [document, document, skipBlanks_append blank]

theorem elements_append_blanks {blanks : List Char} (blank : AllBlank blanks) (fuel : Nat)
    (source : Source) : elements fuel (blanks.map some ++ source) = elements fuel source := by
  cases fuel with
  | zero => rfl
  | succ fuel => rw [elements, elements, document_append_blanks blank]

theorem members_append_blanks {blanks : List Char} (blank : AllBlank blanks) (fuel : Nat)
    (source : Source) : members fuel (blanks.map some ++ source) = members fuel source := by
  cases fuel with
  | zero => rfl
  | succ fuel => rw [members, members, skipBlanks_append blank]

private theorem toChar_solid (digit : Digit) : isBlank digit.toChar = false := by
  decide +revert

private theorem toChar_ne_bracket (digit : Digit) : digit.toChar ≠ ']' := by
  decide +revert

/-- The first character of a document. -/
theorem exists_chars_eq_cons {part : Document} (spelled : part.IsSpelled) (depth : Nat) :
    ∃ first more, chars layout depth part = first :: more ∧ isBlank first = false ∧
      first ≠ ']' := by
  cases spelled with
  | null => exact ⟨'n', _, rfl, rfl, by decide⟩
  | bool value => cases value <;> exact ⟨_, _, rfl, rfl, by decide⟩
  | number spelled =>
    obtain ⟨first, more, split, sign | ⟨digit, rfl⟩⟩ := spelled.exists_toChars_eq_cons
    · exact ⟨first, more, split, by rw [sign]; rfl, by rw [sign]; decide⟩
    · exact ⟨_, more, split, toChar_solid digit, toChar_ne_bracket digit⟩
  | string text => exact ⟨'"', _, rfl, rfl, by decide⟩
  | @array elements _ =>
    cases elements with
    | nil => exact ⟨'[', _, rfl, rfl, by decide⟩
    | cons first rest => exact ⟨'[', _, rfl, rfl, by decide⟩
  | @object members _ =>
    cases members with
    | nil => exact ⟨'\x7b', _, rfl, rfl, by decide⟩
    | cons first rest => exact ⟨'\x7b', _, rfl, rfl, by decide⟩

private theorem document_of_numeral {first : Char}
    (starts : first = '-' ∨ ∃ digit : Digit, first = digit.toChar) (fuel : Nat) (rest : Source) :
    document (fuel + 1) (some first :: rest) = number (some first :: rest) := by
  rcases starts with rfl | ⟨digit, rfl⟩
  · rfl
  · obtain ⟨value, small⟩ := digit
    interval_cases value <;> rfl

/-- A document is read back from its characters, whatever follows them, if the fuel is enough for
all parts of that many characters. -/
def ReadsBack (layout : Layout) (part : Document) : Prop :=
  ∀ depth fuel (rest : Source), rest.EndsNumeral → 2 * (chars layout depth part).length ≤ fuel →
    document fuel ((chars layout depth part).map some ++ rest) = ⟨part, some rest⟩

theorem readsBack_number {numeral : Numeral} (spelled : numeral.IsSpelled) :
    ReadsBack layout (.number numeral) := by
  intro depth fuel rest ends enough
  obtain ⟨first, more, split, starts⟩ := spelled.exists_toChars_eq_cons
  rw [chars] at enough ⊢
  cases fuel with
  | zero => simp [split] at enough
  | succ fuel =>
    have read := (readNumeral_eq_some_iff ends).mpr ⟨spelled, rfl, rfl⟩
    rw [split, List.map_cons, List.cons_append, document_of_numeral starts, number]
    rw [split, List.map_cons, List.cons_append] at read
    rw [read]

theorem readsBack_string (text : String) : ReadsBack layout (.string text) := by
  intro depth fuel rest ends enough
  cases fuel with
  | zero => simp [chars, quoted] at enough
  | succ fuel =>
    have read := readString_quoted text rest
    simp only [chars, quoted, List.cons_append, List.map_cons, List.map_append, List.map_nil,
      List.append_assoc, List.nil_append]
    rw [document, skipBlanks_cons rfl]
    simp only [Reader.string, read]

private theorem elementChars_endsNumeral (blank : layout.IsBlank) (depth : Nat)
    (rest : List Document) (source : Source) :
    Source.EndsNumeral ((elementChars layout depth rest).map some ++ source) := by
  cases rest with
  | nil =>
    rw [elementChars, List.map_append, List.append_assoc]
    exact endsNumeral_blanks (blank.lineBreak depth) (endsNumeral_cons (by decide))
  | cons element rest => exact endsNumeral_cons (by decide)

theorem elements_last {fuel : Nat} {source rest after : Source} {first : Document}
    (read : document fuel source = ⟨first, some rest⟩)
    (closed : skipBlanks rest = some ']' :: after) :
    elements (fuel + 1) source = ⟨[first], some after⟩ := by
  rw [elements, read]
  dsimp only
  rw [closed]
  rfl

theorem elements_next {fuel : Nat} {source rest after : Source} {first : Document}
    {more : Reading (List Document)} (read : document fuel source = ⟨first, some rest⟩)
    (separated : skipBlanks rest = some ',' :: after) (more_read : elements fuel after = more) :
    elements (fuel + 1) source = ⟨first :: more.part, more.rest⟩ := by
  rw [elements, read]
  dsimp only
  rw [separated, ← more_read]
  rfl

theorem elements_readBack (blank : layout.IsBlank) {first : Document} {rest : List Document}
    (first_reads : ReadsBack layout first)
    (rest_read : ∀ element ∈ rest, ReadsBack layout element) (depth fuel : Nat) (source : Source)
    (enough : 2 * ((chars layout (depth + 1) first).length +
      (elementChars layout depth rest).length) + 1 ≤ fuel) :
    elements fuel ((chars layout (depth + 1) first).map some ++
      ((elementChars layout depth rest).map some ++ source)) = ⟨first :: rest, some source⟩ := by
  induction rest generalizing first fuel with
  | nil =>
    cases fuel with
    | zero => omega
    | succ fuel =>
      have read := first_reads (depth + 1) fuel _
        (elementChars_endsNumeral blank depth [] source) (by omega)
      apply elements_last read
      rw [elementChars, List.map_append, List.append_assoc,
        skipBlanks_append (blank.lineBreak depth)]
      rfl
  | cons second rest ih =>
    cases fuel with
    | zero => omega
    | succ fuel =>
      have read := first_reads (depth + 1) fuel _
        (elementChars_endsNumeral blank depth (second :: rest) source) (by omega)
      simp only [elementChars, List.cons_append, List.length_cons, List.length_append] at enough
      have more := ih (rest_read second List.mem_cons_self)
        (fun element member => rest_read element (List.mem_cons_of_mem second member)) fuel
        (by omega)
      rw [← elements_append_blanks (blank.lineBreak (depth + 1))] at more
      refine elements_next read ?_ more
      simp only [elementChars, List.cons_append, List.map_cons, List.map_append, List.append_assoc]
      rfl

theorem document_array {fuel : Nat} {source inside : Source} {head : Char}
    {reading : Reading (List Document)} (skipped : skipBlanks source = some head :: inside)
    (not_closing : head ≠ ']') (read : elements fuel (some head :: inside) = reading) :
    document (fuel + 1) (some '[' :: source) = ⟨.array reading.part, reading.rest⟩ := by
  rw [document, skipBlanks_cons rfl]
  simp only [skipped, ← read]
  split
  · rename_i same
    cases same
    exact absurd rfl not_closing
  · rfl

theorem document_object {fuel : Nat} {source inside : Source} {head : Char}
    {reading : Reading Members} (skipped : skipBlanks source = some head :: inside)
    (not_closing : head ≠ '\x7d') (read : members fuel (some head :: inside) = reading) :
    document (fuel + 1) (some '\x7b' :: source) = ⟨.object reading.part, reading.rest⟩ := by
  rw [document, skipBlanks_cons rfl]
  simp only [skipped, ← read]
  split
  · rename_i same
    cases same
    exact absurd rfl not_closing
  · rfl

theorem readsBack_array (blank : layout.IsBlank) {parts : List Document}
    (spelled : ∀ element ∈ parts, element.IsSpelled)
    (parts_read : ∀ element ∈ parts, ReadsBack layout element) :
    ReadsBack layout (.array parts) := by
  intro depth fuel rest ends enough
  cases fuel with
  | zero => cases parts <;> simp [chars] at enough
  | succ fuel =>
    cases parts with
    | nil => rfl
    | cons first more =>
      simp only [chars, List.cons_append, List.length_cons, List.length_append] at enough
      have inside_read := elements_readBack blank (parts_read first List.mem_cons_self)
        (fun element member => parts_read element (List.mem_cons_of_mem first member)) depth fuel
        rest (by omega)
      obtain ⟨head, tail, split, solid, not_closing⟩ :=
        @exists_chars_eq_cons layout first (spelled first List.mem_cons_self) (depth + 1)
      simp only [chars, List.cons_append, List.map_cons, List.map_append, List.append_assoc]
      rw [split, List.map_cons, List.cons_append] at inside_read ⊢
      refine document_array ?_ not_closing inside_read
      rw [skipBlanks_append (blank.lineBreak (depth + 1)), skipBlanks_cons solid]

section Member

variable {fuel : Nat} {source nameSource afterName valueSource rest after : Source}
  {name : Option String} {value : Document}

theorem members_of_last (opened : skipBlanks source = some '"' :: nameSource)
    (name_read : readString nameSource = some (name, afterName))
    (colon : skipBlanks afterName = some ':' :: valueSource)
    (read : document fuel valueSource = ⟨value, some rest⟩)
    (closed : skipBlanks rest = some '\x7d' :: after) :
    members (fuel + 1) source = ⟨[member name value], some after⟩ := by
  rw [members, opened]
  simp only [name_read, colon, read, closed]

theorem members_of_next (opened : skipBlanks source = some '"' :: nameSource)
    (name_read : readString nameSource = some (name, afterName))
    (colon : skipBlanks afterName = some ':' :: valueSource)
    (read : document fuel valueSource = ⟨value, some rest⟩)
    (separated : skipBlanks rest = some ',' :: after) {more : Reading Members}
    (more_read : members fuel after = more) :
    members (fuel + 1) source = ⟨member name value :: more.part, more.rest⟩ := by
  rw [members, opened]
  simp only [name_read, colon, read, separated, more_read]

end Member

theorem members_last (blank : layout.IsBlank) (name : String) {fuel : Nat}
    {source rest after : Source} {value : Document}
    (read : document fuel source = ⟨value, some rest⟩)
    (closed : skipBlanks rest = some '\x7d' :: after) :
    members (fuel + 1) ((quoted name).map some ++ (layout.colon.map some ++ source)) =
      ⟨[(name, value)], some after⟩ := by
  obtain ⟨blanks, colon_eq, blanks_blank⟩ := blank.colon
  simp only [quoted, colon_eq, List.cons_append, List.map_cons, List.map_append, List.map_nil,
    List.append_assoc, List.nil_append]
  exact members_of_last (skipBlanks_cons rfl _) (readString_quoted name _) (skipBlanks_cons rfl _)
    ((document_append_blanks blanks_blank fuel source).trans read) closed

theorem members_next (blank : layout.IsBlank) (name : String) {fuel : Nat}
    {source rest after : Source} {value : Document} {more : Reading Members}
    (read : document fuel source = ⟨value, some rest⟩)
    (separated : skipBlanks rest = some ',' :: after) (more_read : members fuel after = more) :
    members (fuel + 1) ((quoted name).map some ++ (layout.colon.map some ++ source)) =
      ⟨(name, value) :: more.part, more.rest⟩ := by
  obtain ⟨blanks, colon_eq, blanks_blank⟩ := blank.colon
  simp only [quoted, colon_eq, List.cons_append, List.map_cons, List.map_append, List.map_nil,
    List.append_assoc, List.nil_append]
  exact members_of_next (skipBlanks_cons rfl _) (readString_quoted name _) (skipBlanks_cons rfl _)
    ((document_append_blanks blanks_blank fuel source).trans read) separated more_read

private theorem memberChars_endsNumeral (blank : layout.IsBlank) (depth : Nat) (rest : Members)
    (source : Source) :
    Source.EndsNumeral ((memberChars layout depth rest).map some ++ source) := by
  cases rest with
  | nil =>
    rw [memberChars, List.map_append, List.append_assoc]
    exact endsNumeral_blanks (blank.lineBreak depth) (endsNumeral_cons (by decide))
  | cons member rest => exact endsNumeral_cons (by decide)

theorem members_readBack (blank : layout.IsBlank) {first : String × Document} {rest : Members}
    (first_reads : ReadsBack layout first.2)
    (rest_read : ∀ member ∈ rest, ReadsBack layout member.2) (depth fuel : Nat) (source : Source)
    (enough : 2 * ((quoted first.1).length + (chars layout (depth + 1) first.2).length +
      (memberChars layout depth rest).length) + 1 ≤ fuel) :
    members fuel ((quoted first.1).map some ++ (layout.colon.map some ++
      ((chars layout (depth + 1) first.2).map some ++
        ((memberChars layout depth rest).map some ++ source)))) = ⟨first :: rest, some source⟩ := by
  induction rest generalizing first fuel with
  | nil =>
    cases fuel with
    | zero => omega
    | succ fuel =>
      have read := first_reads (depth + 1) fuel _
        (memberChars_endsNumeral blank depth [] source) (by omega)
      apply members_last blank first.1 read
      rw [memberChars, List.map_append, List.append_assoc,
        skipBlanks_append (blank.lineBreak depth)]
      rfl
  | cons second rest ih =>
    cases fuel with
    | zero => omega
    | succ fuel =>
      obtain ⟨name, value⟩ := second
      have read := first_reads (depth + 1) fuel _
        (memberChars_endsNumeral blank depth ((name, value) :: rest) source) (by omega)
      simp only [memberChars, List.cons_append, List.length_cons, List.length_append] at enough
      have more := @ih (name, value) (rest_read _ List.mem_cons_self)
        (fun member listed => rest_read member (List.mem_cons_of_mem _ listed)) fuel
        (by dsimp only; omega)
      rw [← members_append_blanks (blank.lineBreak (depth + 1))] at more
      refine members_next blank first.1 read ?_ more
      simp only [memberChars, List.cons_append, List.map_cons, List.map_append, List.append_assoc]
      rfl

theorem readsBack_object (blank : layout.IsBlank) {parts : Members}
    (parts_read : ∀ member ∈ parts, ReadsBack layout member.2) :
    ReadsBack layout (.object parts) := by
  intro depth fuel rest ends enough
  cases fuel with
  | zero =>
    cases parts with
    | nil => simp [chars] at enough
    | cons first more => simp [chars] at enough
  | succ fuel =>
    cases parts with
    | nil => rfl
    | cons first more =>
      obtain ⟨name, value⟩ := first
      simp only [chars, List.cons_append, List.length_cons, List.length_append] at enough
      have inside_read := @members_readBack layout blank (name, value) more
        (parts_read _ List.mem_cons_self)
        (fun member listed => parts_read member (List.mem_cons_of_mem _ listed)) depth fuel rest
        (by dsimp only; omega)
      simp only [chars, List.cons_append, List.map_cons, List.map_append, List.append_assoc]
      refine document_object ?_ (by decide) inside_read
      rw [skipBlanks_append (blank.lineBreak (depth + 1))]
      exact skipBlanks_cons rfl _

theorem readsBack_of_isSpelled (blank : layout.IsBlank) {part : Document}
    (spelled : part.IsSpelled) : ReadsBack layout part := by
  induction spelled with
  | null =>
    intro depth fuel rest ends enough
    cases fuel with
    | zero => simp [chars] at enough
    | succ fuel => rfl
  | bool value =>
    intro depth fuel rest ends enough
    cases fuel with
    | zero => cases value <;> simp [chars] at enough
    | succ fuel => cases value <;> rfl
  | number spelled => exact readsBack_number spelled
  | string text => exact readsBack_string text
  | array spelled ih => exact readsBack_array blank spelled ih
  | object spelled ih => exact readsBack_object blank ih

/-- Whether or not it keeps the rules of JSON, a numeral is read as one or not at all. -/
private theorem document_toChars (numeral : Numeral) (fuel : Nat) :
    document (fuel + 1) (numeral.toChars.map some) = number (numeral.toChars.map some) ∨
      document (fuel + 1) (numeral.toChars.map some) = stop := by
  obtain ⟨negative, whole, fraction, exponent⟩ := numeral
  cases negative with
  | true => exact .inl (document_of_numeral (.inl rfl) fuel _)
  | false =>
    cases whole with
    | cons first more => exact .inl (document_of_numeral (.inr ⟨first, rfl⟩) fuel _)
    | nil =>
      cases fraction with
      | some digits => exact .inr rfl
      | none => cases exponent <;> exact .inr rfl

end Reader

/-- A numeral that is read as a numeral keeps the rules of JSON and is read as itself. -/
theorem Text.isSpelled_of_read {numeral found : Numeral}
    (read : (Text.read (Document.number numeral).compact).document = .number found) :
    numeral.IsSpelled ∧ found = numeral := by
  rw [Document.compact, chars] at read
  simp only [Text.read, Source.ofText, String.toList_ofList, Text.ofSource] at read
  rcases Reader.document_toChars numeral (2 * (numeral.toChars.map some).length + 1) with
    same | same
  · rw [same, Reader.number] at read
    split at read
    · rename_i numeral_read
      have nothing_follows : Source.EndsNumeral [] := fun _ _ split => nomatch split
      rw [← List.append_nil (numeral.toChars.map some)] at numeral_read
      obtain ⟨spelled, rfl, -⟩ := (readNumeral_eq_some_iff nothing_follows).mp numeral_read
      cases read
      exact ⟨spelled, rfl⟩
    · cases read
  · rw [same] at read
    cases read

theorem Text.read_ofList_chars {layout : Layout} (blank : layout.IsBlank) {part : Document}
    (spelled : part.IsSpelled) :
    Text.read (String.ofList (chars layout 0 part)) = ⟨part, true⟩ := by
  have read := Reader.readsBack_of_isSpelled blank spelled 0
    (2 * ((chars layout 0 part).map some).length + 2) [] (fun _ _ split => nomatch split)
    (by rw [List.length_map]; omega)
  rw [List.append_nil] at read
  simp only [Text.read, Source.ofText, String.toList_ofList, Text.ofSource, read]
  rfl

/-- The compact text of a document is read as that document. -/
theorem Text.read_compact {part : Document} (spelled : part.IsSpelled) :
    Text.read part.compact = ⟨part, true⟩ :=
  Text.read_ofList_chars Layout.isBlank_compact spelled

/-- The indented text of a document is read as that document. -/
theorem Text.read_indented {part : Document} (spelled : part.IsSpelled) :
    Text.read part.indented = ⟨part, true⟩ :=
  Text.read_ofList_chars Layout.isBlank_indented spelled

end Json
end Countersign
