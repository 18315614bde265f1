import Countersign.Json.Lexer
import Countersign.Json.Writer

/-!
# Strings are read back

What is written between quotes is read as the same text, whatever characters it has: escapes denote
the characters they stand for, and every other character stands for itself.
-/

namespace Countersign
namespace Json

open Lexer

namespace Lexer

theorem readPieces_plain (collected : List Piece) {character : Char}
    (no_quote : character ≠ '"') (no_backslash : character ≠ '\\')
    (no_control : ¬ character.toNat < 0x20) (rest : Source) :
    readPieces collected (some character :: rest) =
      readPieces (.character character :: collected) rest := by
  rw [readPieces.eq_def]
  split
  case h_6 =>
    rename_i same
    cases same
    rw [if_neg (not_or.mpr ⟨no_backslash, no_control⟩)]
  all_goals simp_all

end Lexer

namespace Writer

/-- The piece that a written character is read as. -/
def piece (character : Char) : Piece :=
  if character.toNat < 0x20 ∧ character ∉ ['\x08', '\x0c', '\n', '\r', '\t'] then
    .unit character.toNat
  else .character character

private theorem hexValue?_digitChar {value : Nat} (below : value < 16) :
    hexValue? (Nat.digitChar value) = some value := by
  have all : ∀ small : Fin 16, hexValue? (Nat.digitChar small.val) = some small.val := by decide
  exact all ⟨value, below⟩

private theorem codeUnit?_digitChar {value : Nat} (below : value < 0x20) :
    codeUnit? '0' '0' (Nat.digitChar (value / 16)) (Nat.digitChar (value % 16)) = some value := by
  have zero : hexValue? '0' = some 0 := rfl
  simp only [codeUnit?, zero, hexValue?_digitChar (show value / 16 < 16 by omega),
    hexValue?_digitChar (show value % 16 < 16 by omega), Option.bind_eq_bind, Option.bind_some]
  congr 1
  omega

theorem readPieces_escape (collected : List Piece) (character : Char) (rest : Source) :
    readPieces collected ((escape character).map some ++ rest) =
      readPieces (piece character :: collected) rest := by
  unfold escape
  split
  · subst_vars
    rfl
  split
  · subst_vars
    rfl
  split
  · subst_vars
    rfl
  split
  · subst_vars
    rfl
  split
  · subst_vars
    rfl
  split
  · subst_vars
    rfl
  split
  · subst_vars
    rfl
  split
  · rename_i control
    simp only [List.map_cons, List.map_nil, List.cons_append, List.nil_append]
    rw [readPieces, codeUnit?_digitChar control, piece, if_pos ⟨control, by simp [*]⟩]
  · rename_i no_quote no_backslash _ _ _ _ _ no_control
    rw [List.map_singleton, List.singleton_append, piece, if_neg (fun low => no_control low.1)]
    exact readPieces_plain collected no_quote no_backslash no_control rest

theorem readPieces_flatMap (collected : List Piece) (characters : List Char) (rest : Source) :
    readPieces collected ((characters.flatMap escape).map some ++ some '"' :: rest) =
      some (collected.reverse ++ characters.map piece, rest) := by
  induction characters generalizing collected with
  | nil => simp [readPieces]
  | cons character more ih =>
    rw [List.flatMap_cons, List.map_append, List.append_assoc, readPieces_escape, ih]
    simp

private theorem denote?_unit {unit : Nat} (below : unit < 0x20) (rest : List Piece) :
    denote? (.unit unit :: rest) = (denote? rest).map (Char.ofNat unit :: ·) := by
  rw [denote?.eq_def]
  split
  case h_4 =>
    rename_i same
    cases same
    rw [if_neg (by omega), if_neg (by omega)]
  case h_5 =>
    rename_i same
    cases same
    rw [if_neg (by omega)]
  all_goals simp_all

theorem denote?_map_piece (characters : List Char) :
    denote? (characters.map piece) = some characters := by
  induction characters with
  | nil => rfl
  | cons character more ih =>
    rw [List.map_cons]
    by_cases control : character.toNat < 0x20 ∧ character ∉ ['\x08', '\x0c', '\n', '\r', '\t']
    · rw [piece, if_pos control, denote?_unit control.1, ih, Char.ofNat_toNat, Option.map_some]
    · rw [piece, if_neg control, denote?, ih, Option.map_some]

theorem readString_quoted (text : String) (rest : Source) :
    readString ((text.toList.flatMap escape).map some ++ some '"' :: rest) =
      some (some text, rest) := by
  rw [readString, readPieces_flatMap, List.reverse_nil, List.nil_append, Option.map_some]
  dsimp only
  rw [denote?_map_piece, Option.map_some, String.ofList_toList]

end Writer
end Json
end Countersign
