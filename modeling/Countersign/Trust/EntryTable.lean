/-!
# Tables of entries

Entries are found by identifiers that are computed from them.  A table stores the position of every
identifier beside its entries, and can only be built when no identifier stands for two of them.
-/

namespace Countersign

/-- The positions of entries by their identifiers. -/
abbrev EntryIndex := List (String × Nat)

namespace EntryIndex

/-- The position that is stored for an identifier. -/
def position? (index : EntryIndex) (id : String) : Option Nat :=
  index.lookup id

/-- Stores the positions of identifiers, of which the first stands at `position`; an identifier that
is stored already is given back as a repetition. -/
def extend (index : EntryIndex) (position : Nat) : List String → Except String EntryIndex
  | [] => .ok index
  | id :: rest =>
    match index.position? id with
    | some _ => .error id
    | none => extend ((id, position) :: index) (position + 1) rest

/-- The positions of identifiers in their list. -/
def ofIds (ids : List String) : Except String EntryIndex :=
  extend [] 0 ids

end EntryIndex

/-- Entries with the positions of their identifiers. -/
structure EntryTable {α : Type} (id : α → String) where
  /-- The entries in order. -/
  entries : List α
  /-- The positions of the identifiers. -/
  index : EntryIndex
  /-- The positions are those of the entries. -/
  index_eq : EntryIndex.ofIds (entries.map id) = .ok index
  deriving DecidableEq

namespace EntryTable

variable {α : Type} {id : α → String}

/-- The table of a list of entries; an identifier of two entries is given back instead. -/
def ofEntries (id : α → String) (entries : List α) : Except String (EntryTable id) :=
  match indexed : EntryIndex.ofIds (entries.map id) with
  | .ok index => .ok ⟨entries, index, indexed⟩
  | .error repeated => .error repeated

/-- The entry at the position that is stored for an identifier. -/
def find? (table : EntryTable id) (key : String) : Option α :=
  (table.index.position? key).bind fun position => table.entries[position]?

end EntryTable
end Countersign
