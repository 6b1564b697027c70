/-
**Pairing the items of two versions.**

An item of the old version is paired with the first item of the new version that has its id. The
old items that are left over then claim, one after the other, the first new item that has their
name, up to the case of ASCII letters, and that no other item has claimed.
-/

import SchemaCompiler.Text.Case

namespace SchemaCompiler.Pairing

variable {α : Type}

/-- The place of the first new item with the id of each old item. -/
def byId (identity : α → String) (old new : List α) : List (Option Nat) :=
  old.map fun item => new.findIdx? fun other => identity other == identity item

/-- The first place, among those that nobody has claimed, of an item with a name. -/
def freePlace? (name : α → String) (new : List α) (claimed : List Nat) (wanted : String) :
    Option Nat :=
  (new.zipIdx.find? fun (other, place) =>
    !claimed.contains place && Text.sameName (name other) wanted).map (·.2)

/-- The places of items some of which have a place already; the others claim one by name. -/
def claimByName (name : α → String) (new : List α) : List Nat → List (α × Option Nat) →
    List (Option Nat)
  | _, [] => []
  | claimed, (_, some place) :: rest => some place :: claimByName name new claimed rest
  | claimed, (item, none) :: rest =>
    match freePlace? name new claimed (name item) with
    | some place => some place :: claimByName name new (place :: claimed) rest
    | none => none :: claimByName name new claimed rest

/-- The place of the partner of each old item among the new ones. -/
def partners (identity name : α → String) (old new : List α) : List (Option Nat) :=
  let places := byId identity old new
  claimByName name new (places.filterMap fun place => place) (old.zip places)

/-- The new items that are nobody's partner. -/
def added (places : List (Option Nat)) (new : List α) : List α :=
  (new.zipIdx.filter fun (_, place) => !places.contains (some place)).map (·.1)

/-- The old items without a partner. -/
def removed (old : List α) (places : List (Option Nat)) : List α :=
  ((old.zip places).filter fun (_, place) => place.isNone).map (·.1)

/-- The old items with their partners. -/
def pairs (old : List α) (places : List (Option Nat)) (new : List α) : List (α × α) :=
  (old.zip places).filterMap fun (item, place) => do
    let other ← new[← place]?
    return (item, other)

end SchemaCompiler.Pairing
