/-
**Dictionaries in key order.**

A dictionary keeps one value for each of its keys, and its entries stand in increasing order of
the keys, so two dictionaries with the same values are the same:

* `Entries.increasing_insert`, `Entries.increasing_inOrder` — writing values keeps the keys in order.
* `Entries.inOrder_of_increasing` — entries that are in order stay as they are.
* `Dictionary.mem_keys_iff`, `Dictionary.nodup_keys` — the keys are those with a value, each once.
-/

namespace SchemaCompiler

namespace Entries

variable {α : Type}

/-- Entries whose keys increase strictly. -/
def Increasing (entries : List (String × α)) : Prop :=
  entries.Pairwise fun a b => a.1 < b.1

/-- Put a value under a key into entries in key order. -/
def insert (key : String) (value : α) : List (String × α) → List (String × α)
  | [] => [(key, value)]
  | (first, old) :: rest =>
    if key < first then (key, value) :: (first, old) :: rest
    else if key = first then (key, value) :: rest
    else (first, old) :: insert key value rest

/-- Entries in key order, of which the last one with a key stays. -/
def inOrder (entries : List (String × α)) : List (String × α) :=
  entries.foldl (fun kept entry => insert entry.1 entry.2 kept) []

/-- The first value under a key. -/
def find? (key : String) (entries : List (String × α)) : Option α :=
  (entries.find? (·.1 = key)).map (·.2)

theorem lt_of_not_lt_of_ne {a b : String} (notLess : ¬ a < b) (distinct : a ≠ b) : b < a := by
  rcases Classical.em (b < a) with less | notGreater
  · exact less
  · exact absurd (String.le_antisymm (String.not_lt.mp notGreater) (String.not_lt.mp notLess))
      distinct

theorem mem_insert {key : String} {value : α} {entries : List (String × α)} {entry : String × α}
    (member : entry ∈ insert key value entries) : entry = (key, value) ∨ entry ∈ entries := by
  induction entries with
  | nil => simpa [insert] using member
  | cons head rest ih =>
    obtain ⟨first, old⟩ := head
    simp only [insert] at member
    split at member
    · simpa using member
    · split at member
      · rcases List.mem_cons.mp member with isNew | inRest
        · exact .inl isNew
        · exact .inr (List.mem_cons_of_mem _ inRest)
      · rcases List.mem_cons.mp member with isHead | inRest
        · exact .inr (isHead ▸ List.mem_cons_self)
        · rcases ih inRest with isNew | older
          · exact .inl isNew
          · exact .inr (List.mem_cons_of_mem _ older)

theorem increasing_insert {key : String} {value : α} {entries : List (String × α)}
    (increasing : Increasing entries) : Increasing (insert key value entries) := by
  induction entries with
  | nil => simp [insert, Increasing]
  | cons head rest ih =>
    obtain ⟨first, old⟩ := head
    obtain ⟨headLess, restIncreasing⟩ := List.pairwise_cons.mp increasing
    simp only [insert]
    split
    · rename_i less
      refine List.pairwise_cons.mpr ⟨?_, increasing⟩
      intro entry member
      rcases List.mem_cons.mp member with isHead | inRest
      · exact isHead ▸ less
      · exact String.lt_trans less (headLess entry inRest)
    · rename_i notLess
      split
      · rename_i same
        exact List.pairwise_cons.mpr ⟨fun entry inRest => same ▸ headLess entry inRest,
          restIncreasing⟩
      · rename_i distinct
        refine List.pairwise_cons.mpr ⟨?_, ih restIncreasing⟩
        intro entry member
        rcases mem_insert member with isNew | older
        · exact isNew ▸ lt_of_not_lt_of_ne notLess distinct
        · exact headLess entry older

theorem increasing_foldl_insert (added entries : List (String × α))
    (increasing : Increasing entries) :
    Increasing (added.foldl (fun kept entry => insert entry.1 entry.2 kept) entries) := by
  induction added generalizing entries with
  | nil => exact increasing
  | cons head rest ih => exact ih _ (increasing_insert increasing)

theorem increasing_inOrder (entries : List (String × α)) : Increasing (inOrder entries) :=
  increasing_foldl_insert entries [] List.Pairwise.nil

theorem insert_of_all_less {key : String} {value : α} {entries : List (String × α)}
    (less : ∀ entry ∈ entries, entry.1 < key) :
    insert key value entries = entries ++ [(key, value)] := by
  induction entries with
  | nil => rfl
  | cons head rest ih =>
    obtain ⟨first, old⟩ := head
    have headLess : first < key := less (first, old) List.mem_cons_self
    have distinct : key ≠ first := fun same => String.lt_irrefl _ (same ▸ headLess)
    have notLess : ¬ key < first := fun back => String.lt_irrefl _ (String.lt_trans back headLess)
    simp [insert, notLess, distinct,
      ih fun entry inRest => less entry (List.mem_cons_of_mem _ inRest)]

theorem foldl_insert_of_increasing (kept entries : List (String × α))
    (increasing : Increasing (kept ++ entries)) :
    entries.foldl (fun kept entry => insert entry.1 entry.2 kept) kept = kept ++ entries := by
  induction entries generalizing kept with
  | nil => simp
  | cons head rest ih =>
    have less : ∀ entry ∈ kept, entry.1 < head.1 := fun entry inKept =>
      (List.pairwise_append.mp increasing).2.2 entry inKept head List.mem_cons_self
    rw [List.foldl_cons, insert_of_all_less less]
    rw [ih (kept ++ [head]) (by simpa using increasing)]
    simp

theorem inOrder_of_increasing {entries : List (String × α)} (increasing : Increasing entries) :
    inOrder entries = entries := by
  simpa [inOrder] using foldl_insert_of_increasing [] entries (by simpa using increasing)

end Entries

/-- A value for each of finitely many keys. -/
structure Dictionary (α : Type) where
  entries : List (String × α)
  increasing : Entries.Increasing entries

namespace Dictionary

variable {α : Type}

theorem ext {a b : Dictionary α} (same : a.entries = b.entries) : a = b := by
  cases a
  cases b
  simpa using same

instance [DecidableEq α] : DecidableEq (Dictionary α) := fun a b =>
  decidable_of_iff (a.entries = b.entries) ⟨ext, fun same => same ▸ rfl⟩

/-- The dictionary without entries. -/
def empty : Dictionary α :=
  ⟨[], List.Pairwise.nil⟩

instance : Inhabited (Dictionary α) := ⟨empty⟩

/-- A dictionary with the value under the key replaced. -/
def insert (key : String) (value : α) (d : Dictionary α) : Dictionary α :=
  ⟨Entries.insert key value d.entries, Entries.increasing_insert d.increasing⟩

/-- The value under a key. -/
def find? (key : String) (d : Dictionary α) : Option α :=
  Entries.find? key d.entries

/-- Whether there is a value under a key. -/
def contains (key : String) (d : Dictionary α) : Bool :=
  (d.find? key).isSome

/-- The keys in increasing order. -/
def keys (d : Dictionary α) : List String :=
  d.entries.map (·.1)

/-- The dictionary of a list of entries, of which the last one with a key counts. -/
def ofList (entries : List (String × α)) : Dictionary α :=
  ⟨Entries.inOrder entries, Entries.increasing_inOrder entries⟩

theorem mem_keys_iff {key : String} {d : Dictionary α} : key ∈ d.keys ↔ d.contains key = true := by
  simp [keys, contains, find?, Entries.find?]

theorem nodup_keys (d : Dictionary α) : d.keys.Nodup := by
  refine List.pairwise_map.mpr (d.increasing.imp fun {first second} less => ?_)
  intro same
  rw [same] at less
  exact String.lt_irrefl _ less

end Dictionary

end SchemaCompiler
