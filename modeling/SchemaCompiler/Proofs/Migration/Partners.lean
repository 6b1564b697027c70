/-
**Partners of items.**

Items of two versions are paired by their ids, and those that are left over by their names, where the
first one of a name claims the first free place of that name. When ids are distinct, this does not
favour a side: the items of a name that wait for a partner are paired first to first, second to
second, and so on.

* `getElem?_claimByName` — what an item claims: the free place of its name that has as many free
  places in front as the item has rivals in front.
* `partners_eq_some_iff` — partners share their id, or have the same number among the waiting items
  of their name.
* `inverse_partners` — the partners in one direction are those of the other, seen from behind.
* `added_eq_removed`, `perm_pairs` — what is added one way is removed the other way, and pairs are the
  same pairs turned round.
-/

import Mathlib.Algebra.GroupWithZero.Nat
import Mathlib.Data.List.Nodup
import Mathlib.Data.List.Sort
import SchemaCompiler.Migration.Pairing

namespace SchemaCompiler.Pairing

/-! ### Places of a list -/

section Places

variable {α β : Type}

/-- Some places in order: a place stands at the position that is the number of places in front. -/
theorem getElem?_filter_range {wanted : Nat → Bool} {size position place : Nat} :
    ((List.range size).filter wanted)[position]? = some place ↔
      place < size ∧ wanted place = true ∧ (List.range place).countP wanted = position := by
  have stands : ∀ {place}, place < size → wanted place = true →
      ((List.range size).filter wanted)[(List.range place).countP wanted]? = some place := by
    intro place inside isWanted
    obtain ⟨more, rfl⟩ : ∃ more, size = place + (more + 1) := ⟨size - place - 1, by omega⟩
    rw [List.range_add, List.filter_append, List.countP_eq_length_filter,
      List.getElem?_append_right (Nat.le_refl _)]
    simp [List.range_succ_eq_map, isWanted]
  constructor
  · intro found
    obtain ⟨inRange, isWanted⟩ := List.mem_filter.mp (List.mem_of_getElem? found)
    have inside := List.mem_range.mp inRange
    obtain ⟨isPosition, _⟩ := List.getElem?_eq_some_iff.mp found
    have same := (List.getElem?_inj isPosition (List.nodup_range.filter wanted)).mp
      (found.trans (stands inside isWanted).symm)
    exact ⟨inside, isWanted, same.symm⟩
  · rintro ⟨inside, isWanted, rfl⟩
    exact stands inside isWanted

theorem countP_take {items : List α} {wanted : α → Bool} {place : Nat} :
    (items.take place).countP wanted =
      (List.range place).countP fun before => items[before]?.any wanted := by
  induction place with
  | zero => rfl
  | succ place ih =>
    rw [List.take_add_one, List.range_succ, List.countP_append, List.countP_append, ih]
    cases atPlace : items[place]? <;> simp [List.countP_cons, atPlace]

theorem filterMap_eq_range (f : α → Option β) (items : List α) :
    items.filterMap f = (List.range items.length).filterMap fun place => items[place]?.bind f := by
  induction items with
  | nil => rfl
  | cons item rest ih =>
    rw [List.length_cons, List.range_succ_eq_map, List.filterMap_cons, List.filterMap_cons, ih,
      List.filterMap_map]
    rfl

end Places

/-! ### Claiming by name -/

section Claims

variable {α : Type} {name : α → String} {new : List α}

/-- The places, among those that nobody has claimed, of the items with a name. -/
def freePlaces (name : α → String) (new : List α) (claimed : List Nat) (wanted : String) : List Nat :=
  (new.zipIdx.filter fun (other, place) =>
    !claimed.contains place && Text.sameName (name other) wanted).map (·.2)

theorem freePlace?_eq_head? (claimed : List Nat) (wanted : String) :
    freePlace? name new claimed wanted = (freePlaces name new claimed wanted).head? := by
  rw [freePlace?, freePlaces, List.head?_map, List.head?_filter]

theorem mem_freePlaces_iff {claimed : List Nat} {wanted : String} {place : Nat} :
    place ∈ freePlaces name new claimed wanted ↔
      ∃ other, new[place]? = some other ∧ place ∉ claimed ∧
        Text.sameName (name other) wanted = true := by
  simp [freePlaces, List.mem_zipIdx_iff_getElem?]

theorem increasing_freePlaces (claimed : List Nat) (wanted : String) :
    (freePlaces name new claimed wanted).Pairwise (· < ·) := by
  refine List.Pairwise.sublist (List.filter_sublist.map _) ?_
  rw [List.zipIdx_map_snd]
  exact List.pairwise_lt_range'

/-- The first of some increasing places is not among the others. -/
theorem filter_ne_of_increasing {place : Nat} {others : List Nat}
    (increasing : (place :: others).Pairwise (· < ·)) :
    (place :: others).filter (· ≠ place) = others := by
  have greater := (List.pairwise_cons.mp increasing).1
  simp only [ne_eq, decide_not, List.filter_cons, decide_true, Bool.not_true, Bool.false_eq_true,
    if_false]
  refine List.filter_eq_self.mpr fun other member => ?_
  simpa using (Nat.ne_of_lt (greater other member)).symm

/-- Two names that want the same place differ in case alone. -/
theorem sameName_of_mem_freePlaces {claimed : List Nat} {wanted other : String} {place : Nat}
    (member : place ∈ freePlaces name new claimed wanted)
    (also : place ∈ freePlaces name new claimed other) : Text.sameName wanted other = true := by
  obtain ⟨item, atPlace, -, same⟩ := mem_freePlaces_iff.mp member
  obtain ⟨_, atPlaceToo, -, sameToo⟩ := mem_freePlaces_iff.mp also
  cases atPlace.symm.trans atPlaceToo
  simp only [Text.sameName, beq_iff_eq] at same sameToo ⊢
  exact same.symm.trans sameToo

/-- Names that differ in case alone want the same places. -/
theorem freePlaces_congr {claimed : List Nat} {wanted other : String}
    (same : Text.sameName wanted other = true) :
    freePlaces name new claimed wanted = freePlaces name new claimed other := by
  have alike : Text.lowerAscii wanted = Text.lowerAscii other := by simpa [Text.sameName] using same
  simp [freePlaces, Text.sameName, alike]

/-- A place that has been claimed is no longer free. -/
theorem freePlaces_cons (claimed : List Nat) (place : Nat) (wanted : String) :
    freePlaces name new (place :: claimed) wanted =
      (freePlaces name new claimed wanted).filter (· ≠ place) := by
  rw [freePlaces, freePlaces, List.filter_map, List.filter_filter]
  congr 2
  funext entry
  by_cases same : entry.2 = place <;> simp [same]

/-- When the first free place of a name is claimed, the others of the name move up. -/
theorem freePlaces_cons_of_sameName {claimed others : List Nat} {place : Nat} {rival wanted : String}
    (free : freePlaces name new claimed rival = place :: others)
    (same : Text.sameName rival wanted = true) :
    freePlaces name new (place :: claimed) wanted = others := by
  rw [freePlaces_cons, ← freePlaces_congr same, free]
  exact filter_ne_of_increasing (free ▸ increasing_freePlaces claimed rival)

/-- A place that is claimed for one name is not missed for another one. -/
theorem freePlaces_cons_of_not_sameName {claimed others : List Nat} {place : Nat}
    {rival wanted : String} (free : freePlaces name new claimed rival = place :: others)
    (differ : ¬ Text.sameName rival wanted = true) :
    freePlaces name new (place :: claimed) wanted = freePlaces name new claimed wanted := by
  have forRival : place ∈ freePlaces name new claimed rival := free ▸ List.mem_cons_self
  rw [freePlaces_cons]
  refine List.filter_eq_self.mpr fun other member => ?_
  have notIts : other ≠ place := fun same =>
    differ (sameName_of_mem_freePlaces forRival (same ▸ member))
  simpa using notIts

/-- An item claims a place for its name when it has none, and is then a rival of later ones. -/
def claims (name : α → String) (wanted : String) (entry : α × Option Nat) : Bool :=
  entry.2.isNone && Text.sameName (name entry.1) wanted

@[simp] theorem length_claimByName (claimed : List Nat) (entries : List (α × Option Nat)) :
    (claimByName name new claimed entries).length = entries.length := by
  induction claimed, entries using claimByName.induct name new with
  | case1 => rfl
  | case2 claimed _ place rest ih => simpa [claimByName] using ih
  | case3 claimed head rest place isFree ih => simpa [claimByName, isFree] using ih
  | case4 claimed head rest isFree ih => simpa [claimByName, isFree] using ih

/-- An item that has a place keeps it. -/
theorem getElem?_claimByName_some {claimed : List Nat} {entries : List (α × Option Nat)}
    {position place : Nat} {item : α} (found : entries[position]? = some (item, some place)) :
    (claimByName name new claimed entries)[position]? = some (some place) := by
  induction claimed, entries using claimByName.induct name new generalizing position with
  | case1 => simp at found
  | case2 claimed _ other rest ih =>
    cases position with
    | zero =>
      cases found
      rfl
    | succ position => simpa [claimByName] using ih found
  | case3 claimed head rest other isFree ih =>
    cases position with
    | zero => cases found
    | succ position => simpa [claimByName, isFree] using ih found
  | case4 claimed head rest isFree ih =>
    cases position with
    | zero => cases found
    | succ position => simpa [claimByName, isFree] using ih found

/-- **What an item claims**: the free place of its name that has as many free places in front as the
item has rivals in front. -/
theorem getElem?_claimByName {claimed : List Nat} {entries : List (α × Option Nat)}
    {position : Nat} {item : α} (waits : entries[position]? = some (item, none)) :
    (claimByName name new claimed entries)[position]? =
      some (freePlaces name new claimed (name item))[
        (entries.take position).countP (claims name (name item))]? := by
  induction claimed, entries using claimByName.induct name new generalizing position with
  | case1 => simp at waits
  | case2 claimed _ place rest ih =>
    cases position with
    | zero => cases waits
    | succ position => simpa [claimByName, claims] using ih waits
  | case3 claimed head rest place isFree ih =>
    obtain ⟨others, free⟩ := List.head?_eq_some_iff.mp (freePlace?_eq_head? claimed _ ▸ isFree)
    cases position with
    | zero =>
      cases waits
      simp [claimByName, isFree, free]
    | succ position =>
      have waitsInRest : rest[position]? = some (item, none) := waits
      have later := ih waitsInRest
      by_cases rival : Text.sameName (name head) (name item) = true
      · rw [freePlaces_cons_of_sameName free rival] at later
        simpa [claimByName, isFree, claims, rival, ← freePlaces_congr rival, free] using later
      · rw [freePlaces_cons_of_not_sameName free rival] at later
        simpa [claimByName, isFree, claims, rival] using later
  | case4 claimed head rest isFree ih =>
    have noneFree : freePlaces name new claimed (name head) = [] :=
      List.head?_eq_none_iff.mp (freePlace?_eq_head? claimed _ ▸ isFree)
    cases position with
    | zero =>
      cases waits
      simp [claimByName, isFree, noneFree]
    | succ position =>
      have waitsInRest : rest[position]? = some (item, none) := waits
      have later := ih waitsInRest
      by_cases rival : Text.sameName (name head) (name item) = true
      · simpa [claimByName, isFree, claims, rival, ← freePlaces_congr rival, noneFree] using later
      · simpa [claimByName, isFree, claims, rival] using later

end Claims

/-! ### Partners -/

section Partners

variable {α : Type} {identity name : α → String} {old new : List α}

/-- Whether an item waits for a partner with a name: no item of the other version has its id. -/
def waits (identity name : α → String) (others : List α) (wanted : String) (item : α) : Bool :=
  !others.any (identity · == identity item) && Text.sameName (name item) wanted

/-- The places of the items that wait for a partner with a name. -/
def waiting (identity name : α → String) (items others : List α) (wanted : String) : List Nat :=
  (List.range items.length).filter fun place =>
    items[place]?.any (waits identity name others wanted)

theorem mem_waiting_iff {items others : List α} {wanted : String} {place : Nat} :
    place ∈ waiting identity name items others wanted ↔
      ∃ item, items[place]? = some item ∧ waits identity name others wanted item = true := by
  rw [waiting, List.mem_filter, List.mem_range]
  constructor
  · rintro ⟨inside, found⟩
    rw [List.getElem?_eq_getElem inside] at found
    exact ⟨items[place], List.getElem?_eq_getElem inside, found⟩
  · rintro ⟨item, atPlace, isWaiting⟩
    obtain ⟨inside, -⟩ := List.getElem?_eq_some_iff.mp atPlace
    exact ⟨inside, by rw [atPlace]; exact isWaiting⟩

/-- Items of the two versions at these places have the same id. -/
def SameId (identity : α → String) (old new : List α) (place target : Nat) : Prop :=
  ∃ item other, old[place]? = some item ∧ new[target]? = some other ∧
    identity item = identity other

/-- Items of the two versions at these places have the same number among those that wait for a
partner with a name. -/
def SameNumber (identity name : α → String) (old new : List α) (place target : Nat) : Prop :=
  ∃ (wanted : String) (position : Nat),
    (waiting identity name old new wanted)[position]? = some place ∧
      (waiting identity name new old wanted)[position]? = some target

/-- Among items with distinct ids, an id is found at the place of its item. -/
theorem findIdx?_identity_iff {items : List α} (distinct : (items.map identity).Nodup) {id : String}
    {place : Nat} :
    items.findIdx? (identity · == id) = some place ↔
      ∃ item, items[place]? = some item ∧ identity item = id := by
  constructor
  · intro found
    obtain ⟨inside, isIt, -⟩ := List.findIdx?_eq_some_iff_getElem.mp found
    exact ⟨_, List.getElem?_eq_getElem inside, by simpa using isIt⟩
  · rintro ⟨item, atPlace, rfl⟩
    obtain ⟨first, isFirst⟩ : ∃ first, items.findIdx? (identity · == identity item) = some first := by
      rw [← Option.isSome_iff_exists, List.findIdx?_isSome, List.any_eq_true]
      exact ⟨item, List.mem_of_getElem? atPlace, beq_self_eq_true _⟩
    obtain ⟨inside, isIt, -⟩ := List.findIdx?_eq_some_iff_getElem.mp isFirst
    have same : (items.map identity)[first]? = (items.map identity)[place]? := by
      simpa [atPlace, inside] using isIt
    rw [isFirst, (List.getElem?_inj (by simpa using inside) distinct).mp same]

/-- The places that ids claim are those of the items whose ids the old version has. -/
theorem mem_claimed_iff (distinct : (new.map identity).Nodup) {target : Nat} {other : α}
    (atTarget : new[target]? = some other) :
    target ∈ (byId identity old new).filterMap (fun place => place) ↔
      old.any (identity · == identity other) = true := by
  simp only [byId, List.filterMap_map, List.mem_filterMap, Function.comp_apply,
    findIdx?_identity_iff distinct, atTarget, Option.some.injEq, exists_eq_left', List.any_eq_true,
    beq_iff_eq]
  exact exists_congr fun item => and_congr_right fun _ => eq_comm

/-- After ids have claimed their places, the free places of a name are those of the waiting items. -/
theorem freePlaces_claimed (distinct : (new.map identity).Nodup) (wanted : String) :
    freePlaces name new ((byId identity old new).filterMap fun place => place) wanted =
      waiting identity name new old wanted := by
  have increasing : (waiting identity name new old wanted).Pairwise (· < ·) :=
    List.pairwise_lt_range.sublist List.filter_sublist
  refine List.Perm.eq_of_pairwise' (r := (· < ·)) (increasing_freePlaces _ wanted) increasing ?_
  rw [List.perm_ext_iff_of_nodup ((increasing_freePlaces _ wanted).imp Nat.ne_of_lt)
    (increasing.imp Nat.ne_of_lt)]
  intro target
  rw [mem_freePlaces_iff, mem_waiting_iff]
  refine exists_congr fun other => and_congr_right fun atTarget => ?_
  rw [mem_claimed_iff distinct atTarget]
  simp [waits]

/-- The entries that are paired by name: an item, and the place that its id has claimed. -/
theorem getElem?_entries {place : Nat} {item : α} (atPlace : old[place]? = some item) :
    (old.zip (byId identity old new))[place]? =
      some (item, new.findIdx? (identity · == identity item)) := by
  simp [List.getElem?_zip_eq_some, byId, atPlace]

@[simp] theorem length_partners (identity name : α → String) (old new : List α) :
    (partners identity name old new).length = old.length := by
  simp [partners, byId]

/-- An item without a partner by id has the rivals that wait for a partner with its name. -/
theorem countP_claims (wanted : String) (place : Nat) :
    ((old.zip (byId identity old new)).take place).countP (claims name wanted) =
      (List.range place).countP fun before =>
        old[before]?.any (waits identity name new wanted) := by
  rw [countP_take]
  refine congrArg (List.countP · (List.range place)) (funext fun before => ?_)
  cases atPlace : old[before]? with
  | none =>
    have outside : (old.zip (byId identity old new))[before]? = none := by
      simpa [byId] using List.getElem?_eq_none_iff.mp atPlace
    rw [outside]
    rfl
  | some item =>
    rw [getElem?_entries atPlace]
    simp [claims, waits, ← List.findIdx?_isSome]

/-- Names that differ in case alone are waited for by the same items. -/
theorem waiting_congr {items others : List α} {wanted another : String}
    (same : Text.sameName wanted another = true) :
    waiting identity name items others wanted = waiting identity name items others another := by
  have alike : Text.lowerAscii wanted = Text.lowerAscii another := by
    simpa [Text.sameName] using same
  have sameTest : waits identity name others wanted = waits identity name others another := by
    funext item
    simp [waits, Text.sameName, alike]
  rw [waiting, waiting, sameTest]

/-- The number of a waiting item is that of the waiting items in front. -/
theorem getElem?_waiting_iff {items others : List α} {wanted : String} {position place : Nat} :
    (waiting identity name items others wanted)[position]? = some place ↔
      (∃ item, items[place]? = some item ∧ waits identity name others wanted item = true) ∧
        ((List.range place).countP fun before =>
          items[before]?.any (waits identity name others wanted)) = position := by
  rw [← mem_waiting_iff, waiting, getElem?_filter_range, List.mem_filter, List.mem_range, and_assoc]

/-- An item whose id the new version has is paired with the item of that id. -/
theorem partners_of_findIdx? {place first : Nat} {item : α} (atPlace : old[place]? = some item)
    (found : new.findIdx? (identity · == identity item) = some first) :
    (partners identity name old new)[place]? = some (some first) := by
  have entry : (old.zip (byId identity old new))[place]? =
      some (item, new.findIdx? (identity · == identity item)) := getElem?_entries atPlace
  rw [found] at entry
  exact getElem?_claimByName_some entry

/-- An item whose id the new version does not have is paired with the waiting item of its number. -/
theorem partners_of_waits (distinct : (new.map identity).Nodup) {place position : Nat} {item : α}
    (atPlace : old[place]? = some item)
    (number : (waiting identity name old new (name item))[position]? = some place) :
    (partners identity name old new)[place]? =
      some (waiting identity name new old (name item))[position]? := by
  obtain ⟨⟨_, atPlaceToo, isWaiting⟩, rivals⟩ := getElem?_waiting_iff.mp number
  cases atPlace.symm.trans atPlaceToo
  have unfound : new.findIdx? (identity · == identity item) = none := by
    simpa [waits, Text.sameName] using isWaiting
  have entry : (old.zip (byId identity old new))[place]? =
      some (item, new.findIdx? (identity · == identity item)) := getElem?_entries atPlace
  rw [unfound] at entry
  rw [partners, getElem?_claimByName entry, freePlaces_claimed distinct, countP_claims, rivals]

/-- An item has a partner by its id, or waits for one with its name. -/
theorem SameNumber.of_name {place target : Nat} {item : α} (atPlace : old[place]? = some item) :
    SameNumber identity name old new place target ↔
      ∃ position : Nat, (waiting identity name old new (name item))[position]? = some place ∧
        (waiting identity name new old (name item))[position]? = some target := by
  refine ⟨fun ⟨wanted, position, number, sameNumber⟩ => ?_, fun ⟨position, both⟩ =>
    ⟨name item, position, both⟩⟩
  obtain ⟨⟨_, atPlaceToo, isWaiting⟩, -⟩ := getElem?_waiting_iff.mp number
  cases atPlace.symm.trans atPlaceToo
  have same : Text.sameName (name item) wanted = true := (Bool.and_eq_true_iff.mp isWaiting).2
  rw [← waiting_congr same] at number sameNumber
  exact ⟨position, number, sameNumber⟩

/-- **Partners** share their id, or have the same number among the waiting items of their name. -/
theorem partners_eq_some_iff (distinct : (new.map identity).Nodup) {place target : Nat} :
    (partners identity name old new)[place]? = some (some target) ↔
      SameId identity old new place target ∨ SameNumber identity name old new place target := by
  cases atPlace : old[place]? with
  | none =>
    have outside : (partners identity name old new)[place]? = none := by
      simpa using List.getElem?_eq_none_iff.mp atPlace
    rw [outside]
    refine iff_of_false (by simp) ?_
    rintro (⟨item, -, atPlaceToo, -⟩ | ⟨wanted, position, number, -⟩)
    · simp [atPlace] at atPlaceToo
    · obtain ⟨⟨item, atPlaceToo, -⟩, -⟩ := getElem?_waiting_iff.mp number
      simp [atPlace] at atPlaceToo
  | some item =>
    have byIdentity : SameId identity old new place target ↔
        new.findIdx? (identity · == identity item) = some target := by
      rw [findIdx?_identity_iff distinct]
      simp [SameId, atPlace, eq_comm]
    rw [byIdentity, SameNumber.of_name atPlace]
    cases found : new.findIdx? (identity · == identity item) with
    | some first =>
      have notWaiting : waits identity name new (name item) item = false := by
        simp [waits, ← List.findIdx?_isSome, found]
      rw [partners_of_findIdx? atPlace found, Option.some.injEq]
      refine ⟨.inl, fun paired => paired.resolve_right ?_⟩
      rintro ⟨position, number, -⟩
      obtain ⟨⟨_, atPlaceToo, isWaiting⟩, -⟩ := getElem?_waiting_iff.mp number
      cases atPlace.symm.trans atPlaceToo
      simp [notWaiting] at isWaiting
    | none =>
      have isWaiting : waits identity name new (name item) item = true := by
        simpa [waits, Text.sameName] using found
      have number := getElem?_waiting_iff.mpr ⟨⟨item, atPlace, isWaiting⟩, rfl⟩
      rw [partners_of_waits distinct atPlace number, Option.some.injEq]
      refine ⟨fun sameNumber => .inr ⟨_, number, sameNumber⟩, fun paired => ?_⟩
      obtain ⟨position, numberToo, sameNumber⟩ := paired.resolve_left fun unfound => by cases unfound
      rw [(getElem?_waiting_iff.mp numberToo).2]
      exact sameNumber

/-- Places of partners in one direction and in the other are inverse partial functions. -/
def Inverse (places back : List (Option Nat)) : Prop :=
  ∀ place target : Nat, places[place]? = some (some target) ↔ back[target]? = some (some place)

theorem SameId.comm {place target : Nat} :
    SameId identity old new place target ↔ SameId identity new old target place := by
  constructor <;> rintro ⟨item, other, atPlace, atTarget, same⟩ <;>
    exact ⟨other, item, atTarget, atPlace, same.symm⟩

theorem SameNumber.comm {place target : Nat} :
    SameNumber identity name old new place target ↔
      SameNumber identity name new old target place := by
  constructor <;> rintro ⟨wanted, position, number, sameNumber⟩ <;>
    exact ⟨wanted, position, sameNumber, number⟩

/-- **Partners are partners of their partners**, when ids are distinct in both versions. -/
theorem inverse_partners (distinctOld : (old.map identity).Nodup)
    (distinctNew : (new.map identity).Nodup) :
    Inverse (partners identity name old new) (partners identity name new old) := by
  intro place target
  rw [partners_eq_some_iff distinctNew, partners_eq_some_iff distinctOld, SameId.comm,
    SameNumber.comm]

end Partners

/-! ### What is added, removed and paired -/

section Sides

variable {α : Type} {old new : List α} {places back : List (Option Nat)}

theorem Inverse.symm (inverse : Inverse places back) : Inverse back places := fun place target =>
  (inverse target place).symm

/-- Items with their places, looked up in a list of partners. -/
theorem zip_eq_map_zipIdx (sameLength : back.length = new.length) :
    new.zip back = new.zipIdx.map fun entry => (entry.1, (back[entry.2]?).join) := by
  refine List.ext_getElem? fun place => ?_
  rw [List.getElem?_map, List.getElem?_zipIdx]
  by_cases inside : place < new.length
  · simp [inside, sameLength]
  · simp [inside, sameLength]

/-- **What is added in one direction** is what is removed in the other. -/
theorem added_eq_removed (inverse : Inverse places back) (sameLength : back.length = new.length) :
    added places new = removed new back := by
  rw [added, removed, zip_eq_map_zipIdx sameLength, List.filter_map, List.map_map]
  refine congrArg (List.map Prod.fst) (List.filter_congr fun entry _ => ?_)
  have claimed : some entry.2 ∈ places ↔ ∃ place, back[entry.2]? = some (some place) := by
    rw [List.mem_iff_getElem?]
    exact exists_congr fun place => inverse place entry.2
  have isPartner : places.contains (some entry.2) = (back[entry.2]?).join.isSome := by
    rw [Bool.eq_iff_iff, List.contains_iff_mem, claimed, Option.isSome_iff_exists]
    refine exists_congr fun place => ?_
    rw [Option.join_eq_some_iff]
  show (!places.contains (some entry.2)) = ((back[entry.2]?).join).isNone
  rw [isPartner, Option.not_isSome]

/-- Pairs are of an item of each version. -/
theorem mem_of_mem_pairs {pair : α × α} (member : pair ∈ pairs old places new) :
    pair.1 ∈ old ∧ pair.2 ∈ new := by
  obtain ⟨⟨item, place⟩, inZip, paired⟩ := List.mem_filterMap.mp member
  cases place with
  | none => cases paired
  | some target =>
    obtain ⟨_, isTarget, found⟩ := Option.bind_eq_some_iff.mp paired
    cases isTarget
    obtain ⟨other, atTarget, isPair⟩ := Option.bind_eq_some_iff.mp found
    cases isPair
    exact ⟨(List.of_mem_zip inZip).1, List.mem_of_getElem? atTarget⟩

/-- The places of pairs. -/
def pairedPlaces (places : List (Option Nat)) : List (Nat × Nat) :=
  (List.range places.length).filterMap fun place => (places[place]?).join.map (place, ·)

theorem mem_pairedPlaces_iff {place target : Nat} :
    (place, target) ∈ pairedPlaces places ↔ places[place]? = some (some target) := by
  simp only [pairedPlaces, List.mem_filterMap, List.mem_range, Option.map_eq_some_iff,
    Option.join_eq_some_iff, Prod.mk.injEq]
  constructor
  · rintro ⟨_, -, _, found, rfl, rfl⟩
    exact found
  · intro found
    exact ⟨place, (List.getElem?_eq_some_iff.mp found).1, target, found, rfl, rfl⟩

theorem nodup_pairedPlaces (places : List (Option Nat)) : (pairedPlaces places).Nodup := by
  refine List.nodup_range.filterMap fun place other pair paired pairedToo => ?_
  obtain ⟨_, -, rfl⟩ := Option.map_eq_some_iff.mp paired
  obtain ⟨_, -, same⟩ := Option.map_eq_some_iff.mp pairedToo
  exact (congrArg Prod.fst same).symm

/-- The places of pairs are those of the other direction, turned round. -/
theorem perm_pairedPlaces (inverse : Inverse places back) :
    (pairedPlaces back).Perm ((pairedPlaces places).map Prod.swap) := by
  have distinct := (nodup_pairedPlaces places).map Prod.swap_injective
  refine (List.perm_ext_iff_of_nodup (nodup_pairedPlaces back) distinct).mpr ?_
  rintro ⟨target, place⟩
  rw [mem_pairedPlaces_iff, ← inverse place target, ← mem_pairedPlaces_iff]
  simp

/-- The items at two places. -/
def itemsAt (old new : List α) (entry : Nat × Nat) : Option (α × α) := do
  return (← old[entry.1]?, ← new[entry.2]?)

theorem pairs_eq_pairedPlaces (sameLength : places.length = old.length) :
    pairs old places new = (pairedPlaces places).filterMap (itemsAt old new) := by
  rw [pairs, filterMap_eq_range, pairedPlaces, List.filterMap_filterMap, List.length_zip, sameLength,
    Nat.min_self]
  refine List.filterMap_congr fun place member => ?_
  have inside := List.mem_range.mp member
  have atPlace : (old.zip places)[place]? = some (old[place], places[place]) := by
    simp [inside, sameLength]
  rw [atPlace, List.getElem?_eq_getElem (sameLength ▸ inside)]
  cases places[place] with
  | none => rfl
  | some target => simp [itemsAt, inside]

/-- **Pairs in one direction** are those of the other, turned round. -/
theorem perm_pairs (inverse : Inverse places back) (lengthOld : places.length = old.length)
    (lengthNew : back.length = new.length) :
    (pairs new back old).Perm ((pairs old places new).map Prod.swap) := by
  have turned : ∀ entry, itemsAt new old entry.swap = (itemsAt old new entry).map Prod.swap := by
    intro entry
    simp only [itemsAt, Prod.fst_swap, Prod.snd_swap]
    cases old[entry.1]? <;> cases new[entry.2]? <;> rfl
  rw [pairs_eq_pairedPlaces lengthOld, pairs_eq_pairedPlaces lengthNew, List.map_filterMap]
  refine ((perm_pairedPlaces inverse).filterMap _).trans (List.Perm.of_eq ?_)
  rw [List.filterMap_map]
  exact congrArg (List.filterMap · _) (funext turned)

/-- Pairs turned round count alike when each of them does. -/
theorem sum_of_perm_swap {pairs back : List (α × α)} {count : α × α → Nat}
    (turned : back.Perm (pairs.map Prod.swap)) (same : ∀ pair ∈ pairs, count pair.swap = count pair) :
    (back.map count).sum = (pairs.map count).sum := by
  rw [(turned.map count).sum_nat, List.map_map]
  exact congrArg List.sum (List.map_congr_left same)

end Sides

end SchemaCompiler.Pairing
