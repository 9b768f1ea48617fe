/-
# Dictionaries

Values under text keys, kept in the order of the keys. A dictionary is a list of entries of
which the keys increase, so equal dictionaries have equal entries and a listing needs no
sorting. `find?_insert` says what a look-up sees after an insertion.
-/

namespace ClassroomClient

namespace Entries

variable {α β : Type}

/-- Puts a value under a key, in place of an older value. -/
def insert (key : String) (value : α) : List (String × α) → List (String × α)
  | [] => [(key, value)]
  | (other, kept) :: rest =>
    if key < other then (key, value) :: (other, kept) :: rest
    else if key = other then (key, value) :: rest
    else (other, kept) :: insert key value rest

/-- The value under a key. -/
def find? (key : String) : List (String × α) → Option α
  | [] => none
  | (other, value) :: rest => if key = other then some value else find? key rest

/-- The entries without the one of a key. -/
def erase (key : String) (entries : List (String × α)) : List (String × α) :=
  entries.filter fun entry => entry.1 ≠ key

/-- Whether the keys increase. -/
abbrev Ordered (entries : List (String × α)) : Prop :=
  entries.Pairwise fun first second => first.1 < second.1

theorem find?_insert (key name : String) (value : α) (entries : List (String × α)) :
    find? name (insert key value entries) =
      if name = key then some value else find? name entries := by
  induction entries with
  | nil => simp [insert, find?]
  | cons entry rest ih =>
    obtain ⟨other, kept⟩ := entry
    unfold insert
    split
    · rfl
    · split
      · next hkey => subst hkey; by_cases h : name = key <;> simp [find?, h]
      · next hkey =>
        by_cases h : name = other
        · subst h; simp [find?, Ne.symm hkey]
        · simp [find?, h, ih]

theorem find?_erase (key name : String) (entries : List (String × α)) :
    find? name (erase key entries) = if name = key then none else find? name entries := by
  induction entries with
  | nil => simp [erase, find?]
  | cons entry rest ih =>
    obtain ⟨other, value⟩ := entry
    by_cases hother : other = key
    · have herase : erase key ((other, value) :: rest) = erase key rest := by simp [erase, hother]
      rw [herase, ih, find?, hother]
      split <;> rfl
    · have herase : erase key ((other, value) :: rest) = (other, value) :: erase key rest := by
        simp [erase, hother]
      rw [herase, find?, find?, ih]
      by_cases hname : name = other
      · rw [if_pos hname, if_pos hname, if_neg (hname ▸ hother)]
      · rw [if_neg hname, if_neg hname]

theorem find?_map (change : α → β) (name : String) (entries : List (String × α)) :
    find? name (entries.map fun entry => (entry.1, change entry.2)) =
      (find? name entries).map change := by
  induction entries with
  | nil => rfl
  | cons entry rest ih =>
    rw [List.map_cons, find?, find?, ih]
    split <;> rfl

theorem isSome_find? (name : String) (entries : List (String × α)) :
    (find? name entries).isSome = true ↔ name ∈ entries.map (·.1) := by
  induction entries with
  | nil => simp [find?]
  | cons entry rest ih =>
    rw [find?, List.map_cons, List.mem_cons, ← ih]
    split <;> simp [*]

theorem mem_insert {key : String} {value : α} {entries : List (String × α)}
    {entry : String × α} (h : entry ∈ insert key value entries) :
    entry = (key, value) ∨ entry ∈ entries := by
  induction entries with
  | nil => simpa [insert] using h
  | cons head rest ih =>
    obtain ⟨other, kept⟩ := head
    unfold insert at h
    split at h
    · simpa using h
    · split at h
      · rcases List.mem_cons.1 h with h | h
        · exact .inl h
        · exact .inr (List.mem_cons_of_mem _ h)
      · rcases List.mem_cons.1 h with h | h
        · exact .inr (h ▸ List.mem_cons_self)
        · exact (ih h).imp_right (List.mem_cons_of_mem _)

theorem ordered_insert (key : String) (value : α) {entries : List (String × α)}
    (h : Ordered entries) : Ordered (insert key value entries) := by
  induction entries with
  | nil => simp [insert]
  | cons head rest ih =>
    obtain ⟨other, kept⟩ := head
    obtain ⟨hhead, hrest⟩ := List.pairwise_cons.1 h
    unfold insert
    split
    · next hlt =>
      refine List.pairwise_cons.2 ⟨fun entry hentry => ?_, h⟩
      rcases List.mem_cons.1 hentry with rfl | hentry
      · exact hlt
      · exact String.lt_trans hlt (hhead entry hentry)
    · next hnot =>
      split
      · next hkey => exact List.pairwise_cons.2 ⟨hkey ▸ hhead, hrest⟩
      · next hkey =>
        refine List.pairwise_cons.2 ⟨fun entry hentry => ?_, ih hrest⟩
        rcases mem_insert hentry with rfl | hentry
        · exact Std.lt_of_le_of_ne (String.not_lt.1 hnot) (Ne.symm hkey)
        · exact hhead entry hentry

/-- A key behind all others is put at the end. -/
theorem insert_of_lt {key : String} (value : α) {entries : List (String × α)}
    (hlast : ∀ entry ∈ entries, entry.1 < key) :
    insert key value entries = entries ++ [(key, value)] := by
  induction entries with
  | nil => rfl
  | cons head rest ih =>
    obtain ⟨other, kept⟩ := head
    have hother : other < key := hlast (other, kept) List.mem_cons_self
    rw [insert, if_neg (String.lt_asymm hother), if_neg (fun h => String.lt_irrefl _ (h ▸ hother)),
      ih fun entry hentry => hlast entry (List.mem_cons_of_mem _ hentry), List.cons_append]

end Entries

/-- Values of type `α` under text keys. -/
structure Dictionary (α : Type) where
  entries : List (String × α)
  ordered : Entries.Ordered entries
  deriving DecidableEq

namespace Dictionary

variable {α β : Type}

/-- The dictionary without entries. -/
def empty : Dictionary α where
  entries := []
  ordered := .nil

instance : Inhabited (Dictionary α) := ⟨empty⟩

/-- The value under a key. -/
def find? (dictionary : Dictionary α) (key : String) : Option α :=
  Entries.find? key dictionary.entries

/-- Whether there is a value under a key. -/
def contains (dictionary : Dictionary α) (key : String) : Bool :=
  (dictionary.find? key).isSome

/-- Puts a value under a key, in place of an older value. -/
def insert (dictionary : Dictionary α) (key : String) (value : α) : Dictionary α where
  entries := Entries.insert key value dictionary.entries
  ordered := Entries.ordered_insert key value dictionary.ordered

/-- The dictionary without the entry of a key. -/
def erase (dictionary : Dictionary α) (key : String) : Dictionary α where
  entries := Entries.erase key dictionary.entries
  ordered := dictionary.ordered.filter _

/-- The dictionary with every value changed. -/
def map (dictionary : Dictionary α) (change : α → β) : Dictionary β where
  entries := dictionary.entries.map fun entry => (entry.1, change entry.2)
  ordered := by
    have h := dictionary.ordered
    rw [Entries.Ordered, List.pairwise_map]
    exact h

/-- The keys in their order. -/
def keys (dictionary : Dictionary α) : List String :=
  dictionary.entries.map (·.1)

@[simp] theorem find?_empty (name : String) : (empty : Dictionary α).find? name = none := rfl

/-- A look-up sees the inserted value under its key and all else as before. -/
theorem find?_insert (dictionary : Dictionary α) (key name : String) (value : α) :
    (dictionary.insert key value).find? name =
      if name = key then some value else dictionary.find? name :=
  Entries.find?_insert key name value dictionary.entries

/-- After an insertion there is a value under its key and under all keys as before. -/
theorem contains_insert (dictionary : Dictionary α) (key name : String) (value : α) :
    (dictionary.insert key value).contains name = true ↔
      name = key ∨ dictionary.contains name = true := by
  rw [contains, contains, find?_insert]
  split <;> simp [*]

/-- A look-up sees nothing under the key that was erased and all else as before. -/
theorem find?_erase (dictionary : Dictionary α) (key name : String) :
    (dictionary.erase key).find? name = if name = key then none else dictionary.find? name :=
  Entries.find?_erase key name dictionary.entries

theorem find?_foldl_erase (keys : List String) (dictionary : Dictionary α) (name : String) :
    (keys.foldl (fun dictionary key => dictionary.erase key) dictionary).find? name =
      if name ∈ keys then none else dictionary.find? name := by
  induction keys generalizing dictionary with
  | nil => simp
  | cons key rest ih =>
    rw [List.foldl_cons, ih, find?_erase]
    by_cases hname : name = key <;> simp [hname]

theorem find?_map (dictionary : Dictionary α) (change : α → β) (name : String) :
    (dictionary.map change).find? name = (dictionary.find? name).map change :=
  Entries.find?_map change name dictionary.entries

/-- The keys are those under which there is a value. -/
theorem mem_keys {dictionary : Dictionary α} {name : String} :
    name ∈ dictionary.keys ↔ dictionary.contains name = true :=
  (Entries.isSome_find? name dictionary.entries).symm

end Dictionary

/-- A set of names, in their order. -/
abbrev NameSet := Dictionary Unit

/-- Adds a name to a set. -/
def NameSet.add (names : NameSet) (name : String) : NameSet :=
  names.insert name ()

end ClassroomClient
