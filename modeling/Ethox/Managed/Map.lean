import Ethox.Basic

/-!
# Ordered maps of the `managed` crate

`ManagedMap` stores a map either in a borrowed slice of `Option<(K, V)>` slots, its entries
packed at the front in increasing key order, or in an owned `BTreeMap`. Either way what the
routing table observes is the list of entries in increasing key order, one entry per key,
and for a borrowed map the number of slots. The crate is a dependency outside this slice;
`insert` and the one `range` the table uses are modelled from its implementation, where a
failed insertion hands the pair back and leaves the map as it was.
-/

namespace Ethox.Managed

variable {K V : Type} [LinearOrder K]

/-- Entries strictly increasing in key, hence one entry per key. -/
def Sorted (entries : List (K × V)) : Prop := entries.Pairwise (fun a b => a.1 < b.1)

/-- Insert `(key, value)` at its place in sorted entries, replacing an entry of equal key. -/
def insertEntry (key : K) (value : V) : List (K × V) → List (K × V)
  | [] => [(key, value)]
  | entry :: rest =>
    if key < entry.1 then (key, value) :: entry :: rest
    else if key = entry.1 then (key, value) :: rest
    else entry :: insertEntry key value rest

section InsertEntry

variable (key : K) (value : V)

/-- The inserted pair is an entry afterwards. -/
theorem mem_insertEntry_self (entries : List (K × V)) : (key, value) ∈ insertEntry key value entries := by
  induction entries with
  | nil => exact List.mem_singleton_self _
  | cons entry rest ih =>
    unfold insertEntry
    split_ifs <;> simp [ih]

/-- Every entry afterwards is the inserted pair or was there before. -/
theorem mem_of_mem_insertEntry {entries : List (K × V)} {e : K × V}
    (mem : e ∈ insertEntry key value entries) : e = (key, value) ∨ e ∈ entries := by
  induction entries with
  | nil => exact .inl (List.mem_singleton.mp mem)
  | cons entry rest ih =>
    unfold insertEntry at mem
    split_ifs at mem
    · exact List.mem_cons.mp mem
    · exact (List.mem_cons.mp mem).imp_right (List.mem_cons_of_mem _)
    · rcases List.mem_cons.mp mem with here | later
      · exact .inr (here ▸ List.mem_cons_self _ _)
      · exact (ih later).imp_right (List.mem_cons_of_mem _)

/-- Entries of another key survive the insertion. -/
theorem mem_insertEntry_of_ne {entries : List (K × V)} {e : K × V} (mem : e ∈ entries)
    (other : e.1 ≠ key) : e ∈ insertEntry key value entries := by
  induction entries with
  | nil => exact absurd mem (List.not_mem_nil _)
  | cons entry rest ih =>
    unfold insertEntry
    rcases List.mem_cons.mp mem with rfl | later
    · split_ifs with below same
      · exact List.mem_cons_of_mem _ (List.mem_cons_self _ _)
      · exact absurd same.symm other
      · exact List.mem_cons_self _ _
    · split_ifs
      · exact List.mem_cons_of_mem _ (List.mem_cons_of_mem _ later)
      · exact List.mem_cons_of_mem _ later
      · exact List.mem_cons_of_mem _ (ih later)

/-- Insertion keeps the entries sorted. -/
theorem Sorted.insertEntry {entries : List (K × V)} (sorted : Sorted entries) :
    Sorted (Managed.insertEntry key value entries) := by
  induction entries with
  | nil => exact List.pairwise_singleton _ _
  | cons entry rest ih =>
    unfold Sorted at sorted ⊢
    rw [List.pairwise_cons] at sorted
    unfold Managed.insertEntry
    split_ifs with below same
    · refine List.pairwise_cons.mpr ⟨fun e mem => ?_, List.pairwise_cons.mpr sorted⟩
      rcases List.mem_cons.mp mem with rfl | later
      · exact below
      · exact below.trans (sorted.1 e later)
    · exact List.pairwise_cons.mpr ⟨fun e mem => same ▸ sorted.1 e mem, sorted.2⟩
    · refine List.pairwise_cons.mpr ⟨fun e mem => ?_, ih sorted.2⟩
      rcases mem_of_mem_insertEntry key value mem with rfl | old
      · exact lt_of_le_of_ne (not_lt.mp below) (Ne.symm same)
      · exact sorted.1 e old

/-- Inserting an absent key adds one entry. -/
theorem length_insertEntry_of_absent {entries : List (K × V)} (absent : ∀ e ∈ entries, e.1 ≠ key) :
    (insertEntry key value entries).length = entries.length + 1 := by
  induction entries with
  | nil => rfl
  | cons entry rest ih =>
    unfold insertEntry
    have other := absent entry (List.mem_cons_self _ _)
    split_ifs with below same
    · rfl
    · exact absurd same.symm other
    · simp only [List.length_cons, ih fun e mem => absent e (List.mem_cons_of_mem _ mem)]

/-- Inserting a present key into sorted entries replaces its entry. -/
theorem length_insertEntry_of_present {entries : List (K × V)} (sorted : Sorted entries)
    (present : ∃ e ∈ entries, e.1 = key) : (insertEntry key value entries).length = entries.length := by
  induction entries with
  | nil => simp at present
  | cons entry rest ih =>
    unfold Sorted at sorted
    rw [List.pairwise_cons] at sorted
    obtain ⟨e, mem, rfl⟩ := present
    unfold insertEntry
    split_ifs with below same
    · rcases List.mem_cons.mp mem with rfl | later
      · exact absurd below (lt_irrefl _)
      · exact absurd (sorted.1 e later) (not_lt.mpr below.le)
    · rfl
    · rcases List.mem_cons.mp mem with rfl | later
      · exact absurd rfl same
      · simp only [List.length_cons, ih sorted.2 ⟨e, later, rfl⟩]

/-- Searching by key after an insertion finds the inserted pair at its key and the old entry
at every other key. -/
theorem find?_insertEntry (entries : List (K × V)) (k : K) :
    (insertEntry key value entries).find? (fun e => e.1 = k) =
      if k = key then some (key, value) else entries.find? (fun e => e.1 = k) := by
  induction entries with
  | nil => by_cases same : k = key <;> simp [insertEntry, same, Ne.symm]
  | cons entry rest ih =>
    unfold insertEntry
    by_cases same : k = key
    · subst same
      rw [if_pos rfl] at ih ⊢
      split_ifs with below equal
      · simp
      · simp
      · simp [List.find?_cons, Ne.symm equal, ih]
    · have other : key ≠ k := Ne.symm same
      rw [if_neg same] at ih ⊢
      split_ifs with below equal
      · simp [other]
      · simp [List.find?_cons, other, ← equal]
      · by_cases here : entry.1 = k <;> simp [List.find?_cons, here, ih]

end InsertEntry

/-- Sorted entries have one entry per key. -/
theorem Sorted.eq_of_fst_eq {entries : List (K × V)} (sorted : Sorted entries) {a b : K × V}
    (memA : a ∈ entries) (memB : b ∈ entries) (same : a.1 = b.1) : a = b := by
  induction entries with
  | nil => exact absurd memA (List.not_mem_nil _)
  | cons entry rest ih =>
    unfold Sorted at sorted
    rw [List.pairwise_cons] at sorted
    rcases List.mem_cons.mp memA with rfl | laterA <;> rcases List.mem_cons.mp memB with rfl | laterB
    · rfl
    · exact absurd same (ne_of_lt (sorted.1 b laterB))
    · exact absurd same.symm (ne_of_lt (sorted.1 a laterA))
    · exact ih sorted.2 laterA laterB

/-- Searching sorted entries from the largest key down finds an entry of largest key among
those with the property. -/
theorem Sorted.largest_of_find?_reverse {entries : List (K × V)} (sorted : Sorted entries)
    {p : K × V → Bool} {e : K × V} (found : entries.reverse.find? p = some e) :
    e ∈ entries ∧ p e ∧ ∀ e' ∈ entries, p e' → e'.1 ≤ e.1 := by
  obtain ⟨holds, above, below, split, skipped⟩ := List.find?_eq_some.mp found
  have whole : entries = below.reverse ++ e :: above.reverse := by
    simpa using congrArg List.reverse split
  have ordered := sorted
  unfold Sorted at ordered
  rw [whole, List.pairwise_append] at ordered
  refine ⟨by rw [whole]; simp, holds, fun e' mem other => ?_⟩
  rw [whole] at mem
  simp only [List.mem_append, List.mem_reverse, List.mem_cons] at mem
  rcases mem with lower | rfl | higher
  · exact (ordered.2.2 e' (List.mem_reverse.mpr lower) e (List.mem_cons_self _ _)).le
  · exact le_rfl
  · exact absurd other (by simpa using skipped e' higher)

/-- In sorted entries, the last entry with a property is exactly the one of largest key
among them. -/
theorem Sorted.find?_reverse_eq_some {entries : List (K × V)} (sorted : Sorted entries)
    (p : K × V → Bool) (e : K × V) :
    entries.reverse.find? p = some e ↔ e ∈ entries ∧ p e ∧ ∀ e' ∈ entries, p e' → e'.1 ≤ e.1 := by
  refine ⟨sorted.largest_of_find?_reverse, fun ⟨mem, holds, largest⟩ => ?_⟩
  cases found : entries.reverse.find? p with
  | none => exact absurd holds (List.find?_eq_none.mp found e (List.mem_reverse.mpr mem))
  | some f =>
    obtain ⟨memF, holdsF, largestF⟩ := sorted.largest_of_find?_reverse found
    exact congrArg some (sorted.eq_of_fst_eq memF mem
      (le_antisymm (largest f memF holdsF) (largestF e mem holds)))

/-- In sorted entries, the entries after an insertion are the inserted pair and the old
entries of other keys. -/
theorem Sorted.mem_insertEntry_iff {entries : List (K × V)} (sorted : Sorted entries) (key : K) (value : V)
    {e : K × V} :
    e ∈ Managed.insertEntry key value entries ↔ e = (key, value) ∨ e ∈ entries ∧ e.1 ≠ key := by
  refine ⟨fun mem => ?_, ?_⟩
  · rcases mem_of_mem_insertEntry key value mem with rfl | old
    · exact .inl rfl
    · by_cases same : e.1 = key
      · exact .inl ((sorted.insertEntry key value).eq_of_fst_eq mem
          (mem_insertEntry_self key value entries) same)
      · exact .inr ⟨old, same⟩
  · rintro (rfl | ⟨old, other⟩)
    · exact mem_insertEntry_self key value entries
    · exact mem_insertEntry_of_ne key value old other

/-- Sorted entries are determined by their members. -/
theorem Sorted.eq_of_mem_iff {l l' : List (K × V)} (sorted : Sorted l) (sorted' : Sorted l')
    (same : ∀ e, e ∈ l ↔ e ∈ l') : l = l' := by
  haveI : IsAntisymm (K × V) (fun a b => a.1 < b.1) := ⟨fun _ _ h h' => absurd (h.trans h') (lt_irrefl _)⟩
  have nodup {l : List (K × V)} (sorted : Sorted l) : l.Nodup :=
    List.Pairwise.imp (fun lt => ne_of_apply_ne Prod.fst (ne_of_lt lt)) sorted
  exact List.eq_of_perm_of_sorted ((List.perm_ext_iff_of_nodup (nodup sorted) (nodup sorted')).mpr same)
    sorted sorted'

/-- Insertions of two different keys into sorted entries commute. -/
theorem Sorted.insertEntry_comm {entries : List (K × V)} (sorted : Sorted entries) {a b : K} (x y : V)
    (distinct : a ≠ b) :
    Managed.insertEntry b y (Managed.insertEntry a x entries) =
      Managed.insertEntry a x (Managed.insertEntry b y entries) := by
  refine ((sorted.insertEntry a x).insertEntry b y).eq_of_mem_iff
    ((sorted.insertEntry b y).insertEntry a x) fun e => ?_
  rw [(sorted.insertEntry a x).mem_insertEntry_iff, sorted.mem_insertEntry_iff,
    (sorted.insertEntry b y).mem_insertEntry_iff, sorted.mem_insertEntry_iff]
  constructor
  · rintro (rfl | ⟨rfl | ⟨old, otherA⟩, otherB⟩)
    · exact .inr ⟨.inl rfl, Ne.symm distinct⟩
    · exact .inl rfl
    · exact .inr ⟨.inr ⟨old, otherB⟩, otherA⟩
  · rintro (rfl | ⟨rfl | ⟨old, otherB⟩, otherA⟩)
    · exact .inr ⟨.inl rfl, distinct⟩
    · exact .inl rfl
    · exact .inr ⟨.inr ⟨old, otherA⟩, otherB⟩

/-- `ManagedMap<K, V>`: its entries in increasing key order, and the number of slots of a
borrowed map (`none` for an owned one), which bounds the number of entries. -/
structure ManagedMap (K V : Type) [LinearOrder K] where
  /-- The entries, in increasing key order. -/
  entries : List (K × V)
  /-- Slots of the borrowed slice; an owned map has no bound. -/
  capacity : Option Nat
  /-- One entry per key, in order. -/
  sorted : Sorted entries
  /-- A borrowed map holds at most as many entries as it has slots. -/
  fits : ∀ slots ∈ capacity, entries.length ≤ slots

namespace ManagedMap

/-- A map without entries: a borrowed slice of `slots` empty slots, or an empty owned map. -/
def empty (capacity : Option Nat) : ManagedMap K V :=
  ⟨[], capacity, List.Pairwise.nil, fun _ _ => Nat.zero_le _⟩

/-- `ManagedMap::get`. -/
def get (self : ManagedMap K V) (key : K) : Option V :=
  (self.entries.find? fun e => e.1 = key).map Prod.snd

/-- Whether every slot of a borrowed map is taken. -/
def full (self : ManagedMap K V) : Bool :=
  match self.capacity with
  | some slots => slots ≤ self.entries.length
  | none => false

/-- A key without a value has no entry. -/
theorem get_eq_none {self : ManagedMap K V} {key : K} :
    self.get key = none ↔ ∀ e ∈ self.entries, e.1 ≠ key := by
  simp [get, List.find?_eq_none]

/-- A key with a value has an entry. -/
theorem exists_of_get_eq_some {self : ManagedMap K V} {key : K} {value : V}
    (found : self.get key = some value) : ∃ e ∈ self.entries, e.1 = key := by
  obtain ⟨e, mem, rfl⟩ := Option.map_eq_some'.mp found
  exact ⟨e, List.mem_of_find?_eq_some mem, by simpa using List.find?_some mem⟩

/-- Replacing the value of a present key needs no new slot. -/
theorem room_of_get_eq_some {self : ManagedMap K V} {key : K} {old : V} (value : V)
    (found : self.get key = some old) :
    ∀ slots ∈ self.capacity, (insertEntry key value self.entries).length ≤ slots := by
  rw [length_insertEntry_of_present key value self.sorted (exists_of_get_eq_some found)]
  exact self.fits

/-- A map that is not full has a slot for an absent key. -/
theorem room_of_not_full {self : ManagedMap K V} {key : K} (value : V) (absent : self.get key = none)
    (free : ¬ self.full) : ∀ slots ∈ self.capacity, (insertEntry key value self.entries).length ≤ slots := by
  intro slots mem
  rw [length_insertEntry_of_absent key value (get_eq_none.mp absent)]
  simp only [full, Option.mem_def.mp mem, decide_eq_true_eq, Nat.not_le] at free
  exact free

/-- The map with `key` set to `value`, given a slot for it. -/
def put (self : ManagedMap K V) (key : K) (value : V)
    (room : ∀ slots ∈ self.capacity, (insertEntry key value self.entries).length ≤ slots) :
    ManagedMap K V :=
  ⟨insertEntry key value self.entries, self.capacity, self.sorted.insertEntry key value, room⟩

/-- After `put` the key holds the new value and every other key what it held. -/
theorem get_put (self : ManagedMap K V) (key : K) (value : V)
    (room : ∀ slots ∈ self.capacity, (insertEntry key value self.entries).length ≤ slots) (k : K) :
    (self.put key value room).get k = if k = key then some value else self.get k := by
  simp only [get, put, find?_insertEntry]
  split <;> rfl

/-- `ManagedMap::insert`: replace the value of a present key and return the old one, or add
an absent key; a full borrowed map refuses an absent key and hands the pair back. -/
def insert (self : ManagedMap K V) (key : K) (value : V) :
    ManagedMap K V × Except (K × V) (Option V) :=
  match found : self.get key with
  | some old => (self.put key value (room_of_get_eq_some value found), .ok (some old))
  | none =>
    if free : self.full then (self, .error (key, value))
    else (self.put key value (room_of_not_full value found free), .ok none)

/-- `ManagedMap::range((Bound::Unbounded, Bound::Included(key)))`: the entries with keys at
most `key`, in increasing key order. -/
def rangeTo (self : ManagedMap K V) (key : K) : List (K × V) :=
  self.entries.filter fun e => e.1 ≤ key

/-- What `insert` can do: store the pair and return the old value of the key, or, only when
the key is absent and the map full, refuse and change nothing. -/
theorem insert_cases (self : ManagedMap K V) (key : K) (value : V) :
    (∃ room, self.insert key value = (self.put key value room, .ok (self.get key))) ∨
      (self.get key = none ∧ self.full ∧ self.insert key value = (self, .error (key, value))) := by
  unfold insert
  split
  · rename_i old found
    exact .inl ⟨room_of_get_eq_some value found, by simp only [found]⟩
  · rename_i found
    split
    · exact .inr ⟨found, ‹_›, rfl⟩
    · exact .inl ⟨room_of_not_full value found ‹_›, by simp only [found]⟩

/-- Two maps with the same entries and slots are equal. -/
theorem ext_of_entries {self other : ManagedMap K V} (entries : self.entries = other.entries)
    (capacity : self.capacity = other.capacity) : self = other := by
  cases self
  cases other
  cases entries
  cases capacity
  rfl

/-- A map with a free slot stores any pair. -/
theorem insert_of_free {self : ManagedMap K V} (key : K) (value : V)
    (free : ∀ slots ∈ self.capacity, self.entries.length < slots) :
    (self.insert key value).1.entries = insertEntry key value self.entries ∧
      (self.insert key value).1.capacity = self.capacity := by
  rcases self.insert_cases key value with ⟨room, inserted⟩ | ⟨-, full, -⟩
  · rw [inserted]
    exact ⟨rfl, rfl⟩
  · unfold ManagedMap.full at full
    split at full
    · rename_i slots taken
      exact absurd (of_decide_eq_true full) (not_le.mpr (free slots taken))
    · exact absurd full Bool.false_ne_true

/-- An insertion adds at most one entry. -/
theorem length_insertEntry_le (self : ManagedMap K V) (key : K) (value : V) :
    (insertEntry key value self.entries).length ≤ self.entries.length + 1 := by
  by_cases present : ∃ e ∈ self.entries, e.1 = key
  · rw [length_insertEntry_of_present key value self.sorted present]
    exact Nat.le_succ _
  · rw [length_insertEntry_of_absent key value fun e mem same => present ⟨e, mem, same⟩]

/-- With two free slots, inserting two different keys gives the same map in either order. -/
theorem insert_comm (self : ManagedMap K V) {a b : K} (x y : V) (distinct : a ≠ b)
    (free : ∀ slots ∈ self.capacity, self.entries.length + 2 ≤ slots) :
    ((self.insert a x).1.insert b y).1 = ((self.insert b y).1.insert a x).1 := by
  have first (key : K) (value : V) := self.insert_of_free key value fun slots mem => by
    have := free slots mem
    omega
  have second (key : K) (value : V) (key' : K) (value' : V) :=
    (self.insert key value).1.insert_of_free key' value' fun slots mem => by
      rw [(first key value).2] at mem
      have := free slots mem
      have := self.length_insertEntry_le key value
      rw [(first key value).1]
      omega
  refine ext_of_entries ?_ (by rw [(second a x b y).2, (second b y a x).2, (first a x).2, (first b y).2])
  rw [(second a x b y).1, (second b y a x).1, (first a x).1, (first b y).1]
  exact self.sorted.insertEntry_comm x y distinct

end ManagedMap

end Ethox.Managed
