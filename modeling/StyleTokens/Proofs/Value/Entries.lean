import Mathlib.Data.List.Nodup
import StyleTokens.Value

/-! Entries whose keys collide. Of the entries with one key, one is kept: it stands where the first of
them stands, and has the value of the last of them. -/

set_option autoImplicit false

namespace StyleTokens

variable {α : Type} {entries given kept : List (String × α)} {key : String}

/-! ### Setting one entry -/

theorem setEntry_of_new (new : key ∉ entries.map Prod.fst) (value : α) :
    setEntry key value entries = entries ++ [(key, value)] := by
  induction entries with
  | nil => rfl
  | cons entry entries ih =>
    rw [List.map_cons, List.mem_cons, not_or] at new
    rw [setEntry, if_neg (Ne.symm new.1), ih new.2, List.cons_append]

theorem keys_setEntry_of_known (known : key ∈ entries.map Prod.fst) (value : α) :
    (setEntry key value entries).map Prod.fst = entries.map Prod.fst := by
  induction entries with
  | nil => cases known
  | cons entry entries ih =>
    rw [setEntry]
    split
    · rfl
    · next other =>
      have later : key ∈ entries.map Prod.fst := (List.mem_cons.1 known).resolve_left (Ne.symm other)
      rw [List.map_cons, ih later, List.map_cons]

theorem lookup_entry_cons (known : String) (value : α) (entries : List (String × α)) (asked : String) :
    ((known, value) :: entries).lookup asked =
      if asked = known then some value else entries.lookup asked := by
  by_cases same : asked = known
  · rw [if_pos same, same, List.lookup_cons_self]
  · rw [if_neg same, List.lookup_cons, beq_eq_false_iff_ne.2 same]

theorem lookup_setEntry (key : String) (value : α) (entries : List (String × α)) (asked : String) :
    (setEntry key value entries).lookup asked =
      if asked = key then some value else entries.lookup asked := by
  induction entries with
  | nil => exact lookup_entry_cons key value [] asked
  | cons entry entries ih =>
    obtain ⟨known, old⟩ := entry
    rw [setEntry]
    split
    · next same =>
      subst same
      rw [lookup_entry_cons, lookup_entry_cons]
      split <;> rfl
    · next other =>
      rw [lookup_entry_cons, lookup_entry_cons, ih]
      by_cases here : asked = known
      · rw [if_pos here, if_neg (here ▸ other)]
        exact (if_pos here).symm
      · rw [if_neg here, if_neg here]

/-! ### Entries with each key once -/

/-- What is kept of entries whose keys may collide. -/
structure Collapses (given kept : List (String × α)) : Prop where
  once : (kept.map Prod.fst).Nodup
  keys : ∀ key, key ∈ kept.map Prod.fst ↔ key ∈ given.map Prod.fst
  /-- The keys stand in the order of their first places. -/
  order : (kept.map Prod.fst).Pairwise fun key later =>
    (given.map Prod.fst).idxOf key < (given.map Prod.fst).idxOf later
  /-- The entry that is found first from the end has the value. -/
  last : ∀ key, kept.lookup key = given.reverse.lookup key

namespace Collapses

theorem nil : Collapses ([] : List (String × α)) [] :=
  ⟨List.nodup_nil, fun _ => Iff.rfl, .nil, fun _ => rfl⟩

/-- What is added behind does not move the first place of a key. -/
theorem order_append (collapses : Collapses given kept) (added : List (String × α)) :
    (kept.map Prod.fst).Pairwise fun key later =>
      ((given ++ added).map Prod.fst).idxOf key < ((given ++ added).map Prod.fst).idxOf later := by
  refine collapses.order.imp_of_mem fun inside later before => ?_
  rwa [List.map_append, List.idxOf_append_of_mem ((collapses.keys _).1 inside),
    List.idxOf_append_of_mem ((collapses.keys _).1 later)]

theorem set (collapses : Collapses given kept) (key : String) (value : α) :
    Collapses (given ++ [(key, value)]) (setEntry key value kept) := by
  have last (asked : String) : (setEntry key value kept).lookup asked =
      (given ++ [(key, value)]).reverse.lookup asked := by
    rw [lookup_setEntry, List.reverse_concat, lookup_entry_cons, collapses.last]
  have order := collapses.order_append [(key, value)]
  by_cases known : key ∈ kept.map Prod.fst
  · have same := keys_setEntry_of_known known value
    refine ⟨same ▸ collapses.once, fun asked => ?_, same ▸ order, last⟩
    rw [same, collapses.keys, List.map_append, List.mem_append, List.map_singleton, List.mem_singleton]
    exact ⟨.inl, fun inside => inside.elim id fun here => here ▸ (collapses.keys key).1 known⟩
  · have new : key ∉ given.map Prod.fst := fun inside => known ((collapses.keys key).2 inside)
    have keys : (kept ++ [(key, value)]).map Prod.fst = kept.map Prod.fst ++ [key] := List.map_append
    rw [setEntry_of_new known] at last ⊢
    refine ⟨?_, fun asked => ?_, ?_, last⟩
    · rw [keys, ← List.concat_eq_append, List.nodup_concat]
      exact ⟨known, collapses.once⟩
    · simp only [List.map_append, List.mem_append, collapses.keys]
    · rw [keys, List.pairwise_append]
      refine ⟨order, List.pairwise_singleton _ _, fun first inside last same => ?_⟩
      have before := (collapses.keys first).1 inside
      rw [List.mem_singleton.1 same, List.map_append, List.idxOf_append_of_mem before,
        List.idxOf_append_of_notMem new]
      exact Nat.lt_add_right _ (List.idxOf_lt_length_of_mem before)

end Collapses

theorem collapses_distinctEntries (entries : List (String × α)) :
    Collapses entries (distinctEntries entries) := by
  suffices added : ∀ given kept : List (String × α), Collapses given kept →
      Collapses (given ++ entries)
        (entries.foldl (fun known entry => setEntry entry.1 entry.2 known) kept) from
    added [] [] .nil
  induction entries with
  | nil => exact fun given kept collapses => (List.append_nil given).symm ▸ collapses
  | cons entry entries ih =>
    intro given kept collapses
    rw [List.append_cons]
    exact ih _ _ (collapses.set entry.1 entry.2)

/-- The last entry of a key is the one that is found from the end. -/
theorem lookup_reverse_of_last {value : α} {before after : List (String × α)}
    (split : given = before ++ (key, value) :: after) (last : key ∉ after.map Prod.fst) :
    given.reverse.lookup key = some value := by
  rw [List.lookup_eq_some_iff]
  refine ⟨after.reverse, before.reverse, by simp [split], fun entry inside => ?_⟩
  simp only [List.mem_map, not_exists, not_and] at last
  simpa using Ne.symm (last entry (List.mem_reverse.1 inside))

theorem lookup_eq_some_of_mem {value : α} (once : (entries.map Prod.fst).Nodup)
    (inside : (key, value) ∈ entries) : entries.lookup key = some value := by
  obtain ⟨before, after, rfl⟩ := List.append_of_mem inside
  rw [List.map_append, List.map_cons, List.nodup_middle, List.nodup_cons, List.mem_append,
    not_or] at once
  refine List.lookup_eq_some_iff.2 ⟨before, after, rfl, fun entry earlier => ?_⟩
  have other : key ≠ entry.1 := fun same => once.1.1 (List.mem_map.2 ⟨entry, earlier, same.symm⟩)
  simpa using other

/-- Nothing is kept that was not given. -/
theorem Collapses.subset (collapses : Collapses given kept) : kept ⊆ given := by
  intro entry inside
  have found := lookup_eq_some_of_mem collapses.once inside
  rw [collapses.last] at found
  obtain ⟨before, after, split, -⟩ := List.lookup_eq_some_iff.1 found
  have : entry ∈ given.reverse := by simp [split]
  exact List.mem_reverse.1 this

/-- Entries with distinct keys stay as they are. -/
theorem distinctEntries_of_nodup (once : (entries.map Prod.fst).Nodup) :
    distinctEntries entries = entries := by
  suffices added : ∀ known : List (String × α), ((known ++ entries).map Prod.fst).Nodup →
      entries.foldl (fun known entry => setEntry entry.1 entry.2 known) known = known ++ entries from
    added [] once
  clear once
  induction entries with
  | nil => exact fun known _ => (List.append_nil known).symm
  | cons entry entries ih =>
    intro known once
    have new : entry.1 ∉ known.map Prod.fst := by
      rw [List.map_append, List.map_cons, List.nodup_middle, List.nodup_cons] at once
      exact fun inside => once.1 (List.mem_append_left _ inside)
    rw [List.append_cons] at once ⊢
    rw [List.foldl_cons, setEntry_of_new new, ih _ once]

/-! ### Entries made from others -/

section

variable {β : Type} (convert : String → α → β)

/-- The entry of the same key with a value made from both. -/
def convertEntry (entry : String × α) : String × β := (entry.1, convert entry.1 entry.2)

theorem setEntry_map (key : String) (value : α) (entries : List (String × α)) :
    setEntry key (convert key value) (entries.map (convertEntry convert)) =
      (setEntry key value entries).map (convertEntry convert) := by
  induction entries with
  | nil => rfl
  | cons entry entries ih =>
    rw [List.map_cons, convertEntry, setEntry, setEntry]
    split
    · next same => rw [List.map_cons, convertEntry, same]
    · rw [ih, List.map_cons, convertEntry]

/-- It is the same whether entries collapse before their values are converted or after. -/
theorem distinctEntries_map (entries : List (String × α)) :
    distinctEntries (entries.map (convertEntry convert)) =
      (distinctEntries entries).map (convertEntry convert) := by
  suffices added : ∀ known : List (String × α),
      (entries.map (convertEntry convert)).foldl (fun known entry => setEntry entry.1 entry.2 known)
          (known.map (convertEntry convert)) =
        (entries.foldl (fun known entry => setEntry entry.1 entry.2 known) known).map
          (convertEntry convert) from added []
  induction entries with
  | nil => exact fun known => rfl
  | cons entry entries ih =>
    intro known
    rw [List.map_cons, List.foldl_cons, List.foldl_cons, convertEntry, setEntry_map, ih]

theorem lookup_map_convertEntry (entries : List (String × α)) (key : String) :
    (entries.map (convertEntry convert)).lookup key = (entries.lookup key).map (convert key) := by
  induction entries with
  | nil => rfl
  | cons entry entries ih =>
    obtain ⟨known, value⟩ := entry
    rw [List.map_cons, convertEntry, lookup_entry_cons, lookup_entry_cons, ih]
    split
    · next same => rw [same, Option.map_some]
    · rfl

end

end StyleTokens
