import Mathlib.Data.List.Nodup

/-! # Lists with at most one entry for each key

Entries are found by a key they carry. Adding an entry whose key is already
present and erasing the first entry of a key both keep the keys distinct, and
on distinct keys the erasure is complete.
-/

namespace Foundation.KeyedList

variable {α κ : Type*} [DecidableEq κ] (key : α → κ)

/-- No two entries share a key. -/
def Distinct (entries : List α) : Prop := (entries.map key).Nodup

def insertAbsent (entry : α) (entries : List α) : List α :=
  if entries.any (fun other => key other = key entry) then entries else entries ++ [entry]

variable {key}

theorem any_key_iff {entries : List α} {wanted : κ} :
    entries.any (fun entry => key entry = wanted) = true ↔ wanted ∈ entries.map key := by
  simp

theorem countP_key_le_one {entries : List α} (hdistinct : Distinct key entries) (wanted : κ) :
    entries.countP (fun entry => key entry = wanted) ≤ 1 := by
  have hcount := List.nodup_iff_count_le_one.mp hdistinct wanted
  rw [List.count, List.countP_map] at hcount
  exact hcount

theorem countP_key_pos {entries : List α} {wanted : κ} :
    0 < entries.countP (fun entry => key entry = wanted) ↔ wanted ∈ entries.map key := by
  simp [List.countP_pos_iff]

theorem distinct_insertAbsent {entries : List α} (entry : α) (hdistinct : Distinct key entries) :
    Distinct key (insertAbsent key entry entries) := by
  unfold insertAbsent
  split
  · exact hdistinct
  · next habsent =>
      rw [any_key_iff] at habsent
      unfold Distinct
      rw [List.map_append]
      refine List.nodup_append.mpr ⟨hdistinct, by simp, fun other hother last hlast heq => ?_⟩
      obtain rfl : last = key entry := by simpa using hlast
      exact habsent (heq ▸ hother)

theorem mem_keys_insertAbsent {entries : List α} (entry : α) (wanted : κ) :
    wanted ∈ (insertAbsent key entry entries).map key ↔
      wanted ∈ entries.map key ∨ wanted = key entry := by
  unfold insertAbsent
  split
  · next hpresent =>
      rw [any_key_iff] at hpresent
      constructor
      · exact Or.inl
      · rintro (hmem | rfl)
        · exact hmem
        · exact hpresent
  · simp

theorem mem_insertAbsent {entries : List α} {entry wanted : α}
    (hmem : wanted ∈ insertAbsent key entry entries) : wanted ∈ entries ∨ wanted = entry := by
  unfold insertAbsent at hmem
  split at hmem
  · exact Or.inl hmem
  · simpa using hmem

theorem distinct_eraseP {entries : List α} (gone : κ) (hdistinct : Distinct key entries) :
    Distinct key (entries.eraseP fun entry => key entry = gone) :=
  (List.eraseP_sublist.map key).nodup hdistinct

theorem mem_eraseP_iff {entries : List α} (gone : κ) (hdistinct : Distinct key entries)
    (entry : α) :
    entry ∈ entries.eraseP (fun other => key other = gone) ↔
      entry ∈ entries ∧ key entry ≠ gone := by
  induction entries with
  | nil => simp
  | cons first rest ih =>
      obtain ⟨hfresh, hrest⟩ := List.nodup_cons.mp (hdistinct : ((first :: rest).map key).Nodup)
      by_cases hfirst : key first = gone
      · rw [List.eraseP_cons_of_pos (by simp [hfirst])]
        constructor
        · intro hmem
          refine ⟨List.mem_cons_of_mem _ hmem, fun heq => hfresh ?_⟩
          rw [hfirst, ← heq]
          exact List.mem_map_of_mem hmem
        · rintro ⟨hmem, hne⟩
          cases List.mem_cons.mp hmem with
          | inl heq => exact absurd (heq ▸ hfirst) hne
          | inr hlater => exact hlater
      · rw [List.eraseP_cons_of_neg (by simp [hfirst]), List.mem_cons, ih hrest, List.mem_cons]
        constructor
        · rintro (rfl | ⟨hmem, hne⟩)
          · exact ⟨Or.inl rfl, hfirst⟩
          · exact ⟨Or.inr hmem, hne⟩
        · rintro ⟨rfl | hmem, hne⟩
          · exact Or.inl rfl
          · exact Or.inr ⟨hmem, hne⟩

theorem mem_keys_eraseP {entries : List α} (gone : κ) (hdistinct : Distinct key entries)
    (wanted : κ) :
    wanted ∈ (entries.eraseP fun entry => key entry = gone).map key ↔
      wanted ∈ entries.map key ∧ wanted ≠ gone := by
  simp only [List.mem_map, mem_eraseP_iff gone hdistinct]
  constructor
  · rintro ⟨entry, ⟨hmem, hne⟩, rfl⟩
    exact ⟨⟨entry, hmem, rfl⟩, hne⟩
  · rintro ⟨⟨entry, hmem, rfl⟩, hne⟩
    exact ⟨entry, ⟨hmem, hne⟩, rfl⟩

/-- What a walk over the entries yields for one key, if each entry yields the same value. -/
theorem filterMap_key {β : Type*} {entries : List α} (hdistinct : Distinct key entries)
    (wanted : κ) (value : β) :
    (entries.filterMap fun entry => if key entry = wanted then some value else none) =
      if wanted ∈ entries.map key then [value] else [] := by
  induction entries with
  | nil => rfl
  | cons first rest ih =>
      obtain ⟨hfresh, hrest⟩ := List.nodup_cons.mp (hdistinct : ((first :: rest).map key).Nodup)
      rw [List.filterMap_cons, ih hrest, List.map_cons]
      by_cases hfirst : key first = wanted
      · rw [hfirst] at hfresh
        rw [if_pos hfirst, if_neg hfresh, if_pos (by rw [hfirst]; exact List.mem_cons_self)]
      · rw [if_neg hfirst]
        have hmem : wanted ∈ key first :: rest.map key ↔ wanted ∈ rest.map key := by
          simp [Ne.symm hfirst]
        simp only [hmem]

/-- A list of pairs may be searched under other names of its keys. -/
theorem lookup_map_key {κ' β : Type*} [DecidableEq κ'] {rename : κ → κ'}
    (hinjective : Function.Injective rename) (entries : List (κ × β)) (wanted : κ) :
    (entries.map fun entry => (rename entry.1, entry.2)).lookup (rename wanted) =
      entries.lookup wanted := by
  induction entries with
  | nil => rfl
  | cons entry rest ih =>
      rw [List.map_cons, List.lookup_cons, List.lookup_cons, ih, hinjective.beq_eq]

end Foundation.KeyedList
