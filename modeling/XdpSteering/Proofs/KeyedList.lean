import Mathlib.Data.List.Induction
import Mathlib.Data.List.Nodup
import XdpSteering.KeyedList

/-!
# Keyed lists in order

The changes of a keyed list keep its keys ascending, and in an ascending list a key is found exactly
when its entry is there. Lists with the same look-ups are therefore equal.
-/

namespace XdpSteering.KeyedList

variable {κ β : Type} [DecidableEq κ]

theorem mem_of_find?_eq_some {key : κ} {value : β} {entries : KeyedList κ β}
    (h : find? key entries = some value) : (key, value) ∈ entries := by
  induction entries with
  | nil => simp [find?] at h
  | cons entry rest ih =>
    obtain ⟨k, v⟩ := entry
    by_cases hk : k = key
    · have hv : v = value := by simpa [find?, hk] using h
      rw [hk, hv]
      exact List.mem_cons_self
    · have hrest : find? key rest = some value := by simpa [find?, hk] using h
      exact List.mem_cons_of_mem _ (ih hrest)

theorem find?_eq_map_find? (key : κ) (entries : KeyedList κ β) :
    find? key entries = (List.find? (fun entry => entry.1 = key) entries).map Prod.snd := by
  induction entries with
  | nil => rfl
  | cons entry rest ih =>
    obtain ⟨k, v⟩ := entry
    by_cases hk : k = key
    · simp [find?, hk]
    · simp [find?, hk, ih]

theorem find?_eq_none_iff {key : κ} {entries : KeyedList κ β} :
    find? key entries = none ↔ ∀ entry ∈ entries, entry.1 ≠ key := by
  induction entries with
  | nil => simp [find?]
  | cons entry rest ih =>
    obtain ⟨k, v⟩ := entry
    by_cases hk : k = key
    · simp [find?, hk]
    · simp [find?, hk, ih]

theorem find?_eq_some_iff_mem_of_nodup {key : κ} {value : β} {entries : KeyedList κ β}
    (h : (entries.map Prod.fst).Nodup) :
    find? key entries = some value ↔ (key, value) ∈ entries := by
  refine ⟨mem_of_find?_eq_some, fun hmem => ?_⟩
  induction entries with
  | nil => simp at hmem
  | cons entry rest ih =>
    obtain ⟨k, v⟩ := entry
    rw [List.map_cons, List.nodup_cons] at h
    rcases List.mem_cons.mp hmem with heq | hrest
    · obtain ⟨rfl, rfl⟩ := Prod.mk.inj heq
      simp [find?]
    · have hk : k ≠ key := fun hk => h.1 (List.mem_map.mpr ⟨_, hrest, hk.symm⟩)
      simpa [find?, hk] using ih h.2 hrest

/-- The last pair with a key counts. -/
theorem find?_ofList [LT κ] [DecidableLT κ] (key : κ) (pairs : List (κ × β)) :
    find? key (ofList pairs) = (pairs.reverse.find? fun pair => pair.1 = key).map Prod.snd := by
  induction pairs using List.reverseRecOn with
  | nil => rfl
  | append_singleton pairs pair ih =>
    rw [ofList, List.foldl_append, List.foldl_cons, List.foldl_nil, ← ofList, List.reverse_concat]
    by_cases hkey : pair.1 = key
    · subst hkey
      rw [find?_insert_self, List.find?_cons_of_pos (by simp), Option.map_some]
    · rw [find?_insert_of_ne _ _ (Ne.symm hkey), List.find?_cons_of_neg (by simpa using hkey), ih]

/-! ## Lengths -/

theorem erase_eq_self {key : κ} {entries : KeyedList κ β} (h : find? key entries = none) :
    erase key entries = entries := by
  rw [erase, List.filter_eq_self]
  intro entry hentry
  simpa using find?_eq_none_iff.mp h entry hentry

theorem length_erase_lt {key : κ} {value : β} {entries : KeyedList κ β}
    (h : find? key entries = some value) : (erase key entries).length < entries.length := by
  rw [erase, List.length_filter_lt_length_iff_exists]
  exact ⟨(key, value), mem_of_find?_eq_some h, by simp⟩

/-! ## Keys in order -/

section Strict

variable [LT κ]

omit [DecidableEq κ] in
theorem Ascending.nodup_keys [Std.Irrefl (α := κ) (· < ·)] {entries : KeyedList κ β}
    (h : Ascending entries) : (entries.map Prod.fst).Nodup := by
  rw [List.Nodup, List.pairwise_map]
  refine h.imp fun {a b} hlt heq => ?_
  rw [heq] at hlt
  exact Std.lt_irrefl hlt

theorem Ascending.find?_eq_some_iff_mem [Std.Irrefl (α := κ) (· < ·)] {key : κ} {value : β}
    {entries : KeyedList κ β} (h : Ascending entries) :
    find? key entries = some value ↔ (key, value) ∈ entries :=
  find?_eq_some_iff_mem_of_nodup h.nodup_keys

theorem Ascending.erase {entries : KeyedList κ β} (key : κ) (h : Ascending entries) :
    Ascending (erase key entries) :=
  h.filter _

theorem mem_of_mem_insert [DecidableLT κ] {key : κ} {value : β} {entries : KeyedList κ β}
    {entry : κ × β} (h : entry ∈ insert key value entries) :
    entry = (key, value) ∨ entry ∈ entries := by
  induction entries with
  | nil => simpa [insert] using h
  | cons head rest ih =>
    obtain ⟨k, v⟩ := head
    unfold insert at h
    split at h
    · simpa using h
    · split at h
      · rcases List.mem_cons.mp h with heq | hmem
        · exact .inl heq
        · exact .inr (List.mem_cons_of_mem _ hmem)
      · rcases List.mem_cons.mp h with heq | hmem
        · exact .inr (heq ▸ List.mem_cons_self)
        · exact (ih hmem).imp_right (List.mem_cons_of_mem _)

end Strict

section Order

variable [LE κ] [LT κ] [Std.IsLinearOrder κ] [Std.LawfulOrderLT κ]

/-- An ascending list is determined by its look-ups. -/
theorem Ascending.ext {a b : KeyedList κ β} (ha : Ascending a) (hb : Ascending b)
    (h : ∀ key, find? key a = find? key b) : a = b := by
  have hperm : a.Perm b := by
    rw [List.perm_ext_iff_of_nodup ha.nodup_keys.of_map hb.nodup_keys.of_map]
    rintro ⟨key, value⟩
    rw [← ha.find?_eq_some_iff_mem, ← hb.find?_eq_some_iff_mem, h key]
  refine hperm.eq_of_pairwise (fun x y _ _ hxy hyx => ?_) ha hb
  exact absurd (Std.lt_trans hxy hyx) Std.lt_irrefl

theorem Ascending.insert [DecidableLT κ] {entries : KeyedList κ β} (key : κ) (value : β)
    (h : Ascending entries) : Ascending (insert key value entries) := by
  induction entries with
  | nil => simp [KeyedList.insert, Ascending]
  | cons head rest ih =>
    obtain ⟨k, v⟩ := head
    obtain ⟨hhead, hrest⟩ := List.pairwise_cons.mp h
    unfold KeyedList.insert
    split
    · next hlt =>
      refine List.pairwise_cons.mpr ⟨fun entry hmem => ?_, h⟩
      rcases List.mem_cons.mp hmem with heq | hmem
      · rw [heq]
        exact hlt
      · exact Std.lt_trans hlt (hhead entry hmem)
    · next hlt =>
      split
      · next heq =>
        rw [← heq]
        exact List.pairwise_cons.mpr ⟨hhead, hrest⟩
      · next hne =>
        refine List.pairwise_cons.mpr ⟨fun entry hmem => ?_, ih hrest⟩
        rcases mem_of_mem_insert hmem with heq | hmem
        · rw [heq]
          exact Std.lt_of_le_of_ne (Std.not_lt.mp hlt) hne
        · exact hhead entry hmem

/-- Only a new key makes the list longer. -/
theorem Ascending.length_insert [DecidableLT κ] {entries : KeyedList κ β} (key : κ) (value : β)
    (h : Ascending entries) :
    (KeyedList.insert key value entries).length
      = if (find? key entries).isSome then entries.length else entries.length + 1 := by
  induction entries with
  | nil => rfl
  | cons head rest ih =>
    obtain ⟨k, v⟩ := head
    obtain ⟨hhead, hrest⟩ := List.pairwise_cons.mp h
    unfold KeyedList.insert
    split
    · next hlt =>
      have habsent : find? key ((k, v) :: rest) = none := by
        rw [find?_eq_none_iff]
        intro entry hmem heq
        rcases List.mem_cons.mp hmem with rfl | hmem
        · exact absurd (heq ▸ hlt) Std.lt_irrefl
        · exact absurd (heq ▸ Std.lt_trans hlt (hhead entry hmem)) Std.lt_irrefl
      simp [habsent]
    · split
      · next heq => simp [find?, heq]
      · next hne =>
        rw [List.length_cons, ih hrest, find?, if_neg hne, List.length_cons]
        split <;> rfl

end Order

end XdpSteering.KeyedList
