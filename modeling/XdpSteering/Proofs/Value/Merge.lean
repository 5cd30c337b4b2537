import Mathlib.Data.List.Induction
import XdpSteering.Proofs.Value.Ordered

/-!
# Look-ups in merged trees

A path of keys leads to a value in a merged tree when the upper tree has it, or when the upper tree
says nothing about it and the lower one has it. A pile of trees is therefore searched from the top.
-/

namespace XdpSteering.Value

/-! ## One tree over another -/

def mergeOver (below : Option Value) (value : Value) : Value :=
  match below with
  | some below => merge below value
  | none => value

theorem mergeOver_of_not_dict {value : Value} (h : ¬ value.IsDict) (below : Option Value) :
    mergeOver below value = value := by
  cases below with
  | none => rfl
  | some below =>
    cases value with
    | dict entries => exact absurd ⟨entries, rfl⟩ h
    | _ => rfl

theorem isDict_merge (below : Value) {value : Value} (h : value.IsDict) :
    (merge below value).IsDict := by
  obtain ⟨entries, rfl⟩ := h
  cases below with
  | dict lower => exact ⟨mergeEntries lower entries, rfl⟩
  | _ => exact ⟨entries, rfl⟩

theorem isDict_mergeOver (below : Option Value) {value : Value} (h : value.IsDict) :
    (mergeOver below value).IsDict := by
  cases below with
  | none => exact h
  | some below => exact isDict_merge below h

theorem mergeEntries_cons (lower : List (String × Value)) (key : String) (value : Value)
    (rest : List (String × Value)) :
    mergeEntries lower ((key, value) :: rest) =
      mergeEntries (KeyedList.insert key (mergeOver (KeyedList.find? key lower) value) lower)
        rest := by
  rw [mergeEntries]
  cases KeyedList.find? key lower <;> rfl

theorem find?_mergeEntries {upper : List (String × Value)}
    (hnodup : (upper.map Prod.fst).Nodup) (lower : List (String × Value)) (key : String) :
    KeyedList.find? key (mergeEntries lower upper) =
      match KeyedList.find? key upper with
      | some value => some (mergeOver (KeyedList.find? key lower) value)
      | none => KeyedList.find? key lower := by
  induction upper generalizing lower with
  | nil => simp [mergeEntries, KeyedList.find?]
  | cons entry rest ih =>
    obtain ⟨k, value⟩ := entry
    rw [List.map_cons, List.nodup_cons] at hnodup
    rw [mergeEntries_cons, ih hnodup.2]
    by_cases hk : k = key
    · subst hk
      have hrest : KeyedList.find? k rest = none :=
        KeyedList.find?_eq_none_iff.mpr fun entry hmem heq =>
          hnodup.1 (List.mem_map.mpr ⟨entry, hmem, heq⟩)
      simp [hrest, KeyedList.find?, KeyedList.find?_insert_self]
    · rw [KeyedList.find?_insert_of_ne _ _ (Ne.symm hk)]
      simp [KeyedList.find?, hk]

theorem get?_merge_dict {upper : List (String × Value)} (h : Ordered (.dict upper))
    (lower : Value) (key : String) :
    (merge lower (.dict upper)).get? key =
      match KeyedList.find? key upper with
      | some value => some (mergeOver (lower.get? key) value)
      | none => lower.get? key := by
  cases lower with
  | dict entries =>
    simpa [merge, get?] using find?_mergeEntries h.ascending.nodup_keys entries key
  | _ =>
    simp only [merge, get?, mergeOver]
    cases KeyedList.find? key upper <;> rfl

/-- What is no dictionary stands in a merged tree as it is written in the upper one. -/
theorem get?_merge_of_leaf {upper value : Value} {key : String} (hdict : upper.IsDict)
    (hordered : upper.Ordered) (hvalue : upper.get? key = some value) (hleaf : ¬ value.IsDict)
    (lower : Value) : (merge lower upper).get? key = some value := by
  obtain ⟨entries, rfl⟩ := hdict
  have hfind : KeyedList.find? key entries = some value := hvalue
  rw [get?_merge_dict hordered, hfind]
  simp only [mergeOver_of_not_dict hleaf]

/-- What the upper tree does not have stands in a merged tree as in the lower one. -/
theorem get?_merge_of_none {upper : Value} {key : String} (hdict : upper.IsDict)
    (hordered : upper.Ordered) (hnone : upper.get? key = none) (lower : Value) :
    (merge lower upper).get? key = lower.get? key := by
  obtain ⟨entries, rfl⟩ := hdict
  have hfind : KeyedList.find? key entries = none := hnone
  rw [get?_merge_dict hordered, hfind]

/-! ## Trees that agree but for a key -/

/-- The trees have the same under every key but one. -/
def AgreeOff (key : String) (a b : Value) : Prop := ∀ other ≠ key, a.get? other = b.get? other

theorem agreeOff_merge_single (tree : Value) (key : String) (value : Value) :
    AgreeOff key (merge tree (.dict [(key, value)])) tree := by
  intro other hother
  cases tree with
  | dict entries =>
    simp only [merge, mergeEntries, get?]
    rw [KeyedList.find?_insert_of_ne _ _ hother]
  | _ => simp [merge, get?, KeyedList.find?, hother.symm]

variable {key : String} {a b upper : Value}

theorem AgreeOff.symm (h : AgreeOff key a b) : AgreeOff key b a :=
  fun other hother => (h other hother).symm

theorem AgreeOff.merge_lower (h : AgreeOff key a b) (hdict : upper.IsDict)
    (hordered : upper.Ordered) : AgreeOff key (merge a upper) (merge b upper) := by
  intro other hother
  obtain ⟨entries, rfl⟩ := hdict
  rw [get?_merge_dict hordered, get?_merge_dict hordered, h other hother]

theorem AgreeOff.merge_upper {lower : Value} (h : AgreeOff key a b) (ha : a.IsDict ∧ a.Ordered)
    (hb : b.IsDict ∧ b.Ordered) : AgreeOff key (merge lower a) (merge lower b) := by
  intro other hother
  obtain ⟨⟨first, rfl⟩, hfirst⟩ := ha
  obtain ⟨⟨second, rfl⟩, hsecond⟩ := hb
  have heq : KeyedList.find? other first = KeyedList.find? other second := h other hother
  rw [get?_merge_dict hfirst, get?_merge_dict hsecond, heq]

/-- A dictionary is determined by its look-ups. -/
theorem eq_of_get?_eq (ha : a.IsDict ∧ a.Ordered) (hb : b.IsDict ∧ b.Ordered)
    (h : ∀ key, a.get? key = b.get? key) : a = b := by
  obtain ⟨⟨first, rfl⟩, hfirst⟩ := ha
  obtain ⟨⟨second, rfl⟩, hsecond⟩ := hb
  rw [hfirst.ascending.ext hsecond.ascending h]

/-- What is laid over the key makes up for the difference, unless it is a dictionary. -/
theorem AgreeOff.merge_eq {value : Value} (h : AgreeOff key a b) (ha : a.Ordered)
    (hb : b.Ordered) (hdict : upper.IsDict) (hordered : upper.Ordered)
    (hvalue : upper.get? key = some value) (hleaf : ¬ value.IsDict) :
    merge a upper = merge b upper := by
  refine eq_of_get?_eq ⟨isDict_merge a hdict, ordered_merge ha hordered⟩
    ⟨isDict_merge b hdict, ordered_merge hb hordered⟩ fun other => ?_
  by_cases hother : other = key
  · rw [hother, get?_merge_of_leaf hdict hordered hvalue hleaf,
      get?_merge_of_leaf hdict hordered hvalue hleaf]
  · exact h.merge_lower hdict hordered other hother

/-! ## Paths -/

inductive Mention where
  | value (value : Value)
  /-- A dictionary on the way does not have the next key. -/
  | silent
  /-- A value on the way is no dictionary. -/
  | blocked

def mention : List String → Value → Mention
  | [], value => .value value
  | key :: rest, .dict entries =>
    match KeyedList.find? key entries with
    | some value => mention rest value
    | none => .silent
  | _ :: _, _ => .blocked

theorem at?_singleton (key : String) (tree : Value) : tree.at? [key] = tree.get? key := by
  rw [at?]
  cases tree.get? key <;> rfl

theorem at?_pair {name : String} {tree value : Value} (h : tree.get? name = some value)
    (key : String) : tree.at? [name, key] = value.get? key := by
  rw [at?, h, Option.bind_some, at?_singleton]

theorem at?_eq_mention (path : List String) (tree : Value) :
    tree.at? path =
      match tree.mention path with
      | .value value => some value
      | _ => none := by
  induction path generalizing tree with
  | nil => rfl
  | cons key rest ih =>
    cases tree with
    | dict entries =>
      simp only [at?, get?, mention]
      cases KeyedList.find? key entries with
      | none => rfl
      | some value => exact ih value
    | _ => rfl

theorem at?_merge (path : List String) (lower : Value) {upper : Value} (h : upper.Ordered) :
    (merge lower upper).at? path =
      match upper.mention path with
      | .value value => some (mergeOver (lower.at? path) value)
      | .silent => lower.at? path
      | .blocked => none := by
  induction path generalizing lower upper with
  | nil => rfl
  | cons key rest ih =>
    cases upper with
    | dict entries =>
      simp only [at?, mention, get?_merge_dict h]
      cases hfind : KeyedList.find? key entries with
      | none => rfl
      | some value =>
        cases lower.get? key with
        | none =>
          simp only [Option.bind_some, Option.bind_none, mergeOver, at?_eq_mention]
          cases value.mention rest <;> rfl
        | some below => exact ih below (h.find? hfind)
    | _ => rfl

/-! ## Piles of trees -/

/-- Searches a pile of trees, the uppermost first, for the value at a path. The search ends at a
tree in which something stands in the way. -/
def firstMention (path : List String) : List Value → Option Value
  | [] => none
  | tree :: lower =>
    match tree.mention path with
    | .value value => some value
    | .silent => firstMention path lower
    | .blocked => none

/-- The trees laid over each other, the lowest first. -/
def pile (trees : List Value) : Value := trees.foldl merge (.dict [])

theorem pile_concat (trees : List Value) (tree : Value) :
    pile (trees ++ [tree]) = merge (pile trees) tree := by
  rw [pile, List.foldl_append]
  rfl

theorem ordered_pile {trees : List Value} (h : ∀ tree ∈ trees, tree.Ordered) :
    (pile trees).Ordered := by
  induction trees using List.reverseRecOn with
  | nil => exact .dict List.Pairwise.nil (by simp)
  | append_singleton trees tree ih =>
    rw [pile_concat]
    exact ordered_merge (ih fun t ht => h t (by simp [ht])) (h tree (by simp))

theorem isDict_pile {trees : List Value} (h : ∀ tree ∈ trees, tree.IsDict) :
    (pile trees).IsDict := by
  induction trees using List.reverseRecOn with
  | nil => exact ⟨[], rfl⟩
  | append_singleton trees tree _ =>
    rw [pile_concat]
    exact isDict_merge _ (h tree (by simp))

/-- A pile has at a path what the search finds, laid over something if it is a dictionary. -/
theorem at?_pile {path : List String} (hpath : path ≠ []) {trees : List Value}
    (h : ∀ tree ∈ trees, tree.Ordered) :
    ∃ below, (pile trees).at? path = (firstMention path trees.reverse).map (mergeOver below) := by
  induction trees using List.reverseRecOn with
  | nil =>
    cases path with
    | nil => exact absurd rfl hpath
    | cons key rest => exact ⟨none, rfl⟩
  | append_singleton trees tree ih =>
    -- The last tree is the uppermost, and so the first that is searched.
    rw [pile_concat, List.reverse_concat, at?_merge path _ (h tree (by simp)), firstMention]
    cases tree.mention path with
    | value value => exact ⟨(pile trees).at? path, rfl⟩
    | silent => exact ih fun t ht => h t (by simp [ht])
    | blocked => exact ⟨none, rfl⟩

/-! ## What stands in the way -/

theorem mention_eq_silent {path : List String} {tree : Value}
    (hfree : tree.mention path ≠ .blocked) (hnone : tree.at? path = none) :
    tree.mention path = .silent := by
  rw [at?_eq_mention] at hnone
  cases hmention : tree.mention path with
  | value value => simp [hmention] at hnone
  | silent => rfl
  | blocked => exact absurd hmention hfree

theorem mention_key_ne_blocked {tree : Value} (h : tree.IsDict) (key : String) :
    tree.mention [key] ≠ .blocked := by
  obtain ⟨entries, rfl⟩ := h
  simp only [mention]
  cases KeyedList.find? key entries with
  | none => exact Mention.noConfusion
  | some value => exact Mention.noConfusion

theorem mention_pair_ne_blocked {tree : Value} (h : tree.IsDict) {name : String}
    (hinner : ∀ value, tree.get? name = some value → value.IsDict) (key : String) :
    tree.mention [name, key] ≠ .blocked := by
  obtain ⟨entries, rfl⟩ := h
  cases hfind : KeyedList.find? name entries with
  | none =>
    rw [mention, hfind]
    exact Mention.noConfusion
  | some value =>
    rw [mention, hfind]
    exact mention_key_ne_blocked (hinner value hfind) key

theorem exists_of_firstMention {path : List String} {trees : List Value} {value : Value}
    (h : firstMention path trees = some value) : ∃ tree ∈ trees, tree.at? path = some value := by
  induction trees with
  | nil => cases h
  | cons tree lower ih =>
    rw [firstMention] at h
    cases hmention : tree.mention path with
    | value found =>
      rw [hmention] at h
      exact ⟨tree, List.mem_cons_self, by rw [at?_eq_mention, hmention, ← h]⟩
    | silent =>
      rw [hmention] at h
      obtain ⟨other, hmem, hother⟩ := ih h
      exact ⟨other, List.mem_cons_of_mem _ hmem, hother⟩
    | blocked =>
      rw [hmention] at h
      cases h

theorem firstMention_append_of_silent {path : List String} {upper : List Value}
    (h : ∀ tree ∈ upper, tree.mention path = .silent) (lower : List Value) :
    firstMention path (upper ++ lower) = firstMention path lower := by
  induction upper with
  | nil => rfl
  | cons tree rest ih =>
    rw [List.cons_append, firstMention, h tree List.mem_cons_self]
    exact ih fun t ht => h t (List.mem_cons_of_mem _ ht)

theorem firstMention_isSome {path : List String} {trees : List Value}
    (hfree : ∀ tree ∈ trees, tree.mention path ≠ .blocked)
    (h : ∃ tree ∈ trees, (tree.at? path).isSome) : (firstMention path trees).isSome := by
  induction trees with
  | nil => simp at h
  | cons tree lower ih =>
    rw [firstMention]
    cases hmention : tree.mention path with
    | value value => rfl
    | blocked => exact absurd hmention (hfree tree List.mem_cons_self)
    | silent =>
      refine ih (fun t ht => hfree t (List.mem_cons_of_mem _ ht)) ?_
      obtain ⟨other, hmem, hother⟩ := h
      rcases List.mem_cons.mp hmem with rfl | hmem
      · rw [at?_eq_mention, hmention] at hother
        cases hother
      · exact ⟨other, hmem, hother⟩

/-- A tree without the value at a path leaves what is at the path as it is, if nothing in the tree
stands in the way. -/
theorem at?_pile_concat_of_silent {path : List String} {trees : List Value} {tree : Value}
    (hordered : tree.Ordered) (h : tree.mention path = .silent) :
    (pile (trees ++ [tree])).at? path = (pile trees).at? path := by
  rw [pile_concat, at?_merge path _ hordered, h]

end XdpSteering.Value
