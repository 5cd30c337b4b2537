import XdpSteering.Proofs.KeyedList
import XdpSteering.Value

/-!
# Trees with their keys in order

The dictionaries of a tree list every key once, in ascending order. Whatever builds trees from such
trees builds such a tree again.
-/

namespace XdpSteering.Value

def IsDict (value : Value) : Prop := ∃ entries, value = .dict entries

def IsList (value : Value) : Prop := ∃ items, value = .list items

theorem IsDict.not_isList {value : Value} (h : value.IsDict) : ¬ value.IsList := by
  obtain ⟨entries, rfl⟩ := h
  rintro ⟨items, heq⟩
  cases heq

theorem not_isDict_text (text : String) : ¬ (Value.text text).IsDict := by
  rintro ⟨entries, heq⟩
  cases heq

theorem get?_ofPairs (key : String) (pairs : List (String × Value)) :
    (ofPairs pairs).get? key = (pairs.reverse.find? fun pair => pair.1 = key).map Prod.snd :=
  KeyedList.find?_ofList key pairs

/-- Every dictionary in the tree has its keys in ascending order. -/
inductive Ordered : Value → Prop where
  | null : Ordered .null
  | flag (value : Bool) : Ordered (.flag value)
  | number (value : Number) : Ordered (.number value)
  | char (value : Char) : Ordered (.char value)
  | text (value : String) : Ordered (.text value)
  | list {items : List Value} (inner : ∀ item ∈ items, Ordered item) : Ordered (.list items)
  | dict {entries : List (String × Value)} (ascending : KeyedList.Ascending entries)
      (inner : ∀ entry ∈ entries, Ordered entry.2) : Ordered (.dict entries)

theorem Ordered.find? {entries : List (String × Value)} (h : Ordered (.dict entries))
    {key : String} {value : Value} (hfind : KeyedList.find? key entries = some value) :
    Ordered value := by
  cases h with
  | dict _ hinner => exact hinner _ (KeyedList.mem_of_find?_eq_some hfind)

theorem Ordered.ascending {entries : List (String × Value)} (h : Ordered (.dict entries)) :
    KeyedList.Ascending entries := by
  cases h with
  | dict hascending _ => exact hascending

theorem ordered_insert {entries : List (String × Value)} (h : Ordered (.dict entries))
    (key : String) {value : Value} (hvalue : Ordered value) :
    Ordered (.dict (KeyedList.insert key value entries)) := by
  cases h with
  | dict hascending hinner =>
    refine .dict (hascending.insert key value) fun entry hmem => ?_
    rcases KeyedList.mem_of_mem_insert hmem with heq | hmem
    · rw [heq]
      exact hvalue
    · exact hinner entry hmem

theorem ordered_ofPairs {pairs : List (String × Value)}
    (h : ∀ pair ∈ pairs, Ordered pair.2) : Ordered (ofPairs pairs) := by
  suffices hfold : ∀ entries : List (String × Value), Ordered (.dict entries) →
      Ordered (.dict (pairs.foldl
        (fun entries pair => KeyedList.insert pair.1 pair.2 entries) entries)) by
    exact hfold [] (.dict List.Pairwise.nil (by simp))
  induction pairs with
  | nil => exact fun _ hentries => hentries
  | cons pair rest ih =>
    intro entries hentries
    exact ih (fun p hp => h p (List.mem_cons_of_mem _ hp)) _
      (ordered_insert hentries pair.1 (h pair List.mem_cons_self))

theorem ordered_nest (keys : List String) {value : Value} (h : Ordered value) :
    Ordered (nest keys value) := by
  induction keys with
  | nil => exact h
  | cons key rest ih =>
    refine .dict (List.pairwise_singleton _ _) fun entry hmem => ?_
    rw [List.mem_singleton.mp hmem]
    exact ih

mutual

theorem ordered_merge {lower : Value} (hlower : Ordered lower) :
    ∀ {upper : Value}, Ordered upper → Ordered (merge lower upper)
  | .null, h | .flag _, h | .number _, h | .char _, h | .text _, h | .list _, h => by
    simpa [merge] using h
  | .dict entries, h => by
    unfold merge
    split
    · exact ordered_mergeEntries hlower entries fun entry hmem => by
        cases h with
        | dict _ hinner => exact hinner entry hmem
    · exact h

theorem ordered_mergeEntries {lower : List (String × Value)} (hlower : Ordered (.dict lower)) :
    ∀ (upper : List (String × Value)), (∀ entry ∈ upper, Ordered entry.2) →
      Ordered (.dict (mergeEntries lower upper))
  | [], _ => hlower
  | (key, value) :: rest, h => by
    have hvalue : Ordered value := h (key, value) List.mem_cons_self
    have hrest : ∀ entry ∈ rest, Ordered entry.2 := fun entry hmem =>
      h entry (List.mem_cons_of_mem _ hmem)
    unfold mergeEntries
    cases hbelow : KeyedList.find? key lower with
    | none => exact ordered_mergeEntries (ordered_insert hlower key hvalue) rest hrest
    | some below =>
      exact ordered_mergeEntries
        (ordered_insert hlower key (ordered_merge (hlower.find? hbelow) hvalue)) rest hrest

end

end XdpSteering.Value
