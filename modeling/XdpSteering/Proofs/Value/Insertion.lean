import XdpSteering.Proofs.Value.Merge

/-!
# Insertion into trees

A value put at a path of keys changes nothing at a path that parts from it. Trees that say the same
about a path say the same about it in a pile.
-/

namespace XdpSteering.Value

/-- Puts a value at a path of keys, in place of the one that is there. Dictionaries on the way are
made where there is nothing, and a tree is left as it is where something else is in the way. -/
def insertAt : List String → Value → Value → Value
  | [], value, _ => value
  | key :: rest, value, .dict entries =>
    let below := (KeyedList.find? key entries).getD (.dict [])
    .dict (KeyedList.insert key (insertAt rest value below) entries)
  | _ :: _, _, tree => tree

variable {key name : String} {tree value : Value} {path : List String}

theorem isDict_insertAt (h : tree.IsDict) (hpath : path ≠ []) :
    (insertAt path value tree).IsDict := by
  obtain ⟨entries, rfl⟩ := h
  cases path with
  | nil => exact absurd rfl hpath
  | cons key rest => exact ⟨_, rfl⟩

theorem ordered_insertAt (h : tree.Ordered) (hvalue : value.Ordered) (path : List String) :
    (insertAt path value tree).Ordered := by
  induction path generalizing tree with
  | nil => exact hvalue
  | cons key rest ih =>
    cases tree with
    | dict entries =>
      refine ordered_insert h key (ih ?_)
      cases hfind : KeyedList.find? key entries with
      | none => exact .dict List.Pairwise.nil (by simp)
      | some below => exact h.find? hfind
    | _ => exact h

theorem get?_insertAt_of_ne {other : String} (rest : List String) (h : other ≠ key) :
    (insertAt (key :: rest) value tree).get? other = tree.get? other := by
  cases tree with
  | dict entries => exact KeyedList.find?_insert_of_ne _ entries h
  | _ => rfl

theorem get?_insertAt_self {entries : List (String × Value)} (rest : List String) :
    (insertAt (key :: rest) value (.dict entries)).get? key
      = some (insertAt rest value ((KeyedList.find? key entries).getD (.dict []))) :=
  KeyedList.find?_insert_self key _ entries

/-! ## Other paths -/

theorem mention_insertAt_of_ne {other : String} (rest more : List String) (h : other ≠ key) :
    (insertAt (key :: rest) value tree).mention (other :: more) = tree.mention (other :: more) := by
  cases tree with
  | dict entries => simp only [insertAt, mention, KeyedList.find?_insert_of_ne _ entries h]
  | _ => rfl

/-- A dictionary without a key says as little about it as no dictionary at all. -/
theorem mention_insertAt_inner {inner other : String} (h : other ≠ inner) :
    (insertAt [name, inner] value tree).mention [name, other] = tree.mention [name, other] := by
  cases tree with
  | dict entries =>
    have hinner (below : Value) :
        (insertAt [inner] value below).mention [other] = below.mention [other] :=
      mention_insertAt_of_ne [] [] h
    simp only [insertAt, mention, KeyedList.find?_insert_self]
    cases KeyedList.find? name entries with
    | none => exact hinner (.dict [])
    | some below => exact hinner below
  | _ => rfl

/-! ## Piles -/

def SayTheSame (path : List String) (trees others : List Value) : Prop :=
  List.Forall₂ (fun tree other : Value => tree.mention path = other.mention path) trees others

theorem at?_foldl_merge {trees others : List Value} (h : SayTheSame path trees others)
    (htrees : ∀ tree ∈ trees, tree.Ordered) (hothers : ∀ tree ∈ others, tree.Ordered)
    {lower below : Value} (hlower : lower.at? path = below.at? path) :
    (trees.foldl merge lower).at? path = (others.foldl merge below).at? path := by
  induction h generalizing lower below with
  | nil => exact hlower
  | @cons tree other trees others hsame _ ih =>
    obtain ⟨htree, hrest⟩ := List.forall_mem_cons.mp htrees
    obtain ⟨hother, hmore⟩ := List.forall_mem_cons.mp hothers
    refine ih hrest hmore ?_
    rw [at?_merge path lower htree, at?_merge path below hother, hsame, hlower]

theorem at?_pile_of_sayTheSame {trees others : List Value} (h : SayTheSame path trees others)
    (htrees : ∀ tree ∈ trees, tree.Ordered) (hothers : ∀ tree ∈ others, tree.Ordered) :
    (pile trees).at? path = (pile others).at? path :=
  at?_foldl_merge h htrees hothers rfl

end XdpSteering.Value
