import Mathlib.Tactic.Common
import XdpSteering.Conf.Layers
import XdpSteering.Proofs.Fallible
import XdpSteering.Proofs.Value.Merge

/-!
# Trees that are read

Whatever a layer of settings is read from, it comes out as a dictionary, and all dictionaries in it
have their keys in order.
-/

namespace XdpSteering

open XdpSteering.Fallible

/-! ## Values on one line -/

namespace Conf.InlineValue

theorem ordered_plainValue (text : List Char) : (plainValue text).Ordered := by
  unfold plainValue
  split
  · split
    · exact .number _
    · exact .text _
  · split
    · exact .number _
    · split
      · exact .number _
      · exact .text _

theorem ordered_readChar {text rest : List Char} {value : Value}
    (h : readChar text = some (value, rest)) : value.Ordered := by
  unfold readChar at h
  split at h
  · split at h
    · obtain ⟨rfl, -⟩ := Prod.mk.inj (Option.some.inj h)
      exact .char _
    · cases h
  · cases h

/-- What is read with some fuel is in order, if what has been read so far is. -/
structure ReadsInOrder (fuel : Nat) : Prop where
  value : ∀ {text value rest}, readValue fuel text = some (value, rest) → value.Ordered
  items : ∀ {acc text items rest}, (∀ item ∈ acc, item.Ordered) →
    readItems fuel acc text = some (items, rest) → ∀ item ∈ items, item.Ordered
  entries : ∀ {acc text pairs rest}, (∀ pair ∈ acc, pair.2.Ordered) →
    readEntries fuel acc text = some (pairs, rest) → ∀ pair ∈ pairs, pair.2.Ordered

theorem ReadsInOrder.ordered_readValue {fuel : Nat} (ih : ReadsInOrder fuel)
    {text rest : List Char} {value : Value} (h : readValue (fuel + 1) text = some (value, rest)) :
    value.Ordered := by
  unfold readValue at h
  dsimp only at h
  split at h
  · obtain ⟨rfl, -⟩ := Prod.mk.inj (Option.some.inj h)
    exact .flag true
  · obtain ⟨rfl, -⟩ := Prod.mk.inj (Option.some.inj h)
    exact .flag false
  · obtain ⟨_, hinner, hreturn⟩ := Option.bind_eq_some_iff.mp h
    obtain ⟨⟨pairs, _⟩, hpairs, rfl⟩ := Option.map_eq_some_iff.mp hinner
    obtain ⟨rfl, -⟩ := Prod.mk.inj (Option.some.inj hreturn)
    exact Value.ordered_ofPairs (ih.entries (by simp) hpairs)
  · obtain ⟨_, hinner, hreturn⟩ := Option.bind_eq_some_iff.mp h
    obtain ⟨⟨items, _⟩, hitems, rfl⟩ := Option.map_eq_some_iff.mp hinner
    obtain ⟨rfl, -⟩ := Prod.mk.inj (Option.some.inj hreturn)
    exact .list (ih.items (by simp) hitems)
  · obtain ⟨_, hinner, hreturn⟩ := Option.bind_eq_some_iff.mp h
    obtain ⟨⟨text, _⟩, -, rfl⟩ := Option.map_eq_some_iff.mp hinner
    obtain ⟨rfl, -⟩ := Prod.mk.inj (Option.some.inj hreturn)
    exact .text text
  · split at h
    · obtain ⟨_, hchar, hreturn⟩ := Option.bind_eq_some_iff.mp h
      obtain ⟨rfl, -⟩ := Prod.mk.inj (Option.some.inj hreturn)
      exact ordered_readChar hchar
    · obtain ⟨rfl, -⟩ := Prod.mk.inj (Option.some.inj h)
      exact ordered_plainValue _

theorem ReadsInOrder.ordered_readItems {fuel : Nat} (ih : ReadsInOrder fuel)
    {acc items : List Value} {text rest : List Char} (hacc : ∀ item ∈ acc, item.Ordered)
    (h : readItems (fuel + 1) acc text = some (items, rest)) : ∀ item ∈ items, item.Ordered := by
  unfold readItems at h
  split at h
  · obtain ⟨rfl, -⟩ := Prod.mk.inj (Option.some.inj h)
    exact fun item hmem => hacc item (List.mem_reverse.mp hmem)
  obtain ⟨⟨value, after⟩, hvalue, h⟩ := Option.bind_eq_some_iff.mp h
  dsimp only at h
  have hnext : ∀ item ∈ value :: acc, item.Ordered :=
    List.forall_mem_cons.mpr ⟨ih.value hvalue, hacc⟩
  split at h
  · exact ih.items hnext h
  · obtain ⟨rfl, -⟩ := Prod.mk.inj (Option.some.inj h)
    exact fun item hmem => hnext item (List.mem_reverse.mp hmem)
  · cases h

theorem ReadsInOrder.ordered_readEntries {fuel : Nat} (ih : ReadsInOrder fuel)
    {acc pairs : List (String × Value)} {text rest : List Char}
    (hacc : ∀ pair ∈ acc, pair.2.Ordered)
    (h : readEntries (fuel + 1) acc text = some (pairs, rest)) :
    ∀ pair ∈ pairs, pair.2.Ordered := by
  unfold readEntries at h
  split at h
  · obtain ⟨rfl, -⟩ := Prod.mk.inj (Option.some.inj h)
    exact fun pair hmem => hacc pair (List.mem_reverse.mp hmem)
  obtain ⟨⟨key, behind⟩, -, h⟩ := Option.bind_eq_some_iff.mp h
  obtain ⟨⟨value, after⟩, hvalue, h⟩ := Option.bind_eq_some_iff.mp h
  dsimp only at h
  have hnext : ∀ pair ∈ (key, value) :: acc, pair.2.Ordered :=
    List.forall_mem_cons.mpr ⟨ih.value hvalue, hacc⟩
  split at h
  · exact ih.entries hnext h
  · obtain ⟨rfl, -⟩ := Prod.mk.inj (Option.some.inj h)
    exact fun pair hmem => hnext pair (List.mem_reverse.mp hmem)
  · cases h

theorem readsInOrder (fuel : Nat) : ReadsInOrder fuel := by
  induction fuel with
  | zero => exact ⟨nofun, nofun, nofun⟩
  | succ fuel ih => exact ⟨ih.ordered_readValue, ih.ordered_readItems, ih.ordered_readEntries⟩

theorem ordered_ofText (text : String) : (ofText text).Ordered := by
  unfold ofText
  split
  · next value hread => exact (readsInOrder _).value hread
  · exact .text text

end Conf.InlineValue

/-! ## The environment and the request -/

theorem Environment.settingPath?_ne_nil {name : Text.Octets} {path : List String}
    (h : settingPath? name = some path) : path ≠ [] := by
  unfold settingPath? at h
  dsimp only at h
  split at h
  · cases h
  · split at h
    · cases h
    · split at h
      · cases h
      · rw [← Option.some.inj h]
        exact mt List.map_eq_nil_iff.mp (List.splitOn_ne_nil _ _)

theorem Environment.layer_settings (environment : Environment) :
    environment.settings.IsDict ∧ environment.settings.Ordered := by
  rw [settings]
  induction environment using List.reverseRecOn with
  | nil => exact ⟨⟨[], rfl⟩, .dict List.Pairwise.nil (by simp)⟩
  | append_singleton environment entry ih =>
    rw [List.foldl_append, List.foldl_cons, List.foldl_nil]
    cases hpath : settingPath? entry.1 with
    | none => exact ih
    | some path =>
      refine ⟨Value.isDict_merge _ ?_, Value.ordered_merge ih.2
        (Value.ordered_nest path (Conf.InlineValue.ordered_ofText _))⟩
      cases path with
      | nil => exact absurd rfl (settingPath?_ne_nil hpath)
      | cons key rest => exact ⟨_, rfl⟩

theorem Cli.layer_toValue (cli : Cli) : cli.toValue.IsDict ∧ cli.toValue.Ordered := by
  refine ⟨⟨_, rfl⟩, Value.ordered_ofPairs fun pair hmem => ?_⟩
  simp only [List.mem_append, List.mem_map] at hmem
  rcases hmem with ⟨level, -, rfl⟩ | ⟨interface, -, rfl⟩
  · exact .text _
  · exact .text _

theorem Conf.layer_toValue (conf : Conf) :
    (toValue conf).IsDict ∧ (toValue conf).Ordered := by
  refine ⟨⟨_, rfl⟩, Value.ordered_ofPairs fun pair hmem => ?_⟩
  simp only [List.mem_cons, List.not_mem_nil, or_false] at hmem
  rcases hmem with rfl | rfl | rfl | rfl | rfl | rfl
  · exact .text _
  · exact .text _
  · exact .text _
  · refine Value.ordered_ofPairs fun pair hmem => ?_
    simp only [List.mem_append, List.mem_cons, List.mem_map, List.not_mem_nil, or_false] at hmem
    rcases hmem with (rfl | rfl) | ⟨path, -, rfl⟩
    · exact .text _
    · exact .flag _
    · exact .text _
  · refine Value.ordered_ofPairs fun pair hmem => ?_
    rw [List.mem_singleton.mp hmem]
    exact .flag _
  · refine Value.ordered_ofPairs fun pair hmem => ?_
    simp only [List.mem_cons, List.not_mem_nil, or_false] at hmem
    rcases hmem with rfl | rfl | rfl
    · exact .number _
    · exact .text _
    · exact .flag _

/-! ## The file -/

theorem Yaml.ordered_plainValue (text : String) : (plainValue text).Ordered := by
  unfold plainValue
  split
  · exact .null
  · split
    · exact .flag _
    · split
      · exact .number _
      · split
        · exact .text _
        · split
          · exact .number _
          · exact .text _

theorem Yaml.ordered_scalarValue {tag : Option Text.Octets} {text : String} {style : Style}
    {value : Value} (h : scalarValue tag text style = .ok value) : value.Ordered := by
  have huntagged : (if style = .plain then plainValue text else .text text).Ordered := by
    split
    · exact ordered_plainValue text
    · exact .text text
  unfold scalarValue at h
  dsimp only at h
  generalize (if style = .plain then plainValue text else Value.text text) = untagged
    at h huntagged
  split at h
  · rw [← Except.ok.inj h]
    exact huntagged
  split at h
  · split at h
    · rw [← Except.ok.inj h]
      exact .flag _
    · cases h
  split at h
  · split at h
    · rw [← Except.ok.inj h]
      exact .number _
    · cases h
  split at h
  · split at h
    · rw [← Except.ok.inj h]
      exact .number _
    · cases h
  split at h
  · split at h
    · rw [← Except.ok.inj h]
      exact .null
    · cases h
  split at h
  · rw [← Except.ok.inj h]
    exact huntagged
  · rw [← Except.ok.inj h]
    exact .text text

namespace Conf

def Counted.Yields {A : Type} (read : Counted A) (P : A → Prop) : Prop :=
  ∀ {jumps a after}, read jumps = .ok (a, after) → P a

def Sourced.Ordered (sourced : Sourced) : Prop := sourced.value.Ordered

theorem Sourced.ordered_ofPairs {pairs : List (String × Sourced)}
    (h : ∀ pair ∈ pairs, pair.2.Ordered) : (Sourced.ofPairs pairs).Ordered := by
  refine Value.ordered_ofPairs fun pair hmem => ?_
  obtain ⟨sourced, hsourced, rfl⟩ := List.mem_map.mp hmem
  exact h sourced hsourced

theorem Sourced.ordered_ofItems {items : List Sourced} (h : ∀ item ∈ items, item.Ordered) :
    (Sourced.ofItems items).Ordered := by
  refine .list fun value hmem => ?_
  obtain ⟨item, hitem, rfl⟩ := List.mem_map.mp hmem
  exact h item hitem

theorem ordered_tagged (tag : Option Text.Octets) {sourced : Sourced} (h : sourced.Ordered) :
    (tagged tag sourced).Ordered := by
  unfold tagged
  split
  · exact Value.ordered_nest _ h
  · exact h

theorem ordered_collapse {pairs : List (String × Sourced)}
    (h : ∀ pair ∈ pairs, pair.2.Ordered) : (collapse pairs).Ordered := by
  unfold collapse
  split
  · next sourced hlatest =>
    obtain ⟨pair, hfind, rfl⟩ := Option.map_eq_some_iff.mp hlatest
    have hpair : pair.2.Ordered := h pair (List.mem_reverse.mp (List.mem_of_find?_eq_some hfind))
    split
    · exact hpair
    · exact hpair
  · exact Sourced.ordered_ofPairs fun pair hmem => h pair (List.mem_filter.mp hmem).1

section Collections

variable {document : Yaml.Document} {mark : Text.Mark} {P : Sourced → Prop}

theorem Counted.Yields.inCollection {A : Type} {read : Counted A} {Q : A → Prop}
    (h : read.Yields Q) (label : Label) : (Counted.inCollection mark label read).Yields Q :=
  fun hread => h (mapError_eq_ok_iff.mp hread)

theorem yields_readItems {read : Yaml.Node → Counted Sourced} (h : ∀ node, (read node).Yields P)
    (index : Nat) (nodes : List Yaml.Node) :
    Counted.Yields (readItems read mark index nodes) fun items => ∀ item ∈ items, P item := by
  induction nodes generalizing index with
  | nil =>
    intro jumps items after hread
    obtain ⟨rfl, -⟩ := Prod.mk.inj (Except.ok.inj hread)
    simp
  | cons node rest ih =>
    intro jumps items after hread
    obtain ⟨⟨item, between⟩, hitem, hread⟩ := bind_eq_ok_iff.mp hread
    obtain ⟨⟨others, last⟩, hothers, hread⟩ := bind_eq_ok_iff.mp hread
    obtain ⟨rfl, -⟩ := Prod.mk.inj (Except.ok.inj hread)
    exact List.forall_mem_cons.mpr
      ⟨Counted.Yields.inCollection (h node) _ hitem, ih _ hothers⟩

theorem yields_readPairs {read : String → Yaml.Node → Counted Sourced}
    (h : ∀ name node, (read name node).Yields P) (entries : List (Yaml.Node × Yaml.Node)) :
    Counted.Yields (readPairs document read mark entries) fun pairs =>
      ∀ pair ∈ pairs, P pair.2 := by
  induction entries with
  | nil =>
    intro jumps pairs after hread
    obtain ⟨rfl, -⟩ := Prod.mk.inj (Except.ok.inj hread)
    simp
  | cons entry rest ih =>
    intro jumps pairs after hread
    obtain ⟨⟨followed, _⟩, -, hread⟩ := bind_eq_ok_iff.mp hread
    obtain ⟨name, -, hread⟩ := bind_eq_ok_iff.mp hread
    obtain ⟨⟨value, _⟩, hvalue, hread⟩ := bind_eq_ok_iff.mp hread
    obtain ⟨⟨others, _⟩, hothers, hread⟩ := bind_eq_ok_iff.mp hread
    obtain ⟨rfl, -⟩ := Prod.mk.inj (Except.ok.inj hread)
    exact List.forall_mem_cons.mpr
      ⟨Counted.Yields.inCollection (h name entry.2) _ hvalue, ih hothers⟩

end Collections

theorem yields_readId (document : Yaml.Document) (node : Yaml.Node) :
    (readId document node).Yields Sourced.Ordered := by
  intro jumps sourced after hread
  obtain ⟨⟨node, _⟩, -, hread⟩ := bind_eq_ok_iff.mp hread
  dsimp only at hread
  split at hread
  · split at hread
    · obtain ⟨rfl, -⟩ := Prod.mk.inj (Except.ok.inj hread)
      exact Value.Ordered.number _
    · cases hread
  · cases hread

theorem yields_readWith (document : Yaml.Document)
    {inside : Option (Yaml.Node → Counted Sourced)}
    (h : ∀ read ∈ inside, ∀ node, (read node).Yields Sourced.Ordered) (node : Yaml.Node) :
    (readWith document inside node).Yields Sourced.Ordered := by
  intro jumps sourced after hread
  obtain ⟨⟨node, _⟩, -, hread⟩ := bind_eq_ok_iff.mp hread
  dsimp only at hread
  split at hread
  · split at hread
    · next hscalar =>
      obtain ⟨rfl, -⟩ := Prod.mk.inj (Except.ok.inj hread)
      exact ordered_tagged _ (Yaml.ordered_scalarValue hscalar)
    · cases hread
  · obtain ⟨⟨items, _⟩, hitems, hread⟩ := bind_eq_ok_iff.mp hread
    obtain ⟨rfl, -⟩ := Prod.mk.inj (Except.ok.inj hread)
    exact ordered_tagged _ (Sourced.ordered_ofItems (yields_readItems (h _ rfl) _ _ hitems))
  · next read _ _ _ _ =>
    obtain ⟨⟨pairs, _⟩, hpairs, hread⟩ := bind_eq_ok_iff.mp hread
    obtain ⟨rfl, -⟩ := Prod.mk.inj (Except.ok.inj hread)
    refine ordered_tagged _ (ordered_collapse (yields_readPairs (fun name node => ?_) _ hpairs))
    split
    · exact yields_readId document node
    · exact h _ rfl node
  · cases hread
  · cases hread
  · cases hread
  · obtain ⟨rfl, -⟩ := Prod.mk.inj (Except.ok.inj hread)
    exact Value.Ordered.null
  · obtain ⟨rfl, -⟩ := Prod.mk.inj (Except.ok.inj hread)
    exact Value.Ordered.null

theorem yields_readValue (document : Yaml.Document) (depth : Nat) (node : Yaml.Node) :
    (readValue document depth node).Yields Sourced.Ordered := by
  induction depth generalizing node with
  | zero => exact yields_readWith document (by simp) node
  | succ depth ih =>
    refine yields_readWith document (fun read hread node => ?_) node
    rw [← Option.some.inj hread]
    exact ih node

theorem layer_rootValue {document : Yaml.Document} {root : Yaml.Node} {sourced : Sourced}
    (h : rootValue document root = .ok sourced) :
    sourced.value.IsDict ∧ sourced.value.Ordered := by
  have hempty : (Value.dict []).IsDict ∧ (Value.dict []).Ordered :=
    ⟨⟨[], rfl⟩, .dict List.Pairwise.nil (by simp)⟩
  unfold rootValue at h
  split at h
  · obtain ⟨⟨pairs, _⟩, hpairs, hreturn⟩ := bind_eq_ok_iff.mp h
    rw [← Except.ok.inj hreturn]
    exact ⟨⟨_, rfl⟩, Sourced.ordered_ofPairs
      (yields_readPairs (fun _ node => yields_readValue document _ node) _ hpairs)⟩
  · rw [← Except.ok.inj h]
    exact hempty
  · split at h
    · rw [← Except.ok.inj h]
      exact hempty
    · cases h
  · cases h

theorem layer_fileLayer {fs : FileSystem} {path : Path} {sourced : Sourced}
    (h : fileLayer fs path = .ok sourced) : sourced.value.IsDict ∧ sourced.value.Ordered := by
  unfold fileLayer at h
  split at h
  · cases h
  · split at h
    · cases h
    · obtain ⟨result, hroot, hrest⟩ := bind_eq_ok_iff.mp (mapError_eq_ok_iff.mp h)
      split at hrest
      · cases hrest
      · rw [← Except.ok.inj hrest]
        exact layer_rootValue hroot

end Conf

end XdpSteering
