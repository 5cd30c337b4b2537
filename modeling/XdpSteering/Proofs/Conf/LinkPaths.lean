import XdpSteering.Conf.Layers
import XdpSteering.Diagnosis
import XdpSteering.Proofs.Path
import XdpSteering.Proofs.Text.Utf8

/-!
# Where links are pinned

Unless another place is configured, a link is pinned next to the map, under the name of its
interface. A slash in this name makes a directory of what is in front of it. Whatever the interface
is called, its link is in the way neither of the map nor of a diagnosis.
-/

namespace XdpSteering.Conf

open Text

def linkStart : Octets := Utf8.encode "link_"

def isEntryPiece (piece : Octets) : Bool := piece ≠ [] ∧ piece ≠ Path.here

def interfacePieces (interface : String) : List Octets := Path.pieces (Utf8.encode interface)

/-- The names that lead from the directory of the map to the link of an interface. -/
def linkComponents (interface : String) : List Octets :=
  match interfacePieces interface with
  | [] => []
  | piece :: others => (linkStart ++ piece) :: others.filter isEntryPiece

variable {conf other : Conf} {interface second : String} {piece : Octets} {others : List Octets}

theorem linkComponents_eq (h : interfacePieces interface = piece :: others) :
    linkComponents interface = (linkStart ++ piece) :: others.filter isEntryPiece := by
  rw [linkComponents, h]

theorem linkStart_append_ne_here (piece : Octets) : linkStart ++ piece ≠ Path.here := by
  intro h
  have hhead : linkStart.head? = some Path.dot := congrArg List.head? h
  exact absurd hhead (by decide)

/-! ## The path of a link -/

theorem exists_names_linkName (interface : String) :
    ∃ piece others, interfacePieces interface = piece :: others ∧
      (Path.ofString (linkName interface)).names
        = (linkStart ++ piece) :: others.filter fun name => !name.isEmpty := by
  have hslash : Path.slash ∉ linkStart := by decide
  obtain ⟨piece, others, hpieces, hlink⟩ :=
    Path.pieces_append_of_not_mem hslash (Utf8.encode interface)
  refine ⟨piece, others, hpieces, ?_⟩
  rw [Path.ofString, linkName, Utf8.encode_append, Path.names, ← linkStart, hlink]
  rfl

theorem isAbsolute_linkName (interface : String) :
    (Path.ofString (linkName interface)).isAbsolute = false := by
  rw [Path.isAbsolute, Path.ofString, linkName, Utf8.encode_append]
  rfl

theorem components_linkName (interface : String) :
    (Path.ofString (linkName interface)).components = linkComponents interface := by
  obtain ⟨piece, others, hpieces, hnames⟩ := exists_names_linkName interface
  rw [Path.components_eq, hnames, isAbsolute_linkName, linkComponents_eq hpieces, Path.componentsOf,
    Bool.and_false, if_neg (by decide), List.filter_filter]
  congr 1
  refine List.filter_congr fun name _ => ?_
  cases name <;> simp [isEntryPiece]

theorem linkPinPath_eq (h : conf.program.linkPinPath = none) :
    conf.linkPinPath
      = conf.socketMap.pinDirectory.join (Path.ofString (linkName conf.interface)) := by
  rw [linkPinPath, h]

theorem isAbsolute_linkPinPath (h : conf.program.linkPinPath = none) :
    conf.linkPinPath.isAbsolute = conf.socketMap.pinDirectory.isAbsolute := by
  rw [linkPinPath_eq h, Path.isAbsolute_join (isAbsolute_linkName _)]

theorem components_linkPinPath (h : conf.program.linkPinPath = none) :
    conf.linkPinPath.components
      = conf.socketMap.pinDirectory.components ++ linkComponents conf.interface := by
  obtain ⟨piece, others, -, hnames⟩ := exists_names_linkName conf.interface
  have hhere : (Path.ofString (linkName conf.interface)).names.head? ≠ some Path.here := by
    rw [hnames]
    exact fun h => linkStart_append_ne_here piece (Option.some.inj h)
  rw [linkPinPath_eq h, Path.components_join_of_relative (isAbsolute_linkName _) hhere,
    components_linkName]

/-! ## What it keeps apart -/

/-- The name of a link is none that begins differently. -/
theorem linkComponents_ne_singleton {name : Octets} (h : name.head? ≠ linkStart.head?)
    (interface : String) : linkComponents interface ≠ [name] := by
  obtain ⟨piece, others, hpieces, -⟩ := exists_names_linkName interface
  rw [linkComponents_eq hpieces]
  intro heq
  obtain ⟨rfl, -⟩ := List.cons.inj heq
  exact h rfl

theorem not_same_linkPinPath {path : Path} {name : Octets} (h : conf.program.linkPinPath = none)
    (hname : name.head? ≠ linkStart.head?)
    (hpath : path.components = conf.socketMap.pinDirectory.components ++ [name]) :
    ¬ conf.linkPinPath.Same path := by
  rintro ⟨-, hsame⟩
  rw [components_linkPinPath h, hpath] at hsame
  exact linkComponents_ne_singleton hname _ (List.append_cancel_left hsame)

theorem isEntryOf_linkPinPath_iff (h : conf.program.linkPinPath = none) :
    conf.linkPinPath.IsEntryOf conf.socketMap.pinDirectory ↔
      ∀ piece ∈ (interfacePieces conf.interface).tail, piece = [] ∨ piece = Path.here := by
  obtain ⟨piece, others, hpieces, -⟩ := exists_names_linkName conf.interface
  have hentry : conf.linkPinPath.IsEntryOf conf.socketMap.pinDirectory ↔
      others.filter isEntryPiece = [] := by
    rw [Path.IsEntryOf, isAbsolute_linkPinPath h, components_linkPinPath h,
      linkComponents_eq hpieces]
    constructor
    · rintro ⟨-, name, -, -, heq⟩
      exact (List.cons.inj (List.append_cancel_left heq)).2
    · intro hnil
      refine ⟨rfl, linkStart ++ piece, linkStart_append_ne_here piece, ?_, by rw [hnil]⟩
      intro habove
      have hhead : linkStart.head? = some Path.dot := congrArg List.head? habove
      exact absurd hhead (by decide)
  rw [hentry, hpieces, List.filter_eq_nil_iff]
  refine forall₂_congr fun name _ => ?_
  simp [isEntryPiece, or_iff_not_imp_left]

theorem same_linkPinPath_iff (h : conf.program.linkPinPath = none)
    (hother : other.program.linkPinPath = none)
    (hpin : conf.socketMap.pinDirectory.Same other.socketMap.pinDirectory) :
    conf.linkPinPath.Same other.linkPinPath ↔
      linkComponents conf.interface = linkComponents other.interface := by
  rw [Path.Same, isAbsolute_linkPinPath h, isAbsolute_linkPinPath hother, components_linkPinPath h,
    components_linkPinPath hother, hpin.2, List.append_cancel_left_eq]
  exact and_iff_right hpin.1

/-! ## Interfaces without a slash -/

theorem interfacePieces_of_plain (h : '/' ∉ interface.toList) :
    interfacePieces interface = [Utf8.encode interface] := by
  have hslash : Path.slash ∉ Utf8.encode interface := fun hmem =>
    h (Utf8.mem_toList_of_mem_encode (by decide) hmem)
  exact Path.pieces_of_not_mem hslash

theorem eq_of_linkComponents_eq (h : '/' ∉ interface.toList) (hsecond : '/' ∉ second.toList)
    (heq : linkComponents interface = linkComponents second) : interface = second := by
  rw [linkComponents_eq (interfacePieces_of_plain h),
    linkComponents_eq (interfacePieces_of_plain hsecond)] at heq
  exact Utf8.encode_inj (List.append_cancel_left (List.cons.inj heq).1)

/-- The link of an interface is pinned in the directory of the map or below, and never at the place
of the map or of a diagnosis. It is an entry of this directory exactly if nothing but slashes and
dots follows the first slash of the interface, and two interfaces share their link exactly if they
spell the same names. So without slashes all links are entries of this directory, and no two
interfaces share one. -/
theorem link_is_beside_map (h : conf.program.linkPinPath = none)
    (hother : other.program.linkPinPath = none)
    (hpin : conf.socketMap.pinDirectory.Same other.socketMap.pinDirectory) :
    (¬ conf.linkPinPath.Same conf.socketMap.mapPath ∧
      ¬ conf.linkPinPath.Same (Diagnosis.scratchPath conf)) ∧
    (conf.linkPinPath.IsEntryOf conf.socketMap.pinDirectory ↔
      ∀ piece ∈ (interfacePieces conf.interface).tail, piece = [] ∨ piece = Path.here) ∧
    (conf.linkPinPath.Same other.linkPinPath ↔
      linkComponents conf.interface = linkComponents other.interface) ∧
    ('/' ∉ conf.interface.toList → '/' ∉ other.interface.toList →
      conf.linkPinPath.IsEntryOf conf.socketMap.pinDirectory ∧
        (conf.linkPinPath.Same other.linkPinPath → conf.interface = other.interface)) := by
  have hmap : conf.socketMap.mapPath.components
      = conf.socketMap.pinDirectory.components ++ [Utf8.encode socketMapName] :=
    Path.components_join rfl rfl (by decide)
  have hscratch : (Diagnosis.scratchPath conf).components
      = conf.socketMap.pinDirectory.components ++ [Utf8.encode "diagnose"] :=
    Path.components_join rfl rfl (by decide)
  have hentry := isEntryOf_linkPinPath_iff h
  have hsame := same_linkPinPath_iff h hother hpin
  refine ⟨⟨not_same_linkPinPath h (by decide) hmap, not_same_linkPinPath h (by decide) hscratch⟩,
    hentry, hsame, fun hplain hotherPlain => ⟨hentry.mpr ?_, fun hlinks => ?_⟩⟩
  · rw [interfacePieces_of_plain hplain]
    simp
  · exact eq_of_linkComponents_eq hplain hotherPlain (hsame.mp hlinks)

/-- Two interfaces with names that begin alike, and two spellings of one directory. -/
theorem two_links_are_beside_map :
    let conf : Conf := { interface := "eth0", socketMap := { pinPath := "/sys/fs/bpf/steer" } }
    let other : Conf :=
      { interface := "eth0.7", socketMap := { pinPath := "//sys/./fs/bpf/steer/" } }
    (conf.program.linkPinPath = none ∧ other.program.linkPinPath = none ∧
      conf.socketMap.pinDirectory.Same other.socketMap.pinDirectory) ∧
    ¬ conf.linkPinPath.Same conf.socketMap.mapPath ∧
    conf.linkPinPath.IsEntryOf conf.socketMap.pinDirectory ∧
    ¬ conf.linkPinPath.Same other.linkPinPath := by
  intro conf other
  have hpin : conf.socketMap.pinDirectory.Same other.socketMap.pinDirectory := by decide +kernel
  have hlink : conf.program.linkPinPath = none := rfl
  have hother : other.program.linkPinPath = none := rfl
  obtain ⟨⟨hmap, -⟩, -, -, hplain⟩ := link_is_beside_map hlink hother hpin
  obtain ⟨hentry, hsame⟩ := hplain (by decide) (by decide)
  exact ⟨⟨rfl, rfl, hpin⟩, hmap, hentry, fun h => absurd (hsame h) (by decide)⟩

/-- Interfaces with slashes are accepted. One of them has its link further down, and one shares its
link with another interface. -/
theorem slashes_in_interfaces_are_accepted :
    let files : FileSystem := { entries := [], workingDirectory := [] }
    let deep : Conf := { interface := "eth0/rx" }
    let closed : Conf := { interface := "eth0/" }
    let plain : Conf := { interface := "eth0" }
    (load files [] { interface := some "eth0/rx" } = .ok deep ∧
      load files [] { interface := some "eth0/" } = .ok closed ∧
      load files [] { interface := some "eth0" } = .ok plain) ∧
    ¬ deep.linkPinPath.IsEntryOf deep.socketMap.pinDirectory ∧
    closed.linkPinPath.Same plain.linkPinPath ∧ closed.interface ≠ plain.interface := by
  intro files deep closed plain
  refine ⟨⟨rfl, rfl, rfl⟩, fun hentry => ?_, by decide +kernel, by decide⟩
  exact absurd ((isEntryOf_linkPinPath_iff rfl).mp hentry) (by decide)

end XdpSteering.Conf
