import XdpSteering.Conf.Layers
import XdpSteering.Proofs.FileSystem.Status
import XdpSteering.Proofs.Path
import XdpSteering.Proofs.Text.Decoding

/-!
# Which paths are taken for configuration files

A path is looked at in two ways. What it leads to, through all links, must be a regular file, and
the path itself must end in the extension of a configuration file, whatever the file is called that
a link leads to.
-/

namespace XdpSteering.Conf

open XdpSteering.Text FileSystem

variable {fs : FileSystem} {path : Path}

/-- What comes of checking a path, by what it leads to and by its extension. -/
inductive Checked (fs : FileSystem) (path : Path) : Except Error Unit → Prop where
  | accepted {content : Octets} {extension : String} (file : fs.ResolvesTo path (.file content))
      (has : path.HasExtension (Utf8.encode extension))
      (known : extension = "yaml" ∨ extension = "yml") : Checked fs path (.ok ())
  | absent (nothing : ∀ node, ¬ fs.ResolvesTo path node) :
      Checked fs path (.error .noConfigFile)
  | noFile {node : Node} (leads : fs.ResolvesTo path node)
      (irregular : ∀ content, node ≠ .file content) :
      Checked fs path (.error (.invalidConfigPath (Utf8.lossy path.octets)))
  | strange {content : Octets} {extension : String} (file : fs.ResolvesTo path (.file content))
      (has : path.HasExtension (Utf8.encode extension))
      (unknown : extension ≠ "yaml" ∧ extension ≠ "yml") :
      Checked fs path (.error (.invalidExtension extension))
  /-- There is no extension, or it is no text. -/
  | bare {content : Octets} (file : fs.ResolvesTo path (.file content))
      (untold : ∀ extension : String, ¬ path.HasExtension (Utf8.encode extension)) :
      Checked fs path (.error (.invalidExtension "none"))

theorem extension_eq_some_iff {extension : String} :
    path.extension?.bind Utf8.decode? = some extension ↔
      path.HasExtension (Utf8.encode extension) := by
  simp only [Option.bind_eq_some_iff, Utf8.decode?_eq_some_iff, Path.extension?_eq_some_iff]
  exact ⟨fun ⟨_, hhas, heq⟩ => heq ▸ hhas, fun hhas => ⟨_, hhas, rfl⟩⟩

theorem extension_eq_none_iff :
    path.extension?.bind Utf8.decode? = none ↔
      ∀ extension : String, ¬ path.HasExtension (Utf8.encode extension) := by
  simp only [Option.eq_none_iff_forall_ne_some, ne_eq, extension_eq_some_iff]

theorem checkFile_of_absent (h : ∀ node, ¬ fs.ResolvesTo path node) :
    checkFile fs path = .error .noConfigFile := by
  have hexists : fs.pathExists path = false := by
    rw [← Bool.not_eq_true, pathExists_iff]
    exact fun ⟨node, hnode⟩ => h node hnode
  have hfile : fs.isFile path = false := by
    rw [← Bool.not_eq_true, isFile_iff]
    exact fun ⟨content, hcontent⟩ => h _ hcontent
  simp [checkFile, hfile, hexists]

theorem checkFile_of_irregular {node : Node} (h : fs.ResolvesTo path node)
    (hnode : ∀ content, node ≠ .file content) :
    checkFile fs path = .error (.invalidConfigPath (Utf8.lossy path.octets)) := by
  have hexists : fs.pathExists path = true := pathExists_iff.mpr ⟨node, h⟩
  have hfile : fs.isFile path = false := by
    rw [← Bool.not_eq_true, isFile_iff]
    exact fun ⟨content, hcontent⟩ => hnode content (h.unique hcontent)
  simp [checkFile, hfile, hexists, Path.display]

section File

variable {content : Octets} (hfile : fs.ResolvesTo path (.file content))

include hfile

/-- Of a path to a file only the extension counts. -/
theorem checkFile_of_hasExtension {extension : String}
    (hhas : path.HasExtension (Utf8.encode extension)) :
    checkFile fs path =
      if extension = "yaml" ∨ extension = "yml" then .ok ()
      else .error (.invalidExtension extension) := by
  have hisFile : fs.isFile path = true := isFile_iff.mpr ⟨content, hfile⟩
  rw [checkFile, hisFile, extension_eq_some_iff.mpr hhas]
  simp [extensions]

theorem checkFile_of_untold (huntold : ∀ extension : String,
    ¬ path.HasExtension (Utf8.encode extension)) :
    checkFile fs path = .error (.invalidExtension "none") := by
  have hisFile : fs.isFile path = true := isFile_iff.mpr ⟨content, hfile⟩
  rw [checkFile, hisFile, extension_eq_none_iff.mpr huntold]
  rfl

end File

theorem checked_checkFile (fs : FileSystem) (path : Path) :
    Checked fs path (checkFile fs path) := by
  by_cases hnothing : ∀ node, ¬ fs.ResolvesTo path node
  · rw [checkFile_of_absent hnothing]
    exact .absent hnothing
  obtain ⟨node, hnode⟩ := not_forall_not.mp hnothing
  by_cases hirregular : ∀ content, node ≠ .file content
  · rw [checkFile_of_irregular hnode hirregular]
    exact .noFile hnode hirregular
  obtain ⟨content, hcontent⟩ := not_forall_not.mp hirregular
  have hfile : fs.ResolvesTo path (.file content) := hcontent ▸ hnode
  by_cases huntold : ∀ extension : String, ¬ path.HasExtension (Utf8.encode extension)
  · rw [checkFile_of_untold hfile huntold]
    exact .bare hfile huntold
  obtain ⟨extension, hhas⟩ := not_forall_not.mp huntold
  rw [checkFile_of_hasExtension hfile hhas]
  by_cases hknown : extension = "yaml" ∨ extension = "yml"
  · rw [if_pos hknown]
    exact .accepted hfile hhas hknown
  · rw [if_neg hknown]
    exact .strange hfile hhas (not_or.mp hknown)

/-- A path is accepted just if it leads to a regular file and has one of the two extensions. Where
it leads nowhere, where it leads to something else, and what it has for an extension is told apart
by the error, and each error has this one cause. -/
theorem check_tells_where_path_leads (fs : FileSystem) (path : Path)
    (result : Except Error Unit) : checkFile fs path = result ↔ Checked fs path result := by
  constructor
  · rintro rfl
    exact checked_checkFile fs path
  · intro h
    cases h with
    | accepted file has known => rw [checkFile_of_hasExtension file has, if_pos known]
    | absent nothing => exact checkFile_of_absent nothing
    | noFile leads irregular => exact checkFile_of_irregular leads irregular
    | strange file has unknown =>
      rw [checkFile_of_hasExtension file has, if_neg (not_or.mpr unknown)]
    | bare file untold => exact checkFile_of_untold file untold

/-- The name of a link counts, not that of the file behind it. -/
example :
    let fs : FileSystem :=
      { entries :=
          [([Utf8.encode "a.yml"], .link (Path.ofString "b.toml")),
            ([Utf8.encode "b.toml"], .file [])]
        workingDirectory := [] }
    checkFile fs (Path.ofString "a.yml") = .ok () ∧
      checkFile fs (Path.ofString "./b.toml") = .error (.invalidExtension "toml") := by
  cbv

end XdpSteering.Conf
