import ModuleSharing.Proofs.Files.Place
import ModuleSharing.Share.Manifest

/-! The manifest that counts for a folder: the one in the nearest folder above it that has a file of
that name, whether the file can be read or not (`Files.nearest?_of_nearest`). -/

namespace ModuleSharing

open ModuleSharing.Path (join ancestors Nearest)

namespace Manifest

theorem plain_manifestName : Path.Plain manifestName where
  noSlash := by decide
  noFiller := by decide
  notUp := by decide

theorem load_eq_ok_iff {files : Files} {path : String} {m : Manifest} :
    load files path = .ok m ↔
      ∃ content, files.get? path = some (.file content) ∧ parse content = .ok m := by
  rw [load, bind_eq_ok_iff]
  simp only [FileError.under, FileError.ofPath, FileError.ofJson, mapError_eq_ok_iff,
    Files.read_eq_ok_iff]

end Manifest

namespace Files

variable {files : Files} {context dir : String}

/-- The folder has a manifest, which may be unreadable. -/
def HasManifest (files : Files) (dir : String) : Prop :=
  files.isFile (join dir manifestName) = true

theorem findUpwards?_eq (start name : String) : files.findUpwards? start name =
    ((ancestors start).find? fun dir => files.isFile (join dir name)).map (join · name) := by
  rw [findUpwards?, List.find?_map]
  rfl

theorem nearest?_of_nearest (h : Nearest files.HasManifest context dir) :
    Manifest.nearest? files context =
      (Manifest.load files (join dir manifestName)).toOption.map (join dir manifestName, ·) := by
  have hfind := (Path.find?_ancestors fun dir => files.isFile (join dir manifestName)).mpr h
  rw [Manifest.nearest?, findUpwards?_eq, hfind]
  change ((Manifest.load files (join dir manifestName)).toOption.bind fun m =>
    some (join dir manifestName, m)) = _
  cases Manifest.load files (join dir manifestName) <;> rfl

theorem nearest?_eq_none (h : ¬∃ dir, Nearest files.HasManifest context dir) :
    Manifest.nearest? files context = none := by
  have hfind := (Path.find?_ancestors_eq_none fun dir => files.isFile (join dir manifestName)).mpr h
  rw [Manifest.nearest?, findUpwards?_eq, hfind]
  rfl

theorem hasManifest_of_load {m : Manifest}
    (h : Manifest.load files (join dir manifestName) = .ok m) : files.HasManifest dir := by
  obtain ⟨content, hcontent, -⟩ := Manifest.load_eq_ok_iff.mp h
  exact files.isFile_iff.mpr ⟨content, hcontent⟩

end Files

end ModuleSharing
