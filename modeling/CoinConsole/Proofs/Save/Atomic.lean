import CoinConsole.Proofs.Save.Staging
import CoinConsole.Save.JsonFormat

/-!
# Saving is atomic

Saving either puts the whole new content at the path or leaves what is there as it is. The courses
it can take are listed once (`SaveCourse`); what holds of the file system afterwards is read off
the course (`Replaced`, `TakenBack`).
-/

namespace CoinConsole

namespace FileSystem

variable {files later : FileSystem} {path source : Path} {place origin : Location}

/-! ## Writing, removing and moving -/

theorem write_of_error {e : AccessError} (h : files.access path = .error e)
    (content : ByteArray) : files.write path content = .error e := by
  simp [write, h]

theorem write_of_directory (h : files.access path = .ok place)
    (hnode : files.node? place = some .directory) (content : ByteArray) :
    files.write path content = .error (.file .isDirectory) := by
  simp [write, h, hnode]

theorem write_of_not_directory (h : files.access path = .ok place)
    (hnode : files.node? place ≠ some .directory) (content : ByteArray) :
    files.write path content = .ok (files.put place (.file content)) := by
  cases hold : files.node? place with
  | none => simp [write, h, hold]
  | some node =>
    cases node with
    | file old => simp [write, h, hold]
    | directory => exact absurd hold hnode

theorem replace_of_directory {content : ByteArray} (h : files.access source = .ok origin)
    (hfile : files.node? origin = some (.file content)) (hpath : files.access path = .ok place)
    (hnode : files.node? place = some .directory) :
    files.replace source path = .error (.file .isDirectory) := by
  simp [replace, h, hfile, hpath, hnode]

theorem replace_of_not_directory {content : ByteArray} (h : files.access source = .ok origin)
    (hfile : files.node? origin = some (.file content)) (hpath : files.access path = .ok place)
    (hnode : files.node? place ≠ some .directory) :
    files.replace source path = .ok ((files.erase origin).put place (.file content)) := by
  cases htarget : files.node? place with
  | none => simp [replace, h, hfile, hpath, htarget]
  | some node =>
    cases node with
    | file old => simp [replace, h, hfile, hpath, htarget]
    | directory => exact absurd htarget hnode

/-! ## Changes at some paths only -/

/-- The directories are the same, and a file has come, gone or changed only where one of `paths`
leads. -/
structure ChangesOnly (files later : FileSystem) (paths : List Path) : Prop
    extends SameDirectories files later where
  node? : ∀ place, (∀ path ∈ paths, files.access path ≠ .ok place) →
    later.node? place = files.node? place

namespace ChangesOnly

variable {paths : List Path}

theorem refl (files : FileSystem) (paths : List Path) : ChangesOnly files files paths :=
  ⟨SameDirectories.refl files, fun _ _ => rfl⟩

/-- Every path that leads elsewhere meets what it met before. -/
theorem at?_eq (h : ChangesOnly files later paths)
    (hpath : ∀ place, files.access path = .ok place →
      ∀ changed ∈ paths, files.access changed ≠ .ok place) :
    later.at? path = files.at? path :=
  h.toSameDirectories.at?_eq fun place hplace => h.node? place (hpath place hplace)

end ChangesOnly

end FileSystem

namespace Save

open FileSystem

variable {files later : FileSystem} {path staging : Path}

theorem discard_of_error {e : AccessError} (h : files.access path = .error e) :
    discard files path = files := by
  simp [discard, remove, h]

theorem discard_of_directory {place : Location} (h : files.access path = .ok place)
    (hnode : files.node? place = some .directory) : discard files path = files := by
  simp [discard, remove, h, hnode]

theorem discard_of_file {place : Location} {content : ByteArray}
    (h : files.access path = .ok place) (hnode : files.node? place = some (.file content)) :
    discard files path = files.erase place := by
  simp [discard, remove, h, hnode]

/-! ## Courses -/

/-- How saving `content` at `path` can go, and what comes of it. -/
inductive SaveCourse (files : FileSystem) (path staging : Path) (content : ByteArray) :
    Except PathFault Bool → FileSystem → Prop
  | unusable (hnull : path.hasNull = true) :
    SaveCourse files path staging content (.error .nullByte) files
  | notReached (hstaging : ∀ origin, files.access staging ≠ .ok origin) :
    SaveCourse files path staging content (.ok false) files
  | blocked {origin : Location} (hstaging : files.access staging = .ok origin)
    (horigin : files.node? origin = some .directory) :
    SaveCourse files path staging content (.ok false) files
  | notMoved {origin target : Location} (hstaging : files.access staging = .ok origin)
    (horigin : files.node? origin ≠ some .directory) (hpath : files.access path = .ok target)
    (htarget : files.node? target = some .directory) :
    SaveCourse files path staging content (.ok false)
      ((files.put origin (.file content)).erase origin)
  | moved {origin target : Location} (hstaging : files.access staging = .ok origin)
    (horigin : files.node? origin ≠ some .directory) (hpath : files.access path = .ok target)
    (htarget : files.node? target ≠ some .directory) :
    SaveCourse files path staging content (.ok true)
      (((files.put origin (.file content)).erase origin).put target (.file content))

/-- Saving takes one of the courses. -/
theorem saveCourse_save [SaveFormat] (files : FileSystem) (root : Root)
    (h : staging? path = some staging) :
    SaveCourse files path staging (SaveFormat.write root).toUTF8 (save files path root).1
      (save files path root).2 := by
  have hstaging := isStaging_of_staging? h
  generalize hcontent : (SaveFormat.write root).toUTF8 = content
  rw [save, h, hcontent]
  dsimp only
  cases haccess : files.access staging with
  | error e =>
    rw [write_of_error haccess]
    cases e with
    | nullByte =>
      have hnull := access_eq_nullByte_iff.mp haccess
      exact .unusable (hstaging.hasNull_eq ▸ hnull)
    | file e =>
      dsimp only
      rw [discard_of_error haccess]
      exact .notReached (by simp [haccess])
  | ok origin =>
    by_cases horigin : files.node? origin = some .directory
    · rw [write_of_directory haccess horigin]
      dsimp only
      rw [discard_of_directory haccess horigin]
      exact .blocked haccess horigin
    · -- the file system in which the staging file has been written, and where the paths lead there
      obtain ⟨target, hpath, hne, -⟩ := hstaging.exists_target haccess
      have hsame := sameDirectories_put content horigin
      have hstaging' := hsame.access_eq_ok_iff.mpr haccess
      have hpath' := hsame.access_eq_ok_iff.mpr hpath
      have hnode := node?_put files (ne_nil_of_not_directory horigin) (.file content)
      have hfile : (files.put origin (.file content)).node? origin = some (.file content) := by
        simp [hnode]
      have hkept : (files.put origin (.file content)).node? target = files.node? target := by
        simp [hnode, hne]
      rw [write_of_not_directory haccess horigin]
      dsimp only
      by_cases htarget : files.node? target = some .directory
      · rw [replace_of_directory hstaging' hfile hpath' (hkept ▸ htarget)]
        dsimp only
        rw [discard_of_file hstaging' hfile]
        exact .notMoved haccess horigin hpath htarget
      · rw [replace_of_not_directory hstaging' hfile hpath' (hkept ▸ htarget)]
        exact .moved haccess horigin hpath htarget

/-! ## What holds afterwards -/

/-- The new content is at the path, and nothing is left beside it. -/
structure Replaced (files later : FileSystem) (path staging : Path) (content : ByteArray) :
    Prop where
  content : later.at? path = some (.file content)
  staging_gone : later.at? staging = none
  changesOnly : ChangesOnly files later [path, staging]

/-- What was at the path is there still, and no file is left beside it. The last field is about
what a directory at the path holds: all of it is there still, unless the path leads to the
directory above, which holds the staging file itself. -/
structure TakenBack (files later : FileSystem) (path staging : Path) : Prop where
  at?_eq : later.at? path = files.at? path
  no_staging_file : ∀ content, later.at? staging ≠ some (.file content)
  staging_directory : files.at? staging = some .directory → later = files
  changesOnly : ChangesOnly files later [staging]
  below : path.name ≠ ".." → ∀ target place, files.access path = .ok target → target <+: place →
    later.node? place = files.node? place

theorem TakenBack.of_not_file (h : ∀ content, files.at? staging ≠ some (.file content)) :
    TakenBack files files path staging where
  at?_eq := rfl
  no_staging_file := h
  staging_directory := fun _ => rfl
  changesOnly := ChangesOnly.refl files _
  below := fun _ _ _ _ _ => rfl

/-- Writing a file and removing it again leaves the location empty, and the others alone. -/
theorem node?_erase_put {origin : Location} (horigin : files.node? origin ≠ some .directory)
    (node : Node) (other : Location) :
    ((files.put origin node).erase origin).node? other =
      if other = origin then none else files.node? other := by
  have hne := ne_nil_of_not_directory horigin
  rw [node?_erase _ hne, node?_put _ hne]
  split <;> rfl

theorem sameDirectories_erase_put {origin : Location}
    (horigin : files.node? origin ≠ some .directory) (content : ByteArray) :
    SameDirectories files ((files.put origin (.file content)).erase origin) := by
  have hput := sameDirectories_put content horigin
  exact hput.trans (sameDirectories_erase (fun h => horigin ((hput.directory origin).mp h)))

theorem TakenBack.of_notMoved (hstaging : IsStaging path staging) {origin : Location}
    (haccess : files.access staging = .ok origin)
    (horigin : files.node? origin ≠ some .directory) (content : ByteArray) :
    TakenBack files ((files.put origin (.file content)).erase origin) path staging := by
  have hsame := sameDirectories_erase_put horigin content
  have hnode := node?_erase_put horigin (.file content)
  obtain ⟨target, hpath, hne, hbelow⟩ := hstaging.exists_target haccess
  have hchanges :
      ChangesOnly files ((files.put origin (.file content)).erase origin) [staging] := by
    refine ⟨hsame, fun place hplace => ?_⟩
    have hother : place ≠ origin := fun h => hplace staging (by simp) (h ▸ haccess)
    rw [hnode, if_neg hother]
  refine ⟨hchanges.at?_eq ?_, ?_, ?_, hchanges, ?_⟩
  · intro place hplace
    obtain rfl : target = place := Except.ok.inj (hpath.symm.trans hplace)
    simpa [haccess] using hne.symm
  · rw [at?_of_access (hsame.access_eq_ok_iff.mpr haccess), hnode, if_pos rfl]
    simp
  · rw [at?_of_access haccess]
    exact fun hdirectory => absurd hdirectory horigin
  · intro hname target' place htarget' hprefix
    obtain rfl : target' = target := Except.ok.inj (htarget'.symm.trans hpath)
    have hother : place ≠ origin := fun h => hbelow hname (h ▸ hprefix)
    rw [hnode, if_neg hother]

theorem Replaced.of_moved (hstaging : IsStaging path staging) {origin target : Location}
    (haccess : files.access staging = .ok origin)
    (horigin : files.node? origin ≠ some .directory) (hpath : files.access path = .ok target)
    (htarget : files.node? target ≠ some .directory) (content : ByteArray) :
    Replaced files (((files.put origin (.file content)).erase origin).put target (.file content))
      path staging content := by
  have herased := sameDirectories_erase_put horigin content
  have htarget' := fun h => htarget ((herased.directory target).mp h)
  have hsame := herased.trans (sameDirectories_put content htarget')
  have hnode := node?_put ((files.put origin (.file content)).erase origin)
    (ne_nil_of_not_directory htarget) (.file content)
  obtain ⟨target', hpath', hne, -⟩ := hstaging.exists_target haccess
  obtain rfl : target' = target := Except.ok.inj (hpath'.symm.trans hpath)
  refine ⟨?_, ?_, ⟨hsame, ?_⟩⟩
  · rw [at?_of_access (hsame.access_eq_ok_iff.mpr hpath), hnode, if_pos rfl]
  · rw [at?_of_access (hsame.access_eq_ok_iff.mpr haccess), hnode, if_neg hne.symm,
      node?_erase_put horigin, if_pos rfl]
  · intro place hplace
    have hother : place ≠ origin := fun h => hplace staging (by simp) (h ▸ haccess)
    have hother' : place ≠ target' := fun h => hplace path (by simp) (h ▸ hpath)
    rw [hnode, if_neg hother', node?_erase_put horigin, if_neg hother]

/-! ## Outcomes -/

section

variable [SaveFormat] {root : Root}

theorem replaced_of_save (hstaging : staging? path = some staging)
    (h : (save files path root).1 = .ok true) :
    Replaced files (save files path root).2 path staging (SaveFormat.write root).toUTF8 := by
  have hcourse := saveCourse_save files root hstaging
  rw [h] at hcourse
  generalize (save files path root).2 = later at hcourse ⊢
  cases hcourse with
  | moved haccess horigin hpath htarget =>
    exact .of_moved (isStaging_of_staging? hstaging) haccess horigin hpath htarget _

theorem takenBack_of_save (hstaging : staging? path = some staging)
    (h : (save files path root).1 = .ok false) :
    TakenBack files (save files path root).2 path staging := by
  have hcourse := saveCourse_save files root hstaging
  rw [h] at hcourse
  generalize (save files path root).2 = later at hcourse ⊢
  cases hcourse with
  | notReached hnot => exact .of_not_file (by simp [at?_eq_some_iff, hnot])
  | blocked haccess horigin => exact .of_not_file (by simp [at?_of_access haccess, horigin])
  | notMoved haccess horigin hpath htarget =>
    exact .of_notMoved (isStaging_of_staging? hstaging) haccess horigin _

theorem unusable_of_save (hstaging : staging? path = some staging) {fault : PathFault}
    (h : (save files path root).1 = .error fault) :
    fault = .nullByte ∧ path.hasNull = true ∧ (save files path root).2 = files := by
  have hcourse := saveCourse_save files root hstaging
  rw [h] at hcourse
  generalize (save files path root).2 = later at hcourse ⊢
  cases hcourse with
  | unusable hnull => exact ⟨rfl, hnull, rfl⟩

end

/-- Saving at a path with a last name either puts the whole content there, or says that it has not
and leaves everything there as it was. Only a path that cannot be handed to the operating system
ends it in another way, and then nothing has been touched. -/
theorem save_atomic [SaveFormat] (files : FileSystem) (path : Path) (root : Root)
    (hname : path.name ≠ "") :
    ∃ staging, IsStaging path staging ∧
      ((save files path root).1 = .ok true →
        Replaced files (save files path root).2 path staging (SaveFormat.write root).toUTF8) ∧
      ((save files path root).1 = .ok false →
        TakenBack files (save files path root).2 path staging) ∧
      ∀ fault, (save files path root).1 = .error fault →
        fault = .nullByte ∧ path.hasNull = true ∧ (save files path root).2 = files := by
  obtain ⟨staging, hstaging⟩ := exists_staging_of_name hname
  exact ⟨staging, isStaging_of_staging? hstaging, replaced_of_save hstaging,
    takenBack_of_save hstaging, fun _ => unusable_of_save hstaging⟩

/-- A home directory with `node` in the place of the save file and a staging file beside it. -/
def homeWith (node : Node) : FileSystem where
  current := ["home"]
  nodes := [(["home"], .directory), (["home", "game.save"], node),
    (["home", "game.save.tmp"], .file .empty)]

theorem at?_homeWith (node : Node) : (homeWith node).at? defaultPath = some node := by rfl

/-- An old save file is replaced; a directory that stands in its place stays. -/
theorem save_atomic_file_and_directory :
    (save (homeWith (.file .empty)) defaultPath { coins := 5 }).2.at? defaultPath =
        some (.file (SaveFormat.write { coins := 5 }).toUTF8) ∧
      (save (homeWith .directory) defaultPath { coins := 5 }).2.at? defaultPath =
        some .directory := by
  have hname : defaultPath.name ≠ "" := by decide
  constructor
  · obtain ⟨staging, -, hdone, -⟩ :=
      save_atomic (homeWith (.file .empty)) defaultPath { coins := 5 } hname
    exact (hdone (by rfl)).content
  · obtain ⟨staging, -, -, hkept, -⟩ :=
      save_atomic (homeWith .directory) defaultPath { coins := 5 } hname
    exact (hkept (by rfl)).at?_eq.trans (by rfl)

end Save

end CoinConsole
