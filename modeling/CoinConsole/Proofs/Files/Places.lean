import CoinConsole.Files.FileSystem

/-!
# What stands where, and where paths lead

Changing a location of the table changes nothing elsewhere (`node?_put`, `node?_erase`). Where a
path leads depends on the directories alone: two file systems with the same directories send every
path to the same location (`SameDirectories.access_eq_ok_iff`), so that writing and removing files
moves no path. What a path meets there is `at?`. A name that is too long is met nowhere
(`access_of_long_name`).
-/

namespace CoinConsole

/-! ## Paths with names -/

namespace Path

theorem text_of_ne_nil {path : Path} (h : path.names ≠ []) :
    path.text = path.anchor.text ++ "/".intercalate path.names := by
  unfold Path.text
  split
  · next hnames => exact absurd hnames h
  · rfl

theorem splitSlash_of_not_mem {cs : List Char} (h : '/' ∉ cs) : splitSlash cs = [cs] := by
  induction cs with
  | nil => rfl
  | cons c cs ih =>
    rw [List.mem_cons, not_or] at h
    rw [splitSlash, if_neg (Ne.symm h.1), ih h.2]

/-- Only a path without names has no last name. -/
theorem name_eq_empty_iff {path : Path} : path.name = "" ↔ path.names = [] := by
  cases hlast : path.names.getLast? with
  | none => simp [name, List.getLast?_eq_none_iff.mp hlast]
  | some last =>
    have hvalid := path.names_valid last (List.mem_of_getLast? hlast)
    have hlastName : last ≠ "" := by
      rintro rfl
      exact absurd hvalid (by decide)
    have hnames : path.names ≠ [] := by
      intro hnil
      simp [hnil] at hlast
    simp [name, hlast, hlastName, hnames]

theorem hasNull_of_names_eq_nil {path : Path} (h : path.names = []) : path.hasNull = false := by
  rw [hasNull, text, h]
  cases path.anchor <;> decide

/-- A text that can be a name is the path of that name. -/
theorem ofText_of_isPathName {name : String} (h : isPathName name = true) :
    (ofText name).anchor = .current ∧ (ofText name).names = [name] ∧
      (ofText name).text = name := by
  have hslash : '/' ∉ name.toList := by
    intro hmem
    simp [isPathName, hmem] at h
  have hanchor : (ofText name).anchor = .current := by
    show anchorOf name.toList = .current
    cases hchars : name.toList with
    | nil => rfl
    | cons c cs =>
      have hc : c ≠ '/' := by
        rintro rfl
        exact hslash (hchars ▸ List.mem_cons_self)
      unfold anchorOf
      split <;> simp_all
  have hnames : (ofText name).names = [name] := by
    show ((splitSlash name.toList).map String.ofList).filter isPathName = [name]
    rw [splitSlash_of_not_mem hslash, List.map_singleton, String.ofList_toList,
      List.filter_cons_of_pos h, List.filter_nil]
  refine ⟨hanchor, hnames, ?_⟩
  rw [text_of_ne_nil (by simp [hnames]), hanchor, hnames, String.intercalate_singleton]
  exact String.empty_append

end Path

namespace FileSystem

/-! ## The table -/

variable {files later : FileSystem} {place other : Location}

theorem lookup_filter_ne (entries : List (Location × Node)) (h : other ≠ place) :
    (entries.filter fun entry => entry.1 != place).lookup other = entries.lookup other := by
  induction entries with
  | nil => rfl
  | cons entry rest ih =>
    obtain ⟨first, node⟩ := entry
    by_cases hfirst : first = place
    · -- the entry is dropped, and was none for `other` before
      have hother : (other == first) = false := by simpa [hfirst] using h
      simp [hfirst ▸ hother, hfirst, List.lookup_cons, ih]
    · cases hother : other == first <;> simp [hfirst, hother, List.lookup_cons, ih]

theorem lookup_filter_self (entries : List (Location × Node)) (place : Location) :
    (entries.filter fun entry => entry.1 != place).lookup place = none := by
  rw [List.lookup_eq_none_iff]
  intro entry hentry
  have hne : entry.1 ≠ place := by simpa using (List.mem_filter.mp hentry).2
  simpa using Ne.symm hne

@[simp] theorem node?_nil (files : FileSystem) : files.node? [] = some .directory := by
  simp [node?]

theorem node?_erase (files : FileSystem) (hplace : place ≠ []) (other : Location) :
    (files.erase place).node? other = if other = place then none else files.node? other := by
  by_cases hother : other = place
  · simp [hother, hplace, node?, erase, lookup_filter_self]
  · simp [hother, node?, erase, lookup_filter_ne _ hother]

theorem node?_put (files : FileSystem) (hplace : place ≠ []) (node : Node) (other : Location) :
    (files.put place node).node? other =
      if other = place then some node else files.node? other := by
  by_cases hother : other = place
  · simp [hother, hplace, node?, put]
  · have hbeq : (other == place) = false := by simpa using hother
    simp [hother, hbeq, node?, put, erase, List.lookup_cons, lookup_filter_ne _ hother]

/-- No file can be put in the place of the root. -/
theorem ne_nil_of_not_directory (h : files.node? place ≠ some .directory) : place ≠ [] := by
  rintro rfl
  exact h (node?_nil files)

/-! ## Walking -/

/-- Where a name leads from a directory. -/
def enter (place : Location) (name : String) : Location :=
  if name = ".." then place.dropLast else place ++ [name]

/-- Where the paths with an anchor start. -/
def start (files : FileSystem) : Anchor → Location
  | .current => files.current
  | _ => []

/-- A name is passed in a directory, if it is not too long. -/
theorem walk_cons_eq_ok_iff {name : String} {rest : List String} {target : Location} :
    files.walk place (name :: rest) = .ok target ↔
      files.node? place = some .directory ∧ name.utf8ByteSize ≤ maxNameBytes ∧
        files.walk (enter place name) rest = .ok target := by
  rw [walk, enter]
  cases hnode : files.node? place with
  | none => simp
  | some node =>
    cases node with
    | file content => simp
    | directory =>
      simp only [true_and]
      by_cases hlong : maxNameBytes < name.utf8ByteSize
      · simp [if_pos hlong, Nat.not_le.mpr hlong]
      · rw [if_neg hlong, ← apply_ite (fun next => files.walk next rest)]
        simp [Nat.not_lt.mp hlong]

/-- The last name of a path is looked up in the directory the names before it lead to. -/
theorem walk_concat_eq_ok_iff {names : List String} {name : String} {target : Location} :
    files.walk place (names ++ [name]) = .ok target ↔
      ∃ parent, files.walk place names = .ok parent ∧ files.node? parent = some .directory ∧
        name.utf8ByteSize ≤ maxNameBytes ∧ enter parent name = target := by
  induction names generalizing place with
  | nil =>
    rw [List.nil_append, walk_cons_eq_ok_iff]
    simp [walk]
  | cons first rest ih =>
    rw [List.cons_append, walk_cons_eq_ok_iff, ih]
    simp only [walk_cons_eq_ok_iff]
    constructor
    · rintro ⟨hnode, hshort, parent, hparent, hlast⟩
      exact ⟨parent, ⟨hnode, hshort, hparent⟩, hlast⟩
    · rintro ⟨parent, ⟨hnode, hshort, hparent⟩, hlast⟩
      exact ⟨hnode, hshort, parent, hparent, hlast⟩

/-- A path is walked from where its anchor says, unless it is too long. -/
theorem resolve_eq (files : FileSystem) (path : Path) :
    files.resolve path = if maxPathBytes < path.text.utf8ByteSize then .error .nameTooLong
      else files.walk (files.start path.anchor) path.names := by
  rw [resolve]
  cases path.anchor <;> rfl

theorem access_eq_ok_iff {path : Path} {target : Location} :
    files.access path = .ok target ↔
      path.hasNull = false ∧ path.text.utf8ByteSize ≤ maxPathBytes ∧
        files.walk (files.start path.anchor) path.names = .ok target := by
  have hresolve : files.resolve path = .ok target ↔ path.text.utf8ByteSize ≤ maxPathBytes ∧
      files.walk (files.start path.anchor) path.names = .ok target := by
    rw [resolve_eq]
    by_cases hlong : maxPathBytes < path.text.utf8ByteSize
    · simp [hlong, Nat.not_le.mpr hlong]
    · simp [hlong, Nat.not_lt.mp hlong]
  rw [access, ← hresolve]
  cases hnull : path.hasNull with
  | true => simp
  | false => cases hr : files.resolve path <;> simp

theorem access_eq_nullByte_iff {path : Path} :
    files.access path = .error .nullByte ↔ path.hasNull = true := by
  rw [access]
  cases hnull : path.hasNull with
  | true => simp
  | false => cases hr : files.resolve path <;> simp

/-- A path without names leads to where paths with its anchor start. -/
theorem access_of_names_eq_nil {path : Path} (hnull : path.hasNull = false)
    (h : path.names = []) : files.access path = .ok (files.start path.anchor) := by
  have hshort : path.text.utf8ByteSize ≤ maxPathBytes := by
    rw [Path.text, h]
    cases path.anchor <;> decide
  rw [access_eq_ok_iff, h]
  exact ⟨hnull, hshort, rfl⟩

/-- A name in the current directory that is too long is refused as such. -/
theorem access_of_long_name {name : String}
    (hcurrent : files.node? files.current = some .directory) (hname : isPathName name = true)
    (hnull : (Path.ofText name).hasNull = false) (hlong : maxNameBytes < name.utf8ByteSize) :
    files.access (Path.ofText name) = .error (.file .nameTooLong) := by
  obtain ⟨hanchor, hnames, -⟩ := Path.ofText_of_isPathName hname
  rw [access, hnull, resolve_eq, hanchor, hnames]
  simp only [start, walk, hcurrent, if_pos hlong, ite_self]
  rfl

/-! ## The same directories -/

/-- The two file systems have the same directories, and the same one is current. -/
structure SameDirectories (files later : FileSystem) : Prop where
  current : later.current = files.current
  directory : ∀ place, later.node? place = some .directory ↔ files.node? place = some .directory

namespace SameDirectories

theorem refl (files : FileSystem) : SameDirectories files files := ⟨rfl, fun _ => Iff.rfl⟩

theorem trans {last : FileSystem} (h : SameDirectories files later)
    (h' : SameDirectories later last) : SameDirectories files last :=
  ⟨h'.current.trans h.current, fun place => (h'.directory place).trans (h.directory place)⟩

theorem walk_eq_ok_iff (h : SameDirectories files later) {names : List String}
    {target : Location} :
    later.walk place names = .ok target ↔ files.walk place names = .ok target := by
  induction names generalizing place with
  | nil => simp [walk]
  | cons name rest ih => simp only [walk_cons_eq_ok_iff, h.directory, ih]

/-- Every path leads to the same location. -/
theorem access_eq_ok_iff (h : SameDirectories files later) {path : Path} {target : Location} :
    later.access path = .ok target ↔ files.access path = .ok target := by
  have hstart : later.start path.anchor = files.start path.anchor := by
    cases path.anchor <;> simp [start, h.current]
  rw [FileSystem.access_eq_ok_iff, FileSystem.access_eq_ok_iff, hstart, h.walk_eq_ok_iff]

end SameDirectories

theorem sameDirectories_put (content : ByteArray) (h : files.node? place ≠ some .directory) :
    SameDirectories files (files.put place (.file content)) := by
  refine ⟨rfl, fun other => ?_⟩
  rw [node?_put files (ne_nil_of_not_directory h)]
  by_cases hother : other = place
  · simp [hother, h]
  · simp [hother]

theorem sameDirectories_erase (h : files.node? place ≠ some .directory) :
    SameDirectories files (files.erase place) := by
  refine ⟨rfl, fun other => ?_⟩
  rw [node?_erase files (ne_nil_of_not_directory h)]
  by_cases hother : other = place
  · simp [hother, h]
  · simp [hother]

/-! ## What a path meets -/

/-- What stands at a path: nothing, if it leads nowhere. -/
def at? (files : FileSystem) (path : Path) : Option Node :=
  match files.access path with
  | .error _ => none
  | .ok place => files.node? place

variable {path : Path}

theorem at?_of_access (h : files.access path = .ok place) : files.at? path = files.node? place := by
  simp [at?, h]

theorem at?_eq_some_iff {node : Node} :
    files.at? path = some node ↔ ∃ place, files.access path = .ok place ∧
      files.node? place = some node := by
  cases h : files.access path <;> simp [at?, h]

/-- A path meets what it met before, if that location has not changed. -/
theorem SameDirectories.at?_eq (h : SameDirectories files later)
    (hplace : ∀ place, files.access path = .ok place → later.node? place = files.node? place) :
    later.at? path = files.at? path := by
  cases haccess : files.access path with
  | ok place =>
    rw [at?_of_access haccess, at?_of_access (h.access_eq_ok_iff.mpr haccess), hplace _ haccess]
  | error e =>
    have hlater : ∀ place, later.access path ≠ .ok place := by
      intro place hlater
      simp [h.access_eq_ok_iff.mp hlater] at haccess
    cases hother : later.access path with
    | ok place => exact absurd hother (hlater place)
    | error e' => simp [at?, haccess, hother]

/-- Reading a path gives the content of the file there. -/
theorem read_eq_ok_iff {content : ByteArray} :
    files.read path = .ok content ↔ files.at? path = some (.file content) := by
  rw [read, at?]
  cases files.access path with
  | error e => simp
  | ok place =>
    cases hnode : files.node? place with
    | none => simp [hnode]
    | some node => cases node <;> simp [hnode]

/-- Asking for a path is answered, unless its name is too long to ask. -/
theorem pathExists_eq (h : files.access path ≠ .error (.file .nameTooLong)) :
    files.pathExists path = .ok (files.at? path).isSome := by
  rw [pathExists, at?]
  split
  · next haccess => rw [haccess]; rfl
  · next haccess => exact absurd haccess h
  · next haccess => rw [haccess]; rfl
  · next haccess => rw [haccess]

end FileSystem

/-! ## Names that are too long -/

/-- A name of `n` letters. -/
def letters (n : Nat) : String := String.ofList (List.replicate n 'a')

theorem utf8ByteSize_letters (n : Nat) : (letters n).utf8ByteSize = n := by
  induction n with
  | zero => rfl
  | succ n ih =>
    have hfirst : letters (n + 1) = "a" ++ letters n := by
      rw [← String.toList_inj]
      simp [letters, List.replicate_succ]
    rw [hfirst, String.utf8ByteSize_append, ih, Nat.add_comm]
    rfl

theorem letters_ne {n : Nat} (h : 0 < n) {text : String} (htext : 'a' ∉ text.toList) :
    letters n ≠ text := by
  rintro rfl
  rw [letters, String.toList_ofList] at htext
  exact htext (List.mem_replicate.mpr ⟨by omega, rfl⟩)

theorem isPathName_letters {n : Nat} (h : 0 < n) : isPathName (letters n) = true := by
  have hslash : '/' ∉ (letters n).toList := by
    simp [letters]
  have hempty : letters n ≠ "" := letters_ne h (by decide)
  have hdot : letters n ≠ "." := letters_ne h (by decide)
  simp [isPathName, hempty, hdot, hslash]

theorem hasNull_letters {n : Nat} (h : 0 < n) : (Path.ofText (letters n)).hasNull = false := by
  rw [Path.hasNull, (Path.ofText_of_isPathName (isPathName_letters h)).2.2]
  simp [letters]

end CoinConsole
