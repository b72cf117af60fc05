import CoinConsole.Proofs.Files.Places
import CoinConsole.Save.Store

/-!
# The staging file

A state is written to a staging file beside the save file before it is moved there. The staging
file has a name of its own, so it stands at another location than the save file, and when it can
be reached, so can the save file.
-/

namespace CoinConsole

namespace Save

/-- A name with `.tmp` behind it is no name that is as short as before. -/
theorem append_tmp_ne {last name : String} (h : name.length < last.length + 4) :
    last ++ ".tmp" ≠ name := by
  rintro rfl
  rw [String.length_append] at h
  exact absurd h (Nat.lt_irrefl _)

/-- The staging file stands in the directory that the save file stands in. -/
theorem enter_append_tmp (parent : Location) (last : String) :
    FileSystem.enter parent (last ++ ".tmp") = parent ++ [last ++ ".tmp"] := by
  have hshort : "..".length < last.length + 4 := by
    rw [show "..".length = 2 from rfl]
    omega
  exact if_neg (append_tmp_ne hshort)

/-- A name that leads down does not lead to a place above the staging file. -/
theorem not_enter_prefix (parent : Location) {last : String} (h : last ≠ "..") :
    ¬ FileSystem.enter parent last <+: parent ++ [last ++ ".tmp"] := by
  rw [FileSystem.enter, if_neg h, List.prefix_append_right_inj, List.cons_prefix_cons]
  exact fun hc => append_tmp_ne (by omega) hc.1.symm

theorem enter_ne_staging (parent : Location) (last : String) :
    FileSystem.enter parent last ≠ parent ++ [last ++ ".tmp"] := by
  by_cases hup : last = ".."
  · intro hc
    rw [FileSystem.enter, if_pos hup] at hc
    have hlength := congrArg List.length hc
    simp at hlength
  · exact fun hc => not_enter_prefix parent hup (hc ▸ List.prefix_rfl)

variable {path staging : Path}

/-- `staging` is `path` with `.tmp` behind its last name. -/
structure IsStaging (path staging : Path) : Prop where
  anchor : staging.anchor = path.anchor
  names : ∃ front last, path.names = front ++ [last] ∧ path.name = last ∧
    staging.names = front ++ [last ++ ".tmp"]

theorem isStaging_of_staging? (h : staging? path = some staging) : IsStaging path staging := by
  unfold staging? at h
  split at h
  · simp at h
  · next last hlast =>
    obtain rfl := Option.some.inj h
    obtain ⟨front, hfront⟩ := List.getLast?_eq_some_iff.mp hlast
    exact ⟨rfl, front, last, hfront, by simp [Path.name, hlast], by simp [hfront]⟩

/-- Only a path without names has no staging file. -/
theorem names_eq_nil_of_staging? (h : staging? path = none) : path.names = [] := by
  unfold staging? at h
  split at h
  · next hlast => exact List.getLast?_eq_none_iff.mp hlast
  · cases h

/-- Every path with a last name has a staging file. -/
theorem exists_staging_of_name (h : path.name ≠ "") : ∃ staging, staging? path = some staging := by
  unfold staging?
  split
  · next hnone => exact absurd (by simp [Path.name, hnone]) h
  · exact ⟨_, rfl⟩

namespace IsStaging

theorem text_eq (h : IsStaging path staging) : staging.text = path.text ++ ".tmp" := by
  obtain ⟨front, last, hpath, -, hstaging⟩ := h.names
  rw [Path.text_of_ne_nil (by simp [hstaging]), Path.text_of_ne_nil (by simp [hpath]), h.anchor,
    hpath, hstaging, String.append_assoc]
  congr 1
  by_cases hfront : front = []
  · simp [hfront, String.intercalate_singleton]
  · rw [String.intercalate_append_of_ne_nil hfront (by simp),
      String.intercalate_append_of_ne_nil hfront (by simp)]
    simp [String.intercalate_singleton, String.append_assoc]

theorem hasNull_eq (h : IsStaging path staging) : staging.hasNull = path.hasNull := by
  simp [Path.hasNull, h.text_eq]

/-- When the staging file can be reached, the save file can be reached, and is another one. It
does not hold the staging file either, unless it is the directory above. -/
theorem exists_target (h : IsStaging path staging) {files : FileSystem} {origin : Location}
    (horigin : files.access staging = .ok origin) :
    ∃ target, files.access path = .ok target ∧ target ≠ origin ∧
      (path.name ≠ ".." → ¬ target <+: origin) := by
  obtain ⟨hnull, hshort, hwalk⟩ := FileSystem.access_eq_ok_iff.mp horigin
  obtain ⟨front, last, hpath, hlast, hstaging⟩ := h.names
  rw [h.text_eq, String.utf8ByteSize_append] at hshort
  rw [hstaging, h.anchor, FileSystem.walk_concat_eq_ok_iff] at hwalk
  obtain ⟨parent, hparent, hdirectory, hname, rfl⟩ := hwalk
  rw [String.utf8ByteSize_append] at hname
  have htarget : files.access path = .ok (FileSystem.enter parent last) := by
    rw [FileSystem.access_eq_ok_iff, ← h.hasNull_eq, hpath, FileSystem.walk_concat_eq_ok_iff]
    exact ⟨hnull, Nat.le_of_add_right_le hshort, parent, hparent, hdirectory,
      Nat.le_of_add_right_le hname, rfl⟩
  refine ⟨_, htarget, ?_⟩
  rw [enter_append_tmp, hlast]
  exact ⟨enter_ne_staging parent last, not_enter_prefix parent⟩

end IsStaging

end Save

end CoinConsole
