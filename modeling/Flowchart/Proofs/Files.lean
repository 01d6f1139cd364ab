import Flowchart.Files

/-!
# What is written is read

A text that was written to a path is what the path leads to afterwards
(`read_write`). The reader walks through all pieces of the path and the
writer through those that are not empty only; they meet because an empty
piece leads nowhere, and because the file that is new stands on the way
to no folder.
-/

namespace Flowchart

namespace Files

variable {fs fs' : Files} {place place' : Place} {path text : String} {pieces : List String}

/-- A walk that goes on or ends in a folder begins in one. -/
theorem folder_of_walk (h : fs.walk place pieces = .ok place')
    (hend : fs.at? place' = some .folder) : fs.at? place = some .folder := by
  cases pieces with
  | nil =>
    obtain rfl := Except.ok.inj h
    exact hend
  | cons piece pieces =>
    rw [walk] at h
    split at h
    · cases h
    · cases h
    · next hfolder => exact hfolder

/-- A step of a walk. -/
theorem walk_cons {piece : String} (hfolder : fs.at? place = some .folder)
    (hlong : isLong piece = false) :
    fs.walk place (piece :: pieces) = fs.walk (step place piece) pieces := by
  rw [walk, hfolder]
  simp only [hlong, Bool.false_eq_true, if_false]

/-- **Empty pieces lead nowhere.** -/
theorem walk_of_filter (h : fs.walk place (pieces.filter (· ≠ "")) = .ok place')
    (hend : fs.at? place' = some .folder) : fs.walk place pieces = .ok place' := by
  induction pieces generalizing place with
  | nil => exact h
  | cons piece pieces ih =>
    have hfolder := folder_of_walk h hend
    by_cases hpiece : piece = ""
    · rw [List.filter_cons_of_neg (by simpa using hpiece)] at h
      have hstep : step place piece = place := if_pos (.inl hpiece)
      rw [walk_cons hfolder (by rw [hpiece]; decide), hstep]
      exact ih h
    · rw [List.filter_cons_of_pos (by simpa using hpiece)] at h
      rw [walk, hfolder] at h ⊢
      simp only at h ⊢
      split
      · next hlong =>
        rw [if_pos hlong] at h
        cases h
      · next hlong =>
        rw [if_neg hlong] at h
        exact ih h

/-- **A new file changes no way between folders.** -/
theorem walk_set {file : Place} (hfile : fs.at? file ≠ some .folder)
    (h : fs.walk place pieces = .ok place') :
    (fs.set file (.file text)).walk place pieces = .ok place' := by
  induction pieces generalizing place with
  | nil => exact h
  | cons piece pieces ih =>
    rw [walk] at h ⊢
    split at h
    · cases h
    · cases h
    · next hfolder =>
      have hne : place ≠ file := fun heq => hfile (heq ▸ hfolder)
      rw [at?_set_of_ne hne, hfolder]
      simp only
      split at h
      · cases h
      · next hlong =>
        rw [if_neg hlong]
        exact ih h

theorem walk_append {xs ys : List String} (h : fs.walk place xs = .ok place') :
    fs.walk place (xs ++ ys) = fs.walk place' ys := by
  induction xs generalizing place with
  | nil =>
    obtain rfl := Except.ok.inj h
    rfl
  | cons x xs ih =>
    rw [walk] at h
    rw [List.cons_append, walk]
    split at h
    · cases h
    · cases h
    · next hfolder =>
      split at h
      · cases h
      · next hlong =>
        simp only [if_neg hlong]
        exact ih h

/-- **Where a text is put**: the last piece of the path names the file in
a folder to which the other ones lead. -/
theorem target_eq_ok (h : fs.target path = .ok place) :
    ∃ names name folder, piecesOf path = names ++ [name] ∧ place = folder ++ [name] ∧
      fs.walk (fs.origin path) (names.filter (· ≠ "")) = .ok folder ∧
      fs.at? folder = some .folder ∧ fs.at? place ≠ some .folder ∧
      name ≠ "" ∧ name ≠ "." ∧ name ≠ ".." ∧ isLong name = false := by
  unfold target at h
  simp only at h
  split at h
  · cases h
  rename_i name hname
  split at h
  · cases h
  rename_i folder hwalk
  split at h
  · cases h
  · cases h
  rename_i hfolder
  split at h
  · cases h
  rename_i hdots
  split at h
  · cases h
  rename_i hlong
  split at h
  · cases h
  rename_i hthere
  obtain rfl := Except.ok.inj h
  simp only [not_or] at hdots
  obtain ⟨hdot, hdots, hslash⟩ := hdots
  obtain hnil | ⟨names, last, hlast⟩ := (piecesOf path).eq_nil_or_concat
  · rw [hnil] at hname
    cases hname
  -- the last piece is not empty, so it is the last name
  rw [List.concat_eq_append] at hlast
  rw [hlast, List.getLast?_concat, Option.some.injEq] at hslash
  have hnames : (piecesOf path).filter (· ≠ "") = names.filter (· ≠ "") ++ [last] := by
    rw [hlast, List.filter_append, List.filter_cons_of_pos (by simpa using hslash),
      List.filter_nil]
  rw [hnames, List.getLast?_concat] at hname
  rw [hnames, List.dropLast_concat] at hwalk
  obtain rfl := Option.some.inj hname
  exact ⟨names, last, folder, hlast, rfl, hwalk, hfolder, hthere, hslash, hdot, hdots,
    Bool.eq_false_iff.2 hlong⟩

/-- **What is written is read.** -/
theorem read_write (h : (fs.write path text).1 = .ok ()) :
    (fs.write path text).2.read path = .ok text := by
  obtain ⟨fs', place, htarget, hwritten⟩ : ∃ (fs' : Files) (place : Place),
      fs'.target path = .ok place ∧ (fs.write path text).2 = fs'.set place (.file text) := by
    unfold write at h ⊢
    rcases hmade : fs.makeWay path with ⟨_ | _, fs'⟩
    · rw [hmade] at h
      cases h
    · simp only [hmade] at h ⊢
      unfold put at h ⊢
      split at h
      · cases h
      · next place htarget => exact ⟨fs', place, htarget, rfl⟩
  obtain ⟨names, name, folder, hpieces, rfl, hwalk, hfolder, hthere, hname, hdot, hdots, hlong⟩ :=
    target_eq_ok htarget
  have hne : path ≠ "" := by
    rintro rfl
    have hlast := congrArg List.getLast? hpieces
    rw [List.getLast?_concat] at hlast
    exact hname (Option.some.inj (hlast.symm.trans rfl))
  -- the new file is no folder, so it stands on no way
  have hother : folder ≠ folder ++ [name] := fun heq => hthere (heq ▸ hfolder)
  have hfolder' : (fs'.set (folder ++ [name]) (.file text)).at? folder = some .folder := by
    rw [at?_set_of_ne hother, hfolder]
  have hway : (fs'.set (folder ++ [name]) (.file text)).walk (fs'.origin path) names = .ok folder :=
    walk_of_filter (walk_set hthere hwalk) hfolder'
  have hstep : step folder name = folder ++ [name] := by
    rw [step, if_neg (by simp [hname, hdot]), if_neg hdots]
  have horigin : (fs'.set (folder ++ [name]) (.file text)).origin path = fs'.origin path := rfl
  rw [hwritten, read, if_neg hne, hpieces, horigin, walk_append hway, walk_cons hfolder' hlong,
    hstep, walk]
  simp only [at?_set_self (List.append_ne_nil_of_right_ne_nil folder (List.cons_ne_nil name []))]

theorem read_of_write (h : fs.write path text = (.ok (), fs')) : fs'.read path = .ok text := by
  have hwritten : (fs.write path text).1 = .ok () := by rw [h]
  have hread := read_write hwritten
  rw [h] at hread
  exact hread

end Files

end Flowchart
