import SchemaWorkbench.Host

/-!
# What reading and writing a file does to a host

Reading a file may use up the standard input, and changes nothing else. Writing one replaces its
bytes, if the path does not lead to a device, and every other file is as it was. If writing fails,
either nothing was changed, or it was stopped and has left a beginning of the text in the file.

## Main definitions

* `Host.WritesWhole`: a file that is open for writing is written to its end
* `Host.Stopped`: what is left where writing a file was stopped
* `Host.Kept`: the files and the output of a host are the same

## Main results

* `Host.eq_or_eq_dropInput_of_read`: what reading a file does
* `Host.exists_place_of_write`, `Host.files_of_write`: what writing a file does
* `Host.eq_or_replace_of_failed_write`: what is left where writing a file fails
* `Host.Kept.locateNew_eq`: a path leads to the same place as long as the files are the same
-/

namespace SchemaWorkbench

/-! ## Reading and writing -/

namespace Host

variable {h h' : Host} {path text : String}

theorem eq_or_eq_dropInput_of_readDevice {d : Device} (hread : h.readDevice d = .ok (text, h')) :
    h' = h ∨ h' = h.dropInput := by
  cases d with
  | input =>
    rw [readDevice] at hread
    split at hread
    · cases hread
      exact .inl rfl
    · cases hinput : h.inputText with
      | error fault =>
        rw [hinput] at hread
        contradiction
      | ok input =>
        rw [hinput] at hread
        cases hread
        exact .inr rfl
  | null | full | output | errors =>
    cases hread
    exact .inl rfl

/-- Reading a file leaves the host as it is, or uses up its standard input. -/
theorem eq_or_eq_dropInput_of_read (hread : h.read path = .ok (text, h')) :
    h' = h ∨ h' = h.dropInput := by
  rw [Host.read] at hread
  cases hplace : h.locate path with
  | error fault =>
    rw [hplace] at hread
    contradiction
  | ok place =>
    simp only [hplace, bind, Except.bind] at hread
    split at hread
    · contradiction
    · -- Neither whether the file may be read nor what its bytes mean changes the host.
      split at hread
      · split at hread
        · contradiction
        · exact eq_or_eq_dropInput_of_readDevice hread
      · split at hread
        · contradiction
        · split at hread
          · contradiction
          · cases hread
            exact .inl rfl
      · contradiction

/-- A file is opened at the place to which its path leads. -/
theorem locateNew_of_openNew {place : Place} (hopen : h.openNew path = .ok place) :
    h.locateNew path = .ok place := by
  rw [openNew] at hopen
  cases hplace : h.locateNew path with
  | error fault =>
    rw [hplace] at hopen
    contradiction
  | ok found =>
    simp only [hplace, bind, Except.bind] at hopen
    split at hopen
    · contradiction
    · split at hopen
      · contradiction
      · exact hopen

/-- What is written goes to the device at the place to which the path leads, or else the bytes there
are replaced. -/
theorem exists_place_of_write (hwrite : h.write path text = (.ok (), h')) :
    ∃ place, h.locateNew path = .ok place ∧
      ((∃ d, h.devices.lookup place = some d ∧ h.writeDevice text d = .ok h') ∨
        h.devices.lookup place = none ∧ h' = h.replace place (encodeUtf8 text)) := by
  rw [Host.write] at hwrite
  split at hwrite
  · simp at hwrite
  · rename_i place hopen
    refine ⟨place, locateNew_of_openNew hopen, ?_⟩
    -- A device comes before a file of the same place.
    split at hwrite
    · rename_i d hdevice
      split at hwrite
      · simp at hwrite
      · rename_i hwritten
        exact .inl ⟨d, hdevice, (Prod.mk.inj hwrite).2 ▸ hwritten⟩
    · rename_i hnone
      split at hwrite
      · simp at hwrite
      · exact .inr ⟨hnone, (Prod.mk.inj hwrite).2.symm⟩

/-- **If writing a file fails**, the host is as it was, or writing was stopped and the file holds
what was written until then. -/
theorem eq_or_replace_of_failed_write {fault : FileFault}
    (hwrite : h.write path text = (.error fault, h')) :
    h' = h ∨ ∃ place n, h.locateNew path = .ok place ∧
      h.stop place (encodeUtf8 text) = some (n, fault) ∧
        h' = h.replace place ((encodeUtf8 text).take n) := by
  rw [Host.write] at hwrite
  split at hwrite
  · exact .inl (Prod.mk.inj hwrite).2.symm
  · rename_i place hopen
    split at hwrite
    · -- A device that takes nothing is as it was.
      split at hwrite
      · exact .inl (Prod.mk.inj hwrite).2.symm
      · simp at hwrite
    · split at hwrite
      · rename_i n fault' hstop
        obtain ⟨hfault, hafter⟩ := Prod.mk.inj hwrite
        cases hfault
        exact .inr ⟨place, n, locateNew_of_openNew hopen, hstop, hafter.symm⟩
      · simp at hwrite

theorem files_of_writeDevice {d : Device} (hwrite : h.writeDevice text d = .ok h') :
    h'.files = h.files := by
  cases d with
  | null | input | output | errors =>
    cases hwrite
    rfl
  | full =>
    rw [writeDevice] at hwrite
    split at hwrite
    · cases hwrite
      rfl
    · contradiction

/-- The file is found with its bytes. -/
theorem lookup_replace_self (h : Host) (place : Place) (bytes : List UInt8) :
    (h.replace place bytes).files.lookup place = some bytes :=
  List.lookup_cons_self

/-- A file is looked up as before if another one was replaced. -/
theorem lookup_replace_of_ne {place other : Place} (hne : other ≠ place) (bytes : List UInt8) :
    (h.replace place bytes).files.lookup other = h.files.lookup other := by
  rw [replace, List.lookup_cons, beq_false_of_ne hne]
  dsimp only
  induction h.files with
  | nil => rfl
  | cons file files ih =>
    by_cases hfile : file.1 = place
    · -- The file that is taken out is not the one that is looked up.
      rw [List.filter_cons_of_neg (by simpa using hfile), List.lookup_cons,
        beq_false_of_ne (hfile ▸ hne)]
      exact ih
    · rw [List.filter_cons_of_pos (by simpa using hfile), List.lookup_cons, List.lookup_cons, ih]

/-- **What is written** is found at the place to which the path leads, unless it goes to a device
there, and every other file is as it was. -/
theorem files_of_write (hwrite : h.write path text = (.ok (), h')) :
    ∃ place, h.locateNew path = .ok place ∧
      (∀ other, other ≠ place → h'.files.lookup other = h.files.lookup other) ∧
      (h'.files.lookup place = some (encodeUtf8 text) ∨
        ∃ d, h.devices.lookup place = some d ∧ h.writeDevice text d = .ok h' ∧
          h'.files = h.files) := by
  obtain ⟨place, hplace, ⟨d, hd, hdevice⟩ | ⟨-, rfl⟩⟩ := exists_place_of_write hwrite
  · have hfiles := files_of_writeDevice hdevice
    exact ⟨place, hplace, fun _ _ => by rw [hfiles], .inr ⟨d, hd, hdevice, hfiles⟩⟩
  · exact ⟨place, hplace, fun other hne => lookup_replace_of_ne hne _,
      .inl (h.lookup_replace_self place _)⟩

/-- A file that is open for writing is written to its end: nothing stops it, such as a disk that is
full. -/
def WritesWhole (h : Host) : Prop :=
  ∀ place bytes, h.stop place bytes = none

/-- Writing a text to the file of a path was stopped: the file holds what was written until then,
which is the beginning of the text, and every other file is as it was. -/
def Stopped (h : Host) (path text : String) (h' : Host) : Prop :=
  ∃ place n fault, h.locateNew path = .ok place ∧
    h.stop place (encodeUtf8 text) = some (n, fault) ∧
      h'.files = (h.replace place ((encodeUtf8 text).take n)).files

theorem WritesWhole.not_stopped (hwhole : h.WritesWhole) : ¬ h.Stopped path text h' := by
  rintro ⟨place, n, fault, -, hstop, -⟩
  rw [hwhole place] at hstop
  contradiction

end Host

/-! ## Files and output that stay the same -/

/-- The files and the output of a host, and what is needed to find and to use a file, are the
same. -/
structure Host.Kept (h h' : Host) : Prop where
  files : h'.files = h.files
  directories : h'.directories = h.directories
  devices : h'.devices = h.devices
  workingDirectory : h'.workingDirectory = h.workingDirectory
  barred : h'.barred = h.barred
  stop : h'.stop = h.stop
  output : h'.output = h.output

namespace Host.Kept

variable {h h' h'' : Host}

theorem refl (h : Host) : Kept h h := ⟨rfl, rfl, rfl, rfl, rfl, rfl, rfl⟩

theorem trans (k : Kept h h') (k' : Kept h' h'') : Kept h h'' where
  files := k'.files.trans k.files
  directories := k'.directories.trans k.directories
  devices := k'.devices.trans k.devices
  workingDirectory := k'.workingDirectory.trans k.workingDirectory
  barred := k'.barred.trans k.barred
  stop := k'.stop.trans k.stop
  output := k'.output.trans k.output

theorem of_read {path text : String} (hread : h.read path = .ok (text, h')) : Kept h h' := by
  rcases eq_or_eq_dropInput_of_read hread with rfl | rfl
  · exact refl h'
  · exact ⟨rfl, rfl, rfl, rfl, rfl, rfl, rfl⟩

theorem hasFile_eq (k : Kept h h') (place : Place) : h'.hasFile place = h.hasFile place := by
  rw [hasFile, hasFile, k.files, k.devices]

theorem hasDirectory_eq (k : Kept h h') (place : Place) :
    h'.hasDirectory place = h.hasDirectory place := by
  rw [hasDirectory, hasDirectory, k.files, k.directories, k.devices, k.workingDirectory]

theorem enter_eq (k : Kept h h') (place : Place) (name : String) :
    h'.enter place name = h.enter place name := by
  rw [enter, enter, allow, allow, k.hasFile_eq, k.hasDirectory_eq, k.barred]

theorem walk_eq (k : Kept h h') (place : Place) (names : List String) :
    h'.walk place names = h.walk place names := by
  induction names generalizing place with
  | nil => rfl
  | cons name names ih => simp only [walk, k.enter_eq, ih]

/-- A path leads to the same place to write to. -/
theorem locateNew_eq (k : Kept h h') (path : String) : h'.locateNew path = h.locateNew path := by
  have hstart : h'.startOf path = h.startOf path := by rw [startOf, startOf, k.workingDirectory]
  simp only [locateNew, hstart, k.walk_eq]

end Host.Kept

end SchemaWorkbench
