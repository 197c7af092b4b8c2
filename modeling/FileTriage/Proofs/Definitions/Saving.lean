/-
What a store holds after a save.

A save consists of a few operations on files.  `Store.Writes` says that they succeed, and where they
do, the definitions have been announced and are what is loaded from then on.

They do succeed where the directory of the store is there and its files hold what has been written
to them last, or nothing (`Store.Keeps`).  The directory may be one that the first save has yet to
make (`Store.Remembers`).
-/
import FileTriage.Definitions.Store
import FileTriage.Proofs.Definitions.TomlRoundTrip
import FileTriage.Proofs.Disk.Directory

namespace FileTriage

/-- What has been written is read back, whichever format is tried. -/
theorem Definitions.ofBytes_encode_of_toToml {sets : Definitions} {text : String}
    (h : sets.toToml = .ok text) : ofBytes (Text.Utf8.encode text) = .ok sets := by
  rw [ofBytes, ofToml_encode_of_toToml h]

namespace StoreKey

/-! ## The names of the files -/

theorem entryName_fileName (key : StoreKey) : Disk.EntryName key.fileName := by
  cases key
  all_goals
    exact ⟨⟨by decide, by decide, by decide⟩, by decide, by decide, by decide, by decide +kernel⟩

theorem entryName_legacyFileName (key : StoreKey) : Disk.EntryName key.legacyFileName := by
  cases key
  all_goals
    exact ⟨⟨by decide, by decide, by decide⟩, by decide, by decide, by decide, by decide +kernel⟩

theorem encode_fileName_ne {key other : StoreKey} (h : key ≠ other) :
    Text.Utf8.encode key.fileName ≠ Text.Utf8.encode other.fileName := by
  revert h
  cases key <;> cases other <;> decide

theorem encode_fileName_ne_legacyFileName (key other : StoreKey) :
    Text.Utf8.encode key.fileName ≠ Text.Utf8.encode other.legacyFileName := by
  cases key <;> cases other <;> decide

end StoreKey

namespace Store

/-! ## Saving and loading -/

variable {s : Store} {state : State} {key : StoreKey} {sets : Definitions} {text : String}

theorem save_of_error {cause : EncodeError} (h : sets.toToml = .error cause) (s : Store)
    (state : State) (key : StoreKey) :
    s.save state key sets = (.error (.encode cause), state) := by
  rw [save, h]

/-- A save that fails because the definitions cannot be written changes nothing. -/
theorem eq_of_save_encode {state' : State} {cause : EncodeError}
    (h : s.save state key sets = (.error (.encode cause), state')) : state' = state := by
  rw [save] at h
  split at h
  · cases h
    rfl
  · split at h
    · cases h
    · split at h
      · cases h
      · cases h

/-- The operations on files that make up a save succeed, and lead from one disk to another on which
the file can be read. -/
structure Writes (s : Store) (key : StoreKey) (text : String) (before after : Disk) : Prop where
  written : ∃ made, before.makeDirectories s.directory = .ok made ∧
    made.replaceFile (s.pathFor key) (Text.Utf8.encode text) = .ok after
  readable : ∃ bytes, after.read (s.pathFor key) = .ok bytes

variable {after : Disk}

/-- Definitions that can be written are saved and announced. -/
theorem Writes.save_eq (h : s.Writes key text state.disk after) (htext : sets.toToml = .ok text) :
    s.save state key sets =
      (.ok (), { disk := after, saves := state.saves ++ [⟨key, sets.size⟩] }) := by
  obtain ⟨made, hmade, hreplaced⟩ := h.written
  rw [save, htext]
  simp only
  rw [hmade]
  simp only
  rw [hreplaced]

/-- What has been saved is loaded, whatever was there before. -/
theorem Writes.load_eq {before : Disk} (h : s.Writes key text before after)
    (htext : sets.toToml = .ok text) : s.load after key = .ok sets := by
  obtain ⟨made, -, hreplaced⟩ := h.written
  obtain ⟨bytes, hbytes⟩ := h.readable
  have hread : after.read (s.pathFor key) = .ok (Text.Utf8.encode text) := by
    rcases Disk.read_replaceFile hreplaced with hread | hlost
    · exact hread
    · rw [hlost] at hbytes
      cases hbytes
  rw [load, loadFile, hread]
  simp only
  rw [Definitions.ofBytes_encode_of_toToml htext]

/-- A save that succeeds has written the definitions, unless they have cut the way to their file. -/
theorem writes_of_save {state' : State} (h : s.save state key sets = (.ok (), state'))
    (hread : state'.disk.read (s.pathFor key) ≠ .error .notDirectory) :
    ∃ text, sets.toToml = .ok text ∧ s.Writes key text state.disk state'.disk := by
  rw [save] at h
  split at h
  · cases h
  · next text htext =>
    split at h
    · cases h
    · next made hmade =>
      split at h
      · cases h
      · next disk hreplaced =>
        cases h
        refine ⟨text, htext, ⟨made, hmade, hreplaced⟩, Text.Utf8.encode text, ?_⟩
        exact (Disk.read_replaceFile hreplaced).resolve_right hread

/-! ## What the files hold -/

variable {older : StoreKey → Option (List UInt8)} {last : StoreKey → Option Definitions} {d : Disk}
  {place : List FileName}

/-- What a file holds when these definitions have been saved last, if any have. -/
inductive Written : Option Definitions → Option (List UInt8) → Prop
  | nothing : Written none none
  | text {sets : Definitions} {text : String} (htext : sets.toToml = .ok text) :
      Written (some sets) (some (Text.Utf8.encode text))

/-- The directory of the store is there.  In it, the files hold what has been saved last, and the
older files hold these bytes. -/
structure Keeps (s : Store) (older : StoreKey → Option (List UInt8))
    (last : StoreKey → Option Definitions) (place : List FileName) (d : Disk) : Prop where
  reaches : d.Reaches s.directory place
  file : ∀ key, ∃ bytes, Written (last key) bytes ∧
    d.Holds (place ++ [Text.Utf8.encode key.fileName]) bytes
  olderFile : ∀ key, d.Holds (place ++ [Text.Utf8.encode key.legacyFileName]) (older key)

/-- The directory of the store can be made, unless it is there, and keeps the files then.  Until it
has been made, the files are read as if it had been. -/
def Remembers (s : Store) (older : StoreKey → Option (List UInt8))
    (last : StoreKey → Option Definitions) (d : Disk) : Prop :=
  ∃ made place, d.makeDirectories s.directory = .ok made ∧ s.Keeps older last place made ∧
    ∀ key, d.read (s.pathFor key) = made.read (s.pathFor key) ∧
      d.read (s.legacyPathFor key) = made.read (s.legacyPathFor key)

/-- The definitions of a kind: those that have been saved last, or else those of the older file, or
else none. -/
def recalled (s : Store) (key : StoreKey) (older : Option (List UInt8)) :
    Option Definitions → Except StoreError Definitions
  | some sets => .ok sets
  | none =>
    match older with
    | none => .ok .empty
    | some bytes =>
      match Definitions.ofBytes bytes with
      | .ok sets => .ok sets
      | .error cause => .error (.decode (s.legacyPathFor key) cause)

theorem loadFile_of_absent {path : String} (h : d.read path = .error .notFound)
    (absent : Except StoreError Definitions) : loadFile d path absent = absent := by
  rw [loadFile, h]

theorem Keeps.load_eq (h : s.Keeps older last place d) (key : StoreKey) :
    s.load d key = s.recalled key (older key) (last key) := by
  obtain ⟨bytes, hwritten, hholds⟩ := h.file key
  have hfile := h.reaches.read_eq key.entryName_fileName hholds
  have holder := h.reaches.read_eq key.entryName_legacyFileName (h.olderFile key)
  rw [load, pathFor, legacyPathFor]
  cases hlast : last key with
  | some sets =>
    rw [hlast] at hwritten
    cases hwritten with
    | text htext =>
      rw [loadFile, hfile]
      simp only [Option.elim_some]
      rw [Definitions.ofBytes_encode_of_toToml htext]
      rfl
  | none =>
    rw [hlast] at hwritten
    cases hwritten
    rw [loadFile_of_absent hfile]
    cases hbytes : older key with
    | none =>
      rw [hbytes] at holder
      exact loadFile_of_absent holder _
    | some bytes =>
      rw [hbytes] at holder
      rw [loadFile, holder]
      rfl

/-- A file that has been replaced holds the new definitions, and the other ones stay. -/
theorem Keeps.put (h : s.Keeps older last place d) (key : StoreKey)
    (htext : sets.toToml = .ok text) (modified : Instant) :
    s.Keeps older (Function.update last key (some sets)) place
      (d.put (place ++ [Text.Utf8.encode key.fileName])
        (.file (.bytes (Text.Utf8.encode text)) modified)) := by
  obtain ⟨bytes, -, hold⟩ := h.file key
  refine ⟨h.reaches.put hold _ _, fun other => ?_, fun other => ?_⟩
  · by_cases hother : key = other
    · subst hother
      rw [Function.update_self]
      exact ⟨_, .text htext, h.reaches.holds_put_self _ _⟩
    · obtain ⟨there, hwritten, hholds⟩ := h.file other
      rw [Function.update_of_ne fun heq => hother heq.symm]
      exact ⟨there, hwritten,
        h.reaches.holds_put_of_ne _ _ hholds (StoreKey.encode_fileName_ne hother)⟩
  · -- the older files are never written
    exact h.reaches.holds_put_of_ne _ _ (h.olderFile other)
      (key.encode_fileName_ne_legacyFileName other)

theorem Keeps.replaceFile_eq (h : s.Keeps older last place d) (key : StoreKey)
    (bytes : List UInt8) :
    d.replaceFile (s.pathFor key) bytes =
      .ok (d.put (place ++ [Text.Utf8.encode key.fileName]) (.file (.bytes bytes) d.clock)) := by
  obtain ⟨there, -, hholds⟩ := h.file key
  refine Disk.replaceFile_of_opens (h.reaches.opens key.entryName_fileName) ?_ bytes
  intro old hold
  rw [hholds.sight_eq hold]
  rintro ⟨⟩

theorem Keeps.remembers (h : s.Keeps older last place d) : s.Remembers older last d :=
  ⟨d, place, h.reaches.makeDirectories_eq, h, fun _ => ⟨rfl, rfl⟩⟩

theorem Remembers.load_eq (h : s.Remembers older last d) (key : StoreKey) :
    s.load d key = s.recalled key (older key) (last key) := by
  obtain ⟨made, place, -, hkeeps, hreads⟩ := h
  rw [← hkeeps.load_eq key, load, load, loadFile, loadFile, loadFile, loadFile, (hreads key).1,
    (hreads key).2]

/-- Whatever is to be saved, the operations on files succeed. -/
theorem Keeps.writes {made : Disk} (h : s.Keeps older last place made)
    (hmade : d.makeDirectories s.directory = .ok made) (key : StoreKey) (text : String) :
    s.Writes key text d (made.put (place ++ [Text.Utf8.encode key.fileName])
      (.file (.bytes (Text.Utf8.encode text)) made.clock)) := by
  obtain ⟨there, -, hold⟩ := h.file key
  have hreaches := h.reaches.put hold (Text.Utf8.encode text) made.clock
  exact ⟨⟨made, hmade, h.replaceFile_eq key _⟩, Text.Utf8.encode text,
    hreaches.read_eq key.entryName_fileName (h.reaches.holds_put_self _ _)⟩

/-! ## Where nothing has been saved -/

/-- A directory that has at most older files. -/
theorem remembers_of_reaches (h : d.Reaches s.directory place)
    (hfile : ∀ key : StoreKey, d.Holds (place ++ [Text.Utf8.encode key.fileName]) none)
    (holder : ∀ key : StoreKey,
      d.Holds (place ++ [Text.Utf8.encode key.legacyFileName]) (older key)) :
    s.Remembers older (fun _ => none) d :=
  Keeps.remembers ⟨h, fun key => ⟨none, .nothing, hfile key⟩, holder⟩

/-- A directory that is not there yet. -/
theorem remembers_of_opens {parent : List FileName} {name : FileName}
    (h : d.Opens s.directory parent name) (hfree : d.root.at? (parent ++ [name]) = none) :
    s.Remembers (fun _ => none) (fun _ => none) d := by
  have hpath : s.directory.isEmpty = false := by
    cases hempty : s.directory.isEmpty with
    | false => rfl
    | true =>
      have hnonempty := h.nonempty
      rw [String.isEmpty_iff.1 hempty] at hnonempty
      cases hnonempty
  have hreaches := h.reaches_put d.clock hfree
  have hnone := h.holds_put d.clock
  -- before the directory is made, its files are not found, and neither are they after
  refine ⟨_, _, Disk.makeDirectories_of_makeDirectory hpath (Disk.makeDirectory_of_opens h hfree),
    ⟨hreaches, fun key => ⟨none, .nothing, hnone _⟩, fun key => hnone _⟩, fun key => ⟨?_, ?_⟩⟩
  · exact (h.read_eq hfree key.entryName_fileName).trans
      (hreaches.read_eq key.entryName_fileName (hnone _)).symm
  · exact (h.read_eq hfree key.entryName_legacyFileName).trans
      (hreaches.read_eq key.entryName_legacyFileName (hnone _)).symm

/-! ## A store on an empty disk -/

/-- A store that is not there yet on an empty disk. -/
def fresh : Store := ⟨"defs"⟩

/-- The names on the way to its file. -/
def freshNames : FileName × FileName :=
  (Text.Utf8.encode "defs", Text.Utf8.encode "interesting_file_sets.toml")

/-- The name of its older file. -/
def freshOlderName : FileName := Text.Utf8.encode "interesting_file_sets.json"

/-- The empty disk with the directory of the store. -/
def freshDisk : Disk := Disk.put {} [freshNames.1] (.directory true .epoch [])

theorem opens_fresh : Disk.Opens {} fresh.directory [] freshNames.1 where
  noNul := by decide
  nonempty := by decide
  plain := ⟨by decide, by decide, by decide⟩
  ends := by
    refine ⟨[], by decide, ?_⟩
    rw [Disk.resolve]
    rfl
  directory := rfl

theorem remembers_fresh : fresh.Remembers (fun _ => none) (fun _ => none) {} :=
  remembers_of_opens opens_fresh rfl

/-- Whatever is to be saved, the store takes it. -/
theorem exists_writes_fresh (text : String) :
    ∃ after, fresh.Writes .interestingItems text {} after := by
  obtain ⟨made, place, hmade, hkeeps, -⟩ := remembers_fresh
  exact ⟨_, hkeeps.writes hmade .interestingItems text⟩

end Store

end FileTriage
