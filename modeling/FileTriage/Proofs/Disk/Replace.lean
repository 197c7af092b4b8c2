/-
Reading a file that has just been replaced.

The way to a new file leads through directories and links (`Leads`).  When the file is there, the
same way is open as before, except where it led through the very link that the file has taken the
place of; then it ends at that file, and what lies beyond is not found in a directory.
-/
import FileTriage.Disk.Basic
import FileTriage.Proofs.Disk.Entry

namespace FileTriage.Disk

/-- A name that stands for an entry of a directory. -/
structure Plain (name : FileName) : Prop where
  ne_here : name ≠ here
  ne_above : name ≠ above
  short : ¬ nameLimit < name.length

/-- A way that leads to a directory, and how many links may still be followed at its end. -/
inductive Leads (root : Entry) :
    Nat → List FileName → List FileName → Nat → List FileName → Prop where
  | done {links : Nat} {current : List FileName} : Leads root links current [] links current
  | here {links links' : Nat} {current rest location : List FileName}
      (hrest : Leads root links current rest links' location) :
      Leads root links current (here :: rest) links' location
  | above {links links' : Nat} {current rest location : List FileName}
      (hrest : Leads root links current.dropLast rest links' location) :
      Leads root links current (above :: rest) links' location
  | directory {links links' : Nat} {current rest location : List FileName} {name : FileName}
      (hname : Plain name)
      (hsight : (root.at? (current ++ [name])).map Entry.sight = some .directory)
      (hrest : Leads root links (current ++ [name]) rest links' location) :
      Leads root links current (name :: rest) links' location
  | link {links links' : Nat} {current rest location : List FileName} {name : FileName}
      {target : List UInt8} (hname : Plain name)
      (hsight : (root.at? (current ++ [name])).map Entry.sight = some (.link target))
      (hrest : Leads root links (start current target) (steps target ++ rest) links' location) :
      Leads root (links + 1) current (name :: rest) links' location

/-- A path that a file can be put at: its directory is there, and its last name is one that stands
for an entry of it. -/
structure Opens (d : Disk) (path : String) (parent : List FileName) (name : FileName) : Prop where
  noNul : (Text.Utf8.encode path).contains 0 = false
  nonempty : (Text.Utf8.encode path).isEmpty = false
  plain : Plain name
  ends : ∃ names, components (Text.Utf8.encode path) = names ++ [name] ∧
    resolve d.root true linkLimit (start d.workingDirectory (Text.Utf8.encode path)) names =
      .ok parent
  directory : (d.root.at? parent).map Entry.sight = some .directory

variable {root root' : Entry} {follow : Bool} {links links' : Nat} {d d' : Disk} {path : String}
  {current parent rest tail location place : List FileName} {name : FileName}

/-! ## One name of a path -/

theorem resolve_here (root : Entry) (follow : Bool) (links : Nat) (current rest : List FileName) :
    resolve root follow links current (here :: rest) = resolve root follow links current rest := by
  rw [resolve, if_pos rfl]

theorem resolve_above (root : Entry) (follow : Bool) (links : Nat) (current rest : List FileName) :
    resolve root follow links current (above :: rest) =
      resolve root follow links current.dropLast rest := by
  have hne : above ≠ here := by decide
  rw [resolve, if_neg hne, if_pos rfl]

namespace Plain

variable (h : Plain name)
include h

/-- A way may end where there is nothing, but not go on there. -/
theorem resolve_absent (hnone : root.at? (current ++ [name]) = none) (follow : Bool) (links : Nat)
    (rest : List FileName) :
    resolve root follow links current (name :: rest) =
      if rest.isEmpty then .ok (current ++ [name]) else .error .notFound := by
  rw [resolve, if_neg h.ne_here, if_neg h.ne_above, if_neg h.short, hnone]

/-- Nothing is below a file. -/
theorem resolve_file (hsight : (root.at? (current ++ [name])).map Entry.sight = some .file)
    (follow : Bool) (links : Nat) (rest : List FileName) :
    resolve root follow links current (name :: rest) =
      if rest.isEmpty then .ok (current ++ [name]) else .error .notDirectory := by
  obtain ⟨e, he, hfile⟩ := Option.map_eq_some_iff.1 hsight
  cases e with
  | file => rw [resolve, if_neg h.ne_here, if_neg h.ne_above, if_neg h.short, he]
  | link => cases hfile
  | directory => cases hfile

/-- The way goes on in a directory. -/
theorem resolve_directory
    (hsight : (root.at? (current ++ [name])).map Entry.sight = some .directory)
    (follow : Bool) (links : Nat) (rest : List FileName) :
    resolve root follow links current (name :: rest) =
      resolve root follow links (current ++ [name]) rest := by
  obtain ⟨e, he, hdirectory⟩ := Option.map_eq_some_iff.1 hsight
  cases e with
  | file => cases hdirectory
  | link => cases hdirectory
  | directory => rw [resolve, if_neg h.ne_here, if_neg h.ne_above, if_neg h.short, he]

/-- The way goes on where a link points to. -/
theorem resolve_link {target : List UInt8}
    (hsight : (root.at? (current ++ [name])).map Entry.sight = some (.link target))
    (links : Nat) (rest : List FileName) :
    resolve root true (links + 1) current (name :: rest) =
      resolve root true links (start current target) (steps target ++ rest) := by
  obtain ⟨e, he, hlink⟩ := Option.map_eq_some_iff.1 hsight
  cases e with
  | file => cases hlink
  | link =>
    cases hlink
    rw [resolve, if_neg h.ne_here, if_neg h.ne_above, if_neg h.short, he]
    simp
  | directory => cases hlink

end Plain

/-! ## Whole paths -/

/-- A path is followed from where it starts, unless it is empty or no name can be in it. -/
theorem locate_eq_resolve (hnul : (Text.Utf8.encode path).contains 0 = false)
    (hnonempty : (Text.Utf8.encode path).isEmpty = false) (follow : Bool) :
    d.locate follow path =
      resolve d.root follow linkLimit (start d.workingDirectory (Text.Utf8.encode path))
        (steps (Text.Utf8.encode path)) := by
  rw [locate]
  simp only [hnul, hnonempty, Bool.false_eq_true, if_false]

theorem find_of_locate {e : Entry} (h : d.locate follow path = .ok location)
    (hat : d.root.at? location = some e) : d.find follow path = .ok e := by
  rw [find, h]
  simp only [bind, Except.bind, hat]

theorem find_of_locate_absent (h : d.locate follow path = .ok location)
    (hnone : d.root.at? location = none) : d.find follow path = .error .notFound := by
  rw [find, h]
  simp only [bind, Except.bind, hnone]

/-! ## The way to a directory -/

theorem leads_of_resolve (h : resolve root true links current rest = .ok location)
    (hlocation : (root.at? location).map Entry.sight = some .directory) :
    ∃ links', Leads root links current rest links' location := by
  induction links, current, rest using resolve.induct root true with
  | case1 links current =>
    rw [resolve] at h
    cases h
    exact ⟨links, .done⟩
  | case2 links current rest ih =>
    rw [resolve_here] at h
    obtain ⟨links', hrest⟩ := ih h
    exact ⟨links', .here hrest⟩
  | case3 links current rest _ ih =>
    rw [resolve_above] at h
    obtain ⟨links', hrest⟩ := ih h
    exact ⟨links', .above hrest⟩
  | case4 links current name rest hhere habove hlong =>
    rw [resolve, if_neg hhere, if_neg habove, if_pos hlong] at h
    cases h
  | case5 links current name rest hhere habove hshort hnone hempty =>
    -- the way ends where there is nothing yet, which is no directory
    rw [Plain.resolve_absent ⟨hhere, habove, hshort⟩ hnone, if_pos hempty] at h
    cases h
    rw [hnone] at hlocation
    cases hlocation
  | case6 links current name rest hhere habove hshort hnone hmore =>
    rw [Plain.resolve_absent ⟨hhere, habove, hshort⟩ hnone, if_neg hmore] at h
    cases h
  | case7 links current name rest hhere habove hshort content modified hfile hempty =>
    have hsight : (root.at? (current ++ [name])).map Entry.sight = some .file := by
      rw [hfile]
      rfl
    rw [Plain.resolve_file ⟨hhere, habove, hshort⟩ hsight, if_pos hempty] at h
    cases h
    rw [hsight] at hlocation
    cases hlocation
  | case8 links current name rest hhere habove hshort content modified hfile hmore =>
    have hsight : (root.at? (current ++ [name])).map Entry.sight = some .file := by
      rw [hfile]
      rfl
    rw [Plain.resolve_file ⟨hhere, habove, hshort⟩ hsight, if_neg hmore] at h
    cases h
  | case9 links current name rest hhere habove hshort readable modified entries hdirectory ih =>
    have hsight : (root.at? (current ++ [name])).map Entry.sight = some .directory := by
      rw [hdirectory]
      rfl
    rw [Plain.resolve_directory ⟨hhere, habove, hshort⟩ hsight] at h
    obtain ⟨links', hrest⟩ := ih h
    exact ⟨links', .directory ⟨hhere, habove, hshort⟩ hsight hrest⟩
  | case10 links current name rest hhere habove hshort target modified hlink hstop =>
    simp at hstop
  | case11 current name rest hhere habove hshort target modified hlink hgo =>
    rw [resolve, if_neg hhere, if_neg habove, if_neg hshort, hlink] at h
    simp only at h
    rw [if_neg hgo] at h
    cases h
  | case12 current name rest hhere habove hshort target modified hlink hgo links ih =>
    have hsight : (root.at? (current ++ [name])).map Entry.sight = some (.link target) := by
      rw [hlink]
      rfl
    rw [Plain.resolve_link ⟨hhere, habove, hshort⟩ hsight] at h
    obtain ⟨links', hrest⟩ := ih h
    exact ⟨links', .link ⟨hhere, habove, hshort⟩ hsight hrest⟩

/-- Where only one place has changed its sight, and is a file now, a way that goes on leads on as
before, or it runs into that file. -/
theorem Leads.resolve_append (h : Leads root links current rest links' location)
    (hsame : ∀ p, p ≠ place → (root'.at? p).map Entry.sight = (root.at? p).map Entry.sight)
    (hfile : (root'.at? place).map Entry.sight = some .file) (htail : tail ≠ []) :
    resolve root' true links current (rest ++ tail) = .error .notDirectory ∨
      resolve root' true links current (rest ++ tail) =
        resolve root' true links' location tail := by
  have hruns : ∀ {name current links rest}, Plain name → current ++ [name] = place →
      resolve root' true links current (name :: (rest ++ tail)) = .error .notDirectory := by
    intro name current links rest hname hplace
    rw [hname.resolve_file (hplace.symm ▸ hfile), if_neg]
    simp [htail]
  induction h with
  | done => exact .inr rfl
  | here _ ih =>
    rw [List.cons_append, resolve_here]
    exact ih
  | above _ ih =>
    rw [List.cons_append, resolve_above]
    exact ih
  | @directory links links' current rest location name hname hsight _ ih =>
    rw [List.cons_append]
    by_cases hplace : current ++ [name] = place
    · exact .inl (hruns hname hplace)
    · rw [hname.resolve_directory ((hsame _ hplace).trans hsight)]
      exact ih
  | @link links links' current rest location name target hname hsight _ ih =>
    rw [List.cons_append]
    by_cases hplace : current ++ [name] = place
    · exact .inl (hruns hname hplace)
    · rw [hname.resolve_link ((hsame _ hplace).trans hsight), ← List.append_assoc]
      exact ih

/-! ## Replacing a file -/

theorem opens_of_locateNew (h : d.locateNew path = .ok (parent, some name)) :
    d.Opens path parent name := by
  rw [locateNew] at h
  simp only at h
  split at h
  · cases h
  · next hnul =>
    split at h
    · cases h
    · next hempty =>
      split at h
      · cases h
      · next last hlast =>
        obtain ⟨names, hnames⟩ := List.getLast?_eq_some_iff.1 hlast
        rw [hnames, List.dropLast_concat] at h
        split at h
        · cases hresolve : resolve d.root true linkLimit
            (start d.workingDirectory (Text.Utf8.encode path)) (names ++ [last]) with
          | error fault =>
            rw [hresolve] at h
            cases h
          | ok location =>
            rw [hresolve] at h
            cases h
        · next hspecial =>
          cases hresolve : resolve d.root true linkLimit
            (start d.workingDirectory (Text.Utf8.encode path)) names with
          | error fault =>
            rw [hresolve] at h
            cases h
          | ok location =>
            rw [hresolve] at h
            simp only [bind, Except.bind] at h
            split at h
            · cases h
            · next hshort =>
              split at h
              · cases h
              · next readable modified entries hdirectory =>
                cases h
                refine ⟨by simpa using hnul, by simpa using hempty, ⟨?_, ?_, hshort⟩,
                  ⟨names, hnames, hresolve⟩, by rw [hdirectory]; rfl⟩
                · exact fun heq => hspecial (.inl heq)
                · exact fun heq => hspecial (.inr heq)
              · cases h

theorem locateNew_of_opens (h : d.Opens path parent name) :
    d.locateNew path = .ok (parent, some name) := by
  obtain ⟨names, hnames, hresolve⟩ := h.ends
  obtain ⟨e, he, hdirectory⟩ := Option.map_eq_some_iff.1 h.directory
  have hspecial : ¬ (name = here ∨ name = above) := by
    rintro (heq | heq)
    · exact h.plain.ne_here heq
    · exact h.plain.ne_above heq
  rw [locateNew]
  simp only [h.noNul, h.nonempty, Bool.false_eq_true, if_false, hnames, List.getLast?_concat,
    if_neg hspecial, List.dropLast_concat, hresolve, bind, Except.bind, if_neg h.plain.short, he]
  cases e with
  | file => cases hdirectory
  | link => cases hdirectory
  | directory => rfl

/-- A directory is made where nothing is yet. -/
theorem makeDirectory_of_opens (h : d.Opens path parent name)
    (hfree : d.root.at? (parent ++ [name]) = none) :
    d.makeDirectory path = .ok (d.put (parent ++ [name]) (.directory true d.clock [])) := by
  rw [makeDirectory, locateNew_of_opens h]
  simp only [bind, Except.bind, hfree, Option.isSome_none, Bool.false_eq_true, if_false]

/-- Where a directory can be made, none of those that lead to it have to be. -/
theorem makeDirectories_of_makeDirectory (hpath : path.isEmpty = false)
    (h : d.makeDirectory path = .ok d') : d.makeDirectories path = .ok d' := by
  rw [makeDirectories]
  cases path.length with
  | zero => simp [makeDirectoriesTo, hpath, h]
  | succ depth => simp [makeDirectoriesTo, hpath, h]

/-- A file is put where there is no directory. -/
theorem replaceFile_of_opens (h : d.Opens path parent name)
    (hold : ∀ old, d.root.at? (parent ++ [name]) = some old → old.sight ≠ .directory)
    (bytes : List UInt8) :
    d.replaceFile path bytes = .ok (d.put (parent ++ [name]) (.file (.bytes bytes) d.clock)) := by
  rw [replaceFile, locateNew_of_opens h]
  simp only [bind, Except.bind]
  split
  · next hdirectory => exact absurd rfl (hold _ hdirectory)
  · rfl

/-- A file is put into a directory, in the place of something that is no directory. -/
theorem exists_put_of_replaceFile {bytes : List UInt8} (h : d.replaceFile path bytes = .ok d') :
    ∃ parent name, d.Opens path parent name ∧
      (∀ old, d.root.at? (parent ++ [name]) = some old → old.sight ≠ .directory) ∧
      d' = d.put (parent ++ [name]) (.file (.bytes bytes) d.clock) := by
  rw [replaceFile] at h
  cases hnew : d.locateNew path with
  | error fault =>
    rw [hnew] at h
    cases h
  | ok found =>
    obtain ⟨parent, last⟩ := found
    rw [hnew] at h
    simp only [bind, Except.bind] at h
    cases last with
    | none => cases h
    | some name =>
      simp only at h
      split at h
      · cases h
      · next hno =>
        cases h
        refine ⟨parent, name, opens_of_locateNew hnew, ?_, rfl⟩
        intro old hold hdirectory
        cases old with
        | file => cases hdirectory
        | link => cases hdirectory
        | directory readable modified entries => exact hno readable modified entries hold

theorem read_of_locate_error {fault : IoFault} (h : d.locate true path = .error fault) :
    d.read path = .error fault := by
  rw [read, find, h]
  rfl

theorem read_of_locate_absent (h : d.locate true path = .ok location)
    (hnone : d.root.at? location = none) : d.read path = .error .notFound := by
  rw [read, find_of_locate_absent h hnone]
  rfl

theorem read_of_locate_file {content : Content} {modified : Instant}
    (h : d.locate true path = .ok location)
    (hfile : d.root.at? location = some (.file content modified)) :
    d.read path = .ok content.toList := by
  rw [read, find_of_locate h hfile]
  rfl

/-- A file that has been replaced is read back, unless its path led through it. -/
theorem read_replaceFile {bytes : List UInt8} (h : d.replaceFile path bytes = .ok d') :
    d'.read path = .ok bytes ∨ d'.read path = .error .notDirectory := by
  obtain ⟨parent, name, hopens, hold, hput⟩ := exists_put_of_replaceFile h
  obtain ⟨names, hnames, hresolve⟩ := hopens.ends
  obtain ⟨e, he, hdirectory⟩ := Option.map_eq_some_iff.1 hopens.directory
  set new : Entry := .file (.bytes bytes) d.clock with hnew
  have hself : d'.root.at? (parent ++ [name]) = some new := by
    rw [hput]
    exact Entry.at?_put_self he hdirectory d.clock name new
  have hsame : ∀ p, p ≠ parent ++ [name] →
      (d'.root.at? p).map Entry.sight = (d.root.at? p).map Entry.sight := by
    intro p hp
    rw [hput]
    exact Entry.sight_at?_put hold (fun _ => Entry.at?_eq_none (by rintro ⟨⟩)) d.clock hp
  have hfile : (d'.root.at? (parent ++ [name])).map Entry.sight = some .file := by
    rw [hself]
    rfl
  obtain ⟨tail, hsteps⟩ : ∃ tail, steps (Text.Utf8.encode path) = names ++ name :: tail :=
    ⟨_, by rw [steps, hnames, List.append_assoc, List.singleton_append]⟩
  have hlocate : d'.locate true path = resolve d'.root true linkLimit
      (start d.workingDirectory (Text.Utf8.encode path)) (names ++ name :: tail) := by
    have hworking : d'.workingDirectory = d.workingDirectory := by rw [hput, put]
    rw [locate, hworking, ← hsteps]
    simp only [hopens.noNul, hopens.nonempty, Bool.false_eq_true, if_false]
  obtain ⟨links', hleads⟩ := leads_of_resolve hresolve hopens.directory
  rcases hleads.resolve_append hsame hfile (List.cons_ne_nil name tail) with hlost | hfound
  · exact .inr (read_of_locate_error (hlocate.trans hlost))
  · rw [hfound, hopens.plain.resolve_file hfile] at hlocate
    split at hlocate
    · exact .inl (read_of_locate_file hlocate hself)
    · exact .inr (read_of_locate_error hlocate)

end FileTriage.Disk
