/-
Files in a directory.

A path leads to a directory (`Reaches`) through other ones and through links.  The path of a file in
it leads through the directory to the file, so it can be read, and put there, whatever the path of
the directory looks like.  A file that is put there is none of those that the way leads through: the
way goes on leading to the directory, and its other files stay.
-/
import FileTriage.Proofs.Disk.Replace
import FileTriage.Proofs.Text.Utf8

namespace FileTriage.Disk

variable {root root' : Entry} {follow : Bool} {links links' : Nat} {d d' : Disk}
  {path directory name : String} {current rest tail location place : List FileName}
  {last : FileName}

/-! ## The way to a directory -/

theorem isSome_of_sight {e : Option Entry} {s : Sight} (h : e.map Entry.sight = some s) :
    e.isSome = true := by
  obtain ⟨found, rfl, -⟩ := Option.map_eq_some_iff.1 h
  rfl

/-- A way that leads to a directory leads on from there. -/
theorem Leads.resolve_eq (h : Leads root links current rest links' location) (tail : List FileName) :
    resolve root true links current (rest ++ tail) = resolve root true links' location tail := by
  induction h with
  | done => rfl
  | here _ ih => rw [List.cons_append, resolve_here, ih]
  | above _ ih => rw [List.cons_append, resolve_above, ih]
  | directory hname hsight _ ih => rw [List.cons_append, hname.resolve_directory hsight, ih]
  | link hname hsight _ ih =>
    rw [List.cons_append, hname.resolve_link hsight, ← List.append_assoc, ih]

/-- A way does not lead through files, so it stays when nothing but files changes. -/
theorem Leads.of_sight (h : Leads root links current rest links' location)
    (hsight : ∀ p s, s ≠ .file → (root.at? p).map Entry.sight = some s →
      (root'.at? p).map Entry.sight = some s) :
    Leads root' links current rest links' location := by
  induction h with
  | done => exact .done
  | here _ ih => exact .here ih
  | above _ ih => exact .above ih
  | directory hname hdirectory _ ih =>
    exact .directory hname (hsight _ _ (by rintro ⟨⟩) hdirectory) ih
  | link hname hlink _ ih => exact .link hname (hsight _ _ (by rintro ⟨⟩) hlink) ih

/-- A way goes on in a directory that it leads to. -/
theorem Leads.snoc (h : Leads root links current rest links' location) (hlast : Plain last)
    (hdirectory : (root.at? (location ++ [last])).map Entry.sight = some .directory) :
    Leads root links current (rest ++ [last]) links' (location ++ [last]) := by
  induction h with
  | done => exact .directory hlast hdirectory .done
  | here _ ih => exact .here (ih hdirectory)
  | above _ ih => exact .above (ih hdirectory)
  | directory hname hsight _ ih => exact .directory hname hsight (ih hdirectory)
  | link hname hsight _ ih =>
    refine .link hname hsight ?_
    have hmore := ih hdirectory
    rwa [List.append_assoc] at hmore

/-- A way that ends in a name leads, before that, to the directory that has an entry of the name. -/
theorem Leads.exists_parent (h : Leads root links current rest links' location)
    {before : List FileName} (hrest : rest = before ++ [last]) (hhere : last ≠ Disk.here)
    (habove : last ≠ Disk.above) :
    ∃ links'' parent, Leads root links current before links'' parent ∧ Plain last ∧
      (root.at? (parent ++ [last])).isSome = true := by
  induction h generalizing before with
  | done => exact absurd hrest.symm (List.append_ne_nil_of_right_ne_nil _ (List.cons_ne_nil _ _))
  | here _ ih =>
    cases before with
    | nil => exact absurd (List.cons.inj hrest).1.symm hhere
    | cons name before =>
      obtain ⟨rfl, htail⟩ := List.cons.inj hrest
      obtain ⟨links'', parent, hparent, hfound⟩ := ih htail
      exact ⟨links'', parent, .here hparent, hfound⟩
  | above _ ih =>
    cases before with
    | nil => exact absurd (List.cons.inj hrest).1.symm habove
    | cons name before =>
      obtain ⟨rfl, htail⟩ := List.cons.inj hrest
      obtain ⟨links'', parent, hparent, hfound⟩ := ih htail
      exact ⟨links'', parent, .above hparent, hfound⟩
  | directory hname hsight _ ih =>
    cases before with
    | nil =>
      obtain ⟨rfl, -⟩ := List.cons.inj hrest
      exact ⟨_, _, .done, hname, isSome_of_sight hsight⟩
    | cons name before =>
      obtain ⟨rfl, htail⟩ := List.cons.inj hrest
      obtain ⟨links'', parent, hparent, hfound⟩ := ih htail
      exact ⟨links'', parent, .directory hname hsight hparent, hfound⟩
  | @link _ _ _ rest _ _ target hname hsight _ ih =>
    cases before with
    | nil =>
      obtain ⟨rfl, -⟩ := List.cons.inj hrest
      exact ⟨_, _, .done, hname, isSome_of_sight hsight⟩
    | cons name before =>
      obtain ⟨rfl, htail⟩ := List.cons.inj hrest
      -- the names of the target come before the others, so the last one is still the last
      have hmore : steps target ++ rest = (steps target ++ before) ++ [last] := by
        rw [List.append_assoc]
        exact congrArg _ htail
      obtain ⟨links'', parent, hparent, hfound⟩ := ih hmore
      exact ⟨links'', parent, .link hname hsight hparent, hfound⟩

/-- A path leads to the directory at the end of names. -/
structure Reaches (d : Disk) (path : String) (place : List FileName) : Prop where
  noNul : (Text.Utf8.encode path).contains 0 = false
  leads : ∃ links, Leads d.root linkLimit (start d.workingDirectory (Text.Utf8.encode path))
    (components (Text.Utf8.encode path)) links place
  directory : (d.root.at? place).map Entry.sight = some .directory

/-- Only the empty text has no bytes. -/
theorem encode_isEmpty (h : path.isEmpty = false) : (Text.Utf8.encode path).isEmpty = false := by
  cases hbytes : Text.Utf8.encode path with
  | nil =>
    have hdecode := Text.Utf8.decode_encode path
    rw [hbytes] at hdecode
    cases hdecode
    cases h
  | cons b rest => rfl

theorem Reaches.isDirectory_eq (h : d.Reaches path place)
    (hnonempty : (Text.Utf8.encode path).isEmpty = false) : d.isDirectory path = true := by
  obtain ⟨links, hleads⟩ := h.leads
  obtain ⟨e, he, hdirectory⟩ := Option.map_eq_some_iff.1 h.directory
  have hlocate : d.locate true path = .ok place := by
    rw [locate_eq_resolve h.noNul hnonempty, steps, hleads.resolve_eq]
    split
    · rw [resolve_here, resolve]
    · rw [resolve]
  rw [isDirectory, find_of_locate hlocate he]
  cases e with
  | file => cases hdirectory
  | link => cases hdirectory
  | directory => rfl

/-- A directory that is there cannot be made once more. -/
theorem Reaches.makeDirectory_eq (h : d.Reaches path place)
    (hnonempty : (Text.Utf8.encode path).isEmpty = false) :
    d.makeDirectory path = .error .alreadyExists := by
  obtain ⟨links, hleads⟩ := h.leads
  cases hlast : (components (Text.Utf8.encode path)).getLast? with
  | none =>
    -- the path is one of the root
    rw [makeDirectory, locateNew]
    simp only [h.noNul, hnonempty, hlast, Bool.false_eq_true, if_false, bind, Except.bind]
  | some last =>
    obtain ⟨before, hbefore⟩ := List.getLast?_eq_some_iff.1 hlast
    by_cases hspecial : last = here ∨ last = above
    · have hresolve := hleads.resolve_eq []
      rw [List.append_nil, resolve] at hresolve
      rw [makeDirectory, locateNew]
      simp only [h.noNul, hnonempty, hlast, hspecial, hresolve, Bool.false_eq_true, if_false,
        if_true, bind, Except.bind]
    · rw [not_or] at hspecial
      obtain ⟨links', parent, hparent, hplain, hfound⟩ :=
        hleads.exists_parent hbefore hspecial.1 hspecial.2
      have hresolve := hparent.resolve_eq []
      rw [List.append_nil, resolve] at hresolve
      have hopens : d.Opens path parent last := {
        noNul := h.noNul
        nonempty := hnonempty
        plain := hplain
        ends := ⟨before, hbefore, hresolve⟩
        directory := Entry.sight_of_at?_append hfound }
      rw [makeDirectory, locateNew_of_opens hopens]
      simp only [bind, Except.bind, hfound, if_true]

/-- A directory that is there need not be made. -/
theorem Reaches.makeDirectories_eq (h : d.Reaches path place) : d.makeDirectories path = .ok d := by
  rw [makeDirectories]
  cases hpath : path.isEmpty with
  | true => cases path.length <;> simp [makeDirectoriesTo, hpath]
  | false =>
    have hmade := h.makeDirectory_eq (encode_isEmpty hpath)
    have hthere := h.isDirectory_eq (encode_isEmpty hpath)
    cases path.length with
    | zero => simp [makeDirectoriesTo, hpath, hmade, hthere]
    | succ depth => simp [makeDirectoriesTo, hpath, hmade, hthere]

/-! ## Files in a directory -/

/-- At the end of names is a file of these bytes, or nothing. -/
def Holds (d : Disk) (location : List FileName) : Option (List UInt8) → Prop
  | none => d.root.at? location = none
  | some bytes => ∃ content modified,
      d.root.at? location = some (.file content modified) ∧ content.toList = bytes

theorem Holds.sight_eq {bytes : Option (List UInt8)} (h : d.Holds location bytes) {e : Entry}
    (he : d.root.at? location = some e) : e.sight = .file := by
  cases bytes with
  | none => cases h.symm.trans he
  | some bytes =>
    obtain ⟨content, modified, hfile, -⟩ := h
    cases hfile.symm.trans he
    rfl

/-- A name that stands for one entry of a directory. -/
structure EntryName (name : String) : Prop where
  plain : Plain (Text.Utf8.encode name)
  ne_nil : Text.Utf8.encode name ≠ []
  noNul : (Text.Utf8.encode name).contains 0 = false
  whole : separator ∉ Text.Utf8.encode name
  relative : name.startsWith "/" = false

theorem components_append (before rest : List UInt8) :
    components (before ++ separator :: rest) = components before ++ components rest := by
  rw [components, List.splitOnP_append_cons _ _ (by decide), List.filter_append]
  rfl

theorem EntryName.components_eq (h : EntryName name) :
    components (Text.Utf8.encode name) = [Text.Utf8.encode name] := by
  have hnone : ∀ b ∈ Text.Utf8.encode name, decide (b = separator) = false := by
    intro b hb
    refine decide_eq_false ?_
    rintro rfl
    exact h.whole hb
  rw [components, List.splitOnP_eq_singleton hnone]
  simp [h.ne_nil]

/-- The bytes of the path of a directory, with a separator behind them if there are any. -/
inductive Opened (bytes : List UInt8) : List UInt8 → Prop
  | empty : bytes = [] → Opened bytes []
  | closed {before : List UInt8} : bytes = before ++ [separator] →
      Opened bytes (before ++ [separator])
  | more : bytes ≠ [] → Opened bytes (bytes ++ [separator])

/-- The path of an entry of a directory is that of the directory, and then the name. -/
theorem EntryName.encode_join (h : EntryName name) (directory : String) :
    ∃ before, Opened (Text.Utf8.encode directory) before ∧
      Text.Utf8.encode (join directory name) = before ++ Text.Utf8.encode name := by
  have hseparator : Text.Utf8.encode "/" = [separator] := by decide
  rw [join, h.relative, if_neg Bool.false_ne_true]
  split
  · next hclosed =>
    rw [Text.Utf8.encode_append]
    refine ⟨Text.Utf8.encode directory, ?_, rfl⟩
    rcases Bool.or_eq_true_iff.1 hclosed with hempty | hends
    · have hnil : Text.Utf8.encode directory = [] := by
        rw [String.isEmpty_iff.1 hempty]
        rfl
      rw [hnil]
      exact .empty rfl
    · have hsuffix : "/".toList <:+ directory.toSlice.copy.toList :=
        String.Slice.endsWith_string_iff.1 hends
      rw [String.copy_toSlice] at hsuffix
      obtain ⟨before, hbefore⟩ := hsuffix
      have hbytes : Text.Utf8.encode directory =
          before.flatMap String.utf8EncodeChar ++ [separator] := by
        rw [Text.Utf8.encode, ← hbefore, List.flatMap_append]
        rfl
      rw [hbytes]
      exact .closed rfl
  · next hopen =>
    rw [Text.Utf8.encode_append, Text.Utf8.encode_append, hseparator]
    refine ⟨_, .more ?_, rfl⟩
    have hnonempty : directory.isEmpty = false := by
      rw [Bool.or_eq_true, not_or] at hopen
      exact Bool.eq_false_iff.2 hopen.1
    have hbytes := encode_isEmpty hnonempty
    intro hnil
    rw [hnil] at hbytes
    cases hbytes

theorem EntryName.components_join (h : EntryName name) (directory : String) :
    components (Text.Utf8.encode (join directory name)) =
      components (Text.Utf8.encode directory) ++ [Text.Utf8.encode name] := by
  obtain ⟨before, hopened, hjoin⟩ := h.encode_join directory
  rw [hjoin]
  cases hopened with
  | empty hnil =>
    rw [hnil, List.nil_append, h.components_eq]
    rfl
  | @closed before hclosed =>
    have hbefore : components (before ++ [separator]) = components before := by
      rw [components_append]
      exact List.append_nil _
    rw [hclosed, List.append_assoc, List.singleton_append, components_append, h.components_eq,
      hbefore]
  | more hne =>
    rw [List.append_assoc, List.singleton_append, components_append, h.components_eq]

theorem EntryName.start_join (h : EntryName name) (directory : String) (current : List FileName) :
    start current (Text.Utf8.encode (join directory name)) =
      start current (Text.Utf8.encode directory) := by
  obtain ⟨before, hopened, hjoin⟩ := h.encode_join directory
  rw [hjoin]
  cases hopened with
  | empty hnil =>
    have hhead : (Text.Utf8.encode name).head? ≠ some separator := by
      intro hhead
      exact h.whole (List.mem_of_head? hhead)
    rw [hnil, List.nil_append, start, if_neg hhead]
    rfl
  | @closed before hclosed =>
    rw [hclosed, start, start, List.head?_append_of_ne_nil _ (by simp)]
  | more hne =>
    rw [start, start, List.append_assoc, List.head?_append_of_ne_nil _ hne]

theorem EntryName.noNul_join (h : EntryName name)
    (hdirectory : (Text.Utf8.encode directory).contains 0 = false) :
    (Text.Utf8.encode (join directory name)).contains 0 = false := by
  obtain ⟨before, hopened, hjoin⟩ := h.encode_join directory
  have hbefore : before.contains 0 = false := by
    cases hopened with
    | empty hnil => rfl
    | closed hclosed => rwa [← hclosed]
    | more hne =>
      rw [List.contains_append, hdirectory]
      rfl
  rw [hjoin, List.contains_append, hbefore, h.noNul]
  rfl

theorem EntryName.steps_join (h : EntryName name) (directory : String) :
    steps (Text.Utf8.encode (join directory name)) =
      components (Text.Utf8.encode directory) ++ [Text.Utf8.encode name] := by
  obtain ⟨before, hopened, hjoin⟩ := h.encode_join directory
  have hlast : (Text.Utf8.encode (join directory name)).getLast? ≠ some separator := by
    rw [hjoin, List.getLast?_append_of_ne_nil _ h.ne_nil]
    intro hlast
    exact h.whole (List.mem_of_getLast? hlast)
  rw [steps, h.components_join, if_neg hlast, List.append_nil]

theorem EntryName.isEmpty_join (h : EntryName name) (directory : String) :
    (Text.Utf8.encode (join directory name)).isEmpty = false := by
  obtain ⟨before, -, hjoin⟩ := h.encode_join directory
  rw [hjoin, List.isEmpty_eq_false_iff]
  exact List.append_ne_nil_of_right_ne_nil _ h.ne_nil

section Reaches

variable (h : d.Reaches directory place) (hname : EntryName name)
include h hname

/-- A file can be put into the directory. -/
theorem Reaches.opens : d.Opens (join directory name) place (Text.Utf8.encode name) where
  noNul := hname.noNul_join h.noNul
  nonempty := hname.isEmpty_join directory
  plain := hname.plain
  ends := by
    obtain ⟨links, hleads⟩ := h.leads
    have hresolve := hleads.resolve_eq []
    rw [List.append_nil, resolve] at hresolve
    refine ⟨_, hname.components_join directory, ?_⟩
    rw [hname.start_join, hresolve]
  directory := h.directory

/-- The path of an entry that is no link and no directory leads there. -/
theorem Reaches.locate_eq (hsight : ∀ e, d.root.at? (place ++ [Text.Utf8.encode name]) = some e →
    e.sight = .file) :
    d.locate true (join directory name) = .ok (place ++ [Text.Utf8.encode name]) := by
  obtain ⟨links, hleads⟩ := h.leads
  have hopens := h.opens hname
  rw [locate_eq_resolve hopens.noNul hopens.nonempty, hname.steps_join, hname.start_join,
    hleads.resolve_eq]
  cases hentry : d.root.at? (place ++ [Text.Utf8.encode name]) with
  | none =>
    rw [hname.plain.resolve_absent hentry]
    rfl
  | some e =>
    rw [hname.plain.resolve_file]
    · rfl
    · rw [hentry, Option.map_some, hsight e hentry]

/-- A file in the directory is read, and one that is not there is not found. -/
theorem Reaches.read_eq {bytes : Option (List UInt8)}
    (hbytes : d.Holds (place ++ [Text.Utf8.encode name]) bytes) :
    d.read (join directory name) = bytes.elim (.error .notFound) .ok := by
  have hlocate := h.locate_eq hname fun e he => hbytes.sight_eq he
  cases bytes with
  | none => exact read_of_locate_absent hlocate hbytes
  | some bytes =>
    obtain ⟨content, modified, hfile, rfl⟩ := hbytes
    exact read_of_locate_file hlocate hfile

end Reaches

section Put

variable (h : d.Reaches directory place) {bytes : Option (List UInt8)}
  (hold : d.Holds (place ++ [last]) bytes) (new : List UInt8) (modified : Instant)
include h hold

/-- A file that is put into the directory leaves the way to it as it is. -/
theorem Reaches.put :
    (d.put (place ++ [last]) (.file (.bytes new) modified)).Reaches directory place := by
  have hsight : ∀ p s, s ≠ .file → (d.root.at? p).map Entry.sight = some s →
      ((d.put (place ++ [last]) (.file (.bytes new) modified)).root.at? p).map Entry.sight =
        some s := by
    intro p s hs hp
    -- at the place of the file is a file already, or nothing, so it is not on the way
    have hne : p ≠ place ++ [last] := by
      rintro rfl
      obtain ⟨e, he, rfl⟩ := Option.map_eq_some_iff.1 hp
      exact hs (hold.sight_eq he)
    refine (Entry.sight_at?_put ?_ (fun _ => Entry.at?_eq_none (by rintro ⟨⟩)) d.clock hne).trans hp
    intro e he
    rw [hold.sight_eq he]
    rintro ⟨⟩
  obtain ⟨links, hleads⟩ := h.leads
  exact ⟨h.noNul, ⟨links, hleads.of_sight hsight⟩, hsight _ _ (by rintro ⟨⟩) h.directory⟩

omit hold in
theorem Reaches.holds_put_self :
    (d.put (place ++ [last]) (.file (.bytes new) modified)).Holds (place ++ [last]) (some new) := by
  obtain ⟨parent, hparent, hdirectory⟩ := Option.map_eq_some_iff.1 h.directory
  exact ⟨.bytes new, modified, Entry.at?_put_self hparent hdirectory d.clock last _, rfl⟩

omit hold in
/-- The other files of the directory stay. -/
theorem Reaches.holds_put_of_ne {other : FileName} {there : Option (List UInt8)}
    (hother : d.Holds (place ++ [other]) there) (hne : last ≠ other) :
    (d.put (place ++ [last]) (.file (.bytes new) modified)).Holds (place ++ [other]) there := by
  obtain ⟨parent, hparent, hdirectory⟩ := Option.map_eq_some_iff.1 h.directory
  have hsame : (d.put (place ++ [last]) (.file (.bytes new) modified)).root.at?
      (place ++ [other]) = d.root.at? (place ++ [other]) :=
    Entry.at?_put_of_ne hparent hdirectory d.clock _ hne
  cases there with
  | none => exact hsame.trans hother
  | some bytes =>
    obtain ⟨content, time, hfile, hbytes⟩ := hother
    exact ⟨content, time, hsame.trans hfile, hbytes⟩

end Put

/-! ## A directory that is not there yet -/

section Opens

variable {parent : List FileName} (h : d.Opens directory parent last)
include h

/-- A directory that has been made is where its path leads to. -/
theorem Opens.reaches_put (modified : Instant) (hfree : d.root.at? (parent ++ [last]) = none) :
    (d.put (parent ++ [last]) (.directory true modified [])).Reaches directory
      (parent ++ [last]) := by
  obtain ⟨names, hnames, hresolve⟩ := h.ends
  obtain ⟨e, he, hdirectory⟩ := Option.map_eq_some_iff.1 h.directory
  set made := d.put (parent ++ [last]) (.directory true modified []) with hmade
  -- nothing was at the place of the directory, so whatever was there before is there still
  have hsight : ∀ p s, (d.root.at? p).map Entry.sight = some s →
      (made.root.at? p).map Entry.sight = some s := by
    intro p s hp
    refine (Entry.sight_at?_put ?_ ?_ d.clock ?_).trans hp
    · intro old hold
      cases hfree.symm.trans hold
    · intro below hbelow
      cases below with
      | nil => exact absurd rfl hbelow
      | cons name below => rfl
    · rintro rfl
      rw [hfree] at hp
      cases hp
  have hself : (made.root.at? (parent ++ [last])).map Entry.sight = some .directory := by
    rw [hmade, put, Entry.at?_put_self he hdirectory]
    rfl
  obtain ⟨links, hleads⟩ := leads_of_resolve hresolve h.directory
  refine ⟨h.noNul, ⟨links, ?_⟩, hself⟩
  rw [hnames]
  exact (hleads.of_sight fun p s _ => hsight p s).snoc h.plain hself

/-- There are no files in a directory that has just been made. -/
theorem Opens.holds_put (modified : Instant) (name : FileName) :
    (d.put (parent ++ [last]) (.directory true modified [])).Holds
      ((parent ++ [last]) ++ [name]) none := by
  obtain ⟨e, he, hdirectory⟩ := Option.map_eq_some_iff.1 h.directory
  rw [Holds, put, Entry.at?_append, Entry.at?_put_self he hdirectory]
  rfl

/-- There is no file in a directory that is not there. -/
theorem Opens.read_eq (hfree : d.root.at? (parent ++ [last]) = none) (hname : EntryName name) :
    d.read (join directory name) = .error .notFound := by
  obtain ⟨names, hnames, hresolve⟩ := h.ends
  obtain ⟨links, hleads⟩ := leads_of_resolve hresolve h.directory
  refine read_of_locate_error ?_
  rw [locate_eq_resolve (hname.noNul_join h.noNul) (hname.isEmpty_join directory),
    hname.steps_join, hname.start_join, hnames, List.append_assoc, hleads.resolve_eq,
    List.singleton_append, h.plain.resolve_absent hfree]
  rfl

end Opens

end FileTriage.Disk
