/-
Which of several shipped sets counts.

The program and each TOML file of its directory are sources of sets.  What is shipped is a merge of
what they supply, in the order of their precedence (`exists_standardSets_eq`), so under a name
stands the one set that prevails among them.  That does not depend on how the directory happens to
be listed, nor on files that define nothing (`ofListing_congr`).
-/
import FileTriage.Proofs.Definitions.Merging
import FileTriage.Proofs.Disk.Listing

namespace FileTriage

namespace Definitions

/-! ## A directory of sets -/

/-- The sets that a file of a directory adds to the shipped ones: none if it cannot be read. -/
def setsOfFile (d : Disk) (location : List FileName) (name : FileName) : Definitions :=
  match d.findFrom location [name] >>= Disk.bytesOf with
  | .ok bytes =>
    match ofBytes bytes with
    | .ok sets => sets.asStandard
    | .error _ => .empty
  | .error _ => .empty

/-- A file can be read, and this is what it defines. -/
def FileDefines (d : Disk) (location : List FileName) (name : FileName) (sets : Definitions) :
    Prop :=
  ∃ bytes, d.findFrom location [name] >>= Disk.bytesOf = .ok bytes ∧ ofBytes bytes = .ok sets

variable {sets : Definitions} {n : String} {d : Disk} {path : String}
  {location names listing : List FileName} {name : FileName} {s : FilesSet}

theorem FileDefines.setsOfFile_eq (h : FileDefines d location name sets) :
    setsOfFile d location name = sets.asStandard := by
  obtain ⟨bytes, hread, hsets⟩ := h
  rw [setsOfFile, hread]
  simp only
  rw [hsets]

theorem FileDefines.unique {sets' : Definitions} (h : FileDefines d location name sets)
    (h' : FileDefines d location name sets') : sets = sets' := by
  obtain ⟨bytes, hread, hsets⟩ := h
  obtain ⟨bytes', hread', hsets'⟩ := h'
  obtain rfl := Except.ok.inj (hread.symm.trans hread')
  exact Except.ok.inj (hsets.symm.trans hsets')

theorem get?_asStandard (sets : Definitions) (n : String) :
    sets.asStandard.get? n = (sets.get? n).map FilesSet.asStandard :=
  NameMap.get?_map sets _ n

theorem get?_setsOfFile_iff :
    (setsOfFile d location name).get? n = some s ↔
      ∃ sets t, FileDefines d location name sets ∧ sets.get? n = some t ∧ s = t.asStandard := by
  constructor
  · intro h
    rw [setsOfFile] at h
    split at h
    · next bytes hread =>
      split at h
      · next sets hsets =>
        rw [get?_asStandard, Option.map_eq_some_iff] at h
        obtain ⟨t, ht, rfl⟩ := h
        exact ⟨sets, t, ⟨bytes, hread, hsets⟩, ht, rfl⟩
      · cases h
    · cases h
  · rintro ⟨sets, t, hdefines, ht, rfl⟩
    rw [hdefines.setsOfFile_eq, get?_asStandard, ht]
    rfl

/-! ## Listings -/

/-- The names of TOML files in a listing, in the order of precedence. -/
def tomlNames (listing : List FileName) : List FileName :=
  (listing.filter isTomlName).mergeSort Disk.nameLe

theorem pairwise_tomlNames (listing : List FileName) :
    (tomlNames listing).Pairwise fun a b => Disk.nameLe a b = true :=
  List.pairwise_mergeSort Disk.nameLe_trans Disk.nameLe_total _

theorem mem_tomlNames : name ∈ tomlNames listing ↔ name ∈ listing ∧ isTomlName name = true := by
  rw [tomlNames, List.mem_mergeSort, List.mem_filter]

/-- The sets of a directory whose files are met in the order of a listing. -/
def ofListing (d : Disk) (location listing : List FileName) : Definitions :=
  mergeAll ((tomlNames listing).map (setsOfFile d location))

theorem get?_ofListing_iff :
    (ofListing d location listing).get? n = some s ↔
      Prevails (fun a b => Disk.nameLe a b = true)
        (LayerHas (setsOfFile d location) (tomlNames listing) n) s :=
  get?_mergeAll_iff Disk.nameLe_refl (fun _ _ => Disk.nameLe_antisymm) (pairwise_tomlNames listing)

/-- What the files of a listing add depends neither on its order nor on those of its files that
define nothing. -/
theorem ofListing_congr (h : ∀ name sets, isTomlName name = true →
      FileDefines d location name sets → (name ∈ listing ↔ name ∈ names)) :
    ofListing d location listing = ofListing d location names := by
  refine NameMap.ext_get? fun n => Option.ext fun s => ?_
  have hlayers : LayerHas (setsOfFile d location) (tomlNames listing) n =
      LayerHas (setsOfFile d location) (tomlNames names) n := by
    funext name s
    -- a file that has a set defines something, so it is in both listings or in neither
    refine propext (and_congr_left fun hget => ?_)
    obtain ⟨sets, t, hdefines, -, -⟩ := get?_setsOfFile_iff.1 hget
    rw [mem_tomlNames, mem_tomlNames]
    exact and_congr_left fun htoml => h name sets htoml hdefines
  rw [get?_ofListing_iff, get?_ofListing_iff, hlayers]

/-- The TOML files among the entries in order have the TOML names in order. -/
theorem map_inOrder (entries : List (FileName × Entry)) :
    (((Disk.inOrder entries).filter fun e => isTomlName e.1).map (·.1)) =
      tomlNames (entries.map (·.1)) := by
  have hperm : (((Disk.inOrder entries).filter fun e => isTomlName e.1).map (·.1)).Perm
      (tomlNames (entries.map (·.1))) := by
    have hnames := ((Disk.inOrder_perm entries).filter fun e => isTomlName e.1).map (·.1)
    rw [tomlNames, List.filter_map]
    exact hnames.trans (List.mergeSort_perm _ _).symm
  -- two lists of one order with the same members are equal
  refine hperm.eq_of_pairwise (fun a b _ _ => Disk.nameLe_antisymm) ?_ (pairwise_tomlNames _)
  exact ((Disk.inOrder_pairwise entries).filter _).map _ fun _ _ hle => hle

/-- What a directory adds is what its files add in the order of their names. -/
theorem ofDirectory_eq (h : d.Lists path location names) :
    ofDirectory d path = ofListing d location names := by
  obtain ⟨hlocated, modified, there, hat, rfl⟩ := h
  have hlist := Disk.list_eq_ok_iff.2 ⟨location, modified, there, hlocated, hat, rfl⟩
  rw [ofDirectory, hlocated, hlist, ofListing, ← map_inOrder, mergeAll, List.map_map,
    List.foldl_map]
  refine List.foldl_ext _ _ _ fun m e _ => ?_
  -- passing over a file is merging nothing
  rw [Function.comp_apply, setsOfFile]
  cases d.findFrom location [e.1] >>= Disk.bytesOf with
  | error fault => rfl
  | ok bytes =>
    simp only
    cases ofBytes bytes with
    | error cause => rfl
    | ok sets => rfl

/-- A directory that cannot be listed adds nothing. -/
theorem ofDirectory_eq_empty (h : ∀ location names, ¬ d.Lists path location names) :
    ofDirectory d path = .empty := by
  rw [ofDirectory]
  split
  · next hlist =>
    obtain ⟨location, modified, there, hlocated, hat, -⟩ := Disk.list_eq_ok_iff.1 hlist
    exact absurd ⟨hlocated, modified, there, hat, rfl⟩ (h location _)
  · rfl

end Definitions

/-! ## Where shipped sets come from -/

/-- The program itself, or a file of the directory with more sets. -/
inductive ShippedSource where
  | program
  | file (name : FileName)

namespace ShippedSource

/-- The program comes before all files, and files come in the order of their names. -/
def Precedes : ShippedSource → ShippedSource → Prop
  | program, _ => True
  | file _, program => False
  | file a, file b => Disk.nameLe a b = true

theorem precedes_refl (a : ShippedSource) : a.Precedes a := by
  cases a with
  | program => trivial
  | file name => exact Disk.nameLe_refl name

theorem precedes_antisymm (a b : ShippedSource) (hab : a.Precedes b) (hba : b.Precedes a) :
    a = b := by
  cases a with
  | program =>
    cases b with
    | program => rfl
    | file name => cases hba
  | file name =>
    cases b with
    | program => cases hab
    | file other => exact congrArg file (Disk.nameLe_antisymm hab hba)

end ShippedSource

namespace Manager

open Definitions

variable {m : Manager} {d : Disk} {n : String} {s : FilesSet} {path : String}
  {location names : List FileName}

/-- What a source has under a name: the program one of its own sets, and a TOML file of the
directory, if it can be read, a set of the file, flagged as shipped and otherwise as it is. -/
inductive Supplies (m : Manager) (d : Disk) (n : String) : ShippedSource → FilesSet → Prop
  | program {s : FilesSet} (hget : shippedSets.get? n = some s) : Supplies m d n .program s
  | file {path : String} {location names : List FileName} {name : FileName} {sets : Definitions}
    {s : FilesSet} (hdirectory : m.standardDirectory = some path)
    (hlists : d.Lists path location names) (hname : name ∈ names) (htoml : isTomlName name = true)
    (hdefines : FileDefines d location name sets) (hget : sets.get? n = some s) :
    Supplies m d n (.file name) s.asStandard

/-- The sets of a source. -/
def layer (d : Disk) (location : List FileName) : ShippedSource → Definitions
  | .program => shippedSets
  | .file name => setsOfFile d location name

/-- The program, and then the TOML files of a listing. -/
def sources (listing : List FileName) : List ShippedSource :=
  .program :: (tomlNames listing).map .file

theorem pairwise_sources (listing : List FileName) :
    (sources listing).Pairwise ShippedSource.Precedes :=
  List.pairwise_cons.2 ⟨fun _ _ => trivial, (pairwise_tomlNames listing).map _ fun _ _ hle => hle⟩

theorem mergeAll_sources (d : Disk) (location listing : List FileName) :
    mergeAll ((sources listing).map (layer d location)) =
      shippedSets.mergeHighest (ofListing d location listing) := by
  rw [sources, List.map_cons, List.map_map, mergeAll_cons]
  rfl

theorem layerHas_program_iff {listing : List FileName} :
    LayerHas (layer d location) (sources listing) n .program s ↔ shippedSets.get? n = some s :=
  ⟨fun h => h.2, fun h => ⟨List.mem_cons_self, h⟩⟩

theorem layerHas_file_iff {listing : List FileName} {name : FileName} :
    LayerHas (layer d location) (sources listing) n (.file name) s ↔
      (name ∈ listing ∧ isTomlName name = true) ∧
        ∃ sets t, FileDefines d location name sets ∧ sets.get? n = some t ∧ s = t.asStandard := by
  have hmem : ShippedSource.file name ∈ sources listing ↔ name ∈ tomlNames listing := by
    simp [sources]
  rw [LayerHas, hmem, mem_tomlNames]
  exact and_congr_right fun _ => get?_setsOfFile_iff

/-- Where the directory can be listed, the sources have what they supply. -/
theorem layerHas_iff_of_lists {source : ShippedSource}
    (hdirectory : m.standardDirectory = some path) (hlists : d.Lists path location names) :
    LayerHas (layer d location) (sources names) n source s ↔ m.Supplies d n source s := by
  constructor
  · intro h
    cases source with
    | program => exact .program (layerHas_program_iff.1 h)
    | file name =>
      obtain ⟨⟨hname, htoml⟩, sets, t, hdefines, hget, rfl⟩ := layerHas_file_iff.1 h
      exact .file hdirectory hlists hname htoml hdefines hget
  · intro h
    cases h with
    | program hget => exact layerHas_program_iff.2 hget
    | file hdirectory' hlists' hname htoml hdefines hget =>
      -- there is one directory, and one listing of it up to its order
      obtain rfl := Option.some.inj (hdirectory.symm.trans hdirectory')
      obtain ⟨rfl, rfl⟩ := hlists.unique hlists'
      exact layerHas_file_iff.2 ⟨⟨hname, htoml⟩, _, _, hdefines, hget, rfl⟩

/-- Where no directory can be listed, the program is the only source. -/
theorem layerHas_nil_iff {source : ShippedSource}
    (h : ∀ path location names, m.standardDirectory = some path →
      ¬ d.Lists path location names) :
    LayerHas (layer d []) (sources []) n source s ↔ m.Supplies d n source s := by
  constructor
  · intro hlayer
    cases source with
    | program => exact .program (layerHas_program_iff.1 hlayer)
    | file name => exact absurd (layerHas_file_iff.1 hlayer).1.1 List.not_mem_nil
  · intro hsupplies
    cases hsupplies with
    | program hget => exact layerHas_program_iff.2 hget
    | file hdirectory hlists => exact absurd hlists (h _ _ _ hdirectory)

/-- The shipped sets are a merge of what the sources supply, in the order of their precedence. -/
theorem exists_standardSets_eq (m : Manager) (d : Disk) :
    ∃ location listing, m.standardSets d = mergeAll ((sources listing).map (layer d location)) ∧
      ∀ n source s, LayerHas (layer d location) (sources listing) n source s ↔
        m.Supplies d n source s := by
  by_cases h : ∃ path location names,
      m.standardDirectory = some path ∧ d.Lists path location names
  · obtain ⟨path, location, names, hdirectory, hlists⟩ := h
    refine ⟨location, names, ?_, fun n source s => layerHas_iff_of_lists hdirectory hlists⟩
    rw [standardSets, hdirectory, mergeAll_sources, ← ofDirectory_eq hlists]
  · have hnone : ∀ path location names, m.standardDirectory = some path →
        ¬ d.Lists path location names := fun path location names hdirectory hlists =>
      h ⟨path, location, names, hdirectory, hlists⟩
    have hempty : mergeAll ((sources []).map (layer d [])) = shippedSets := by
      rw [mergeAll_sources, ofListing, tomlNames, List.filter_nil, List.mergeSort_nil]
      exact mergeHighest_empty _
    refine ⟨[], [], ?_, fun n source s => layerHas_nil_iff hnone⟩
    rw [standardSets, hempty]
    split
    · next path hdirectory =>
      have hnothing := ofDirectory_eq_empty fun location names =>
        hnone path location names hdirectory
      rw [hnothing, mergeHighest_empty]
    · rfl

/-- What is shipped under a name is the set that prevails among those that the sources supply. -/
theorem get?_standardSets_iff (m : Manager) (d : Disk) (n : String) (s : FilesSet) :
    (m.standardSets d).get? n = some s ↔
      Prevails ShippedSource.Precedes (m.Supplies d n) s := by
  obtain ⟨location, listing, heq, hsupplies⟩ := m.exists_standardSets_eq d
  have hlayers : LayerHas (layer d location) (sources listing) n = m.Supplies d n := by
    funext source s
    exact propext (hsupplies n source s)
  rw [heq, get?_mergeAll_iff ShippedSource.precedes_refl ShippedSource.precedes_antisymm
    (pairwise_sources listing), hlayers]

/-- Something is shipped under a name exactly if some source supplies a set of that name. -/
theorem contains_standardSets_iff (m : Manager) (d : Disk) (n : String) :
    (m.standardSets d).contains n = true ↔ ∃ source s, m.Supplies d n source s := by
  rw [NameMap.contains_eq_true_iff]
  constructor
  · rintro ⟨s, hget⟩
    obtain ⟨source, hsupplies, -⟩ := (m.get?_standardSets_iff d n s).1 hget
    exact ⟨source, s, hsupplies⟩
  · rintro ⟨source, s, hs⟩
    obtain ⟨location, listing, heq, hsupplies⟩ := m.exists_standardSets_eq d
    cases hget : (m.standardSets d).get? n with
    | some t => exact ⟨t, rfl⟩
    | none =>
      rw [heq] at hget
      exact absurd ((hsupplies n source s).2 hs) (not_layerHas_of_mergeAll hget source s)

/-- What a program ships with a directory of more sets. -/
structure ShipsNewest (m : Manager) (d : Disk) : Prop where
  /-- Under a name is the newest set that a source supplies, of equally new ones the one of the
  source that precedes the others. -/
  at_name : ∀ n s, (m.standardSets d).get? n = some s ↔
    Prevails ShippedSource.Precedes (m.Supplies d n) s
  /-- There is a set under a name exactly if some source supplies one. -/
  present : ∀ n, (m.standardSets d).contains n = true ↔ ∃ source s, m.Supplies d n source s
  flagged : (m.standardSets d).AllStandard
  /-- In whichever order the directory is listed, and whatever is listed that defines nothing, the
  files give the same sets, merged with each other first or into the program's one by one. -/
  listed : ∀ path location names listing, m.standardDirectory = some path →
    d.Lists path location names →
    (∀ name sets, isTomlName name = true → FileDefines d location name sets →
      (name ∈ listing ↔ name ∈ names)) →
    m.standardSets d = shippedSets.mergeHighest (ofListing d location listing) ∧
      m.standardSets d =
        ((tomlNames listing).map (setsOfFile d location)).foldl mergeHighest shippedSets

/-- Of the sets that are shipped under one name, the newest counts, and of equally new ones the
program's before those of files and these in the order of their names.  Merging is associative and
prefers the former of two sets. -/
theorem standardSets_by_precedence (m : Manager) (d : Disk) :
    m.ShipsNewest d ∧
    (∀ a b c : Definitions,
      (a.mergeHighest b).mergeHighest c = a.mergeHighest (b.mergeHighest c)) ∧
    (∀ (a b : Definitions) (n : String),
      (a.mergeHighest b).get? n = newer (a.get? n) (b.get? n)) := by
  refine ⟨⟨m.get?_standardSets_iff d, m.contains_standardSets_iff d, m.allStandard_standardSets d,
    ?_⟩, mergeHighest_assoc, get?_mergeHighest⟩
  intro path location names listing hdirectory hlists hsame
  have hmerge : m.standardSets d = shippedSets.mergeHighest (ofListing d location listing) := by
    rw [standardSets, hdirectory, ofListing_congr hsame, ← ofDirectory_eq hlists]
  exact ⟨hmerge, hmerge.trans (foldl_mergeHighest _ _).symm⟩

/-- The shipped sets of the program itself are in their first version. -/
theorem version_of_get?_shippedSets (h : shippedSets.get? n = some s) : s.version = 1 := by
  refine forall_shippedSets (P := fun s => s.version = 1) ?_ h
  intro name description rules s hs
  have hdraft := (FilesSet.build_eq_ok_iff.1 hs).1
  exact (congrArg FilesSet.Draft.version hdraft).symm

/-- A file with the second version of a set that the program has too. -/
def secondText (description : String) : List UInt8 :=
  Text.Utf8.encode ("format_version = 1\n[[set]]\nname = \"Cloud Storage\"\nversion = 2\n" ++
    "description = \"" ++ description ++ "\"\n")

/-- The set of such a file. -/
def secondSet (description : String) : FilesSet where
  name := "Cloud Storage"
  description := description
  version := 2
  name_not_blank := by decide
  keyed := FilesSet.keyed_empty

/-- Two such files, not in the order of their names, and one that cannot be read. -/
def tiedFiles : List (FileName × Entry) :=
  [(Text.Utf8.encode "b.toml", .file (.bytes (secondText "of b")) .epoch),
    (Text.Utf8.encode "a.toml", .file (.bytes (secondText "of a")) .epoch),
    (Text.Utf8.encode "0.toml", .file (.bytes (Text.Utf8.encode "[[set]\n")) .epoch)]

/-- A disk with a directory of these files. -/
def tiedDisk : Disk where
  root := .directory true .epoch [(Text.Utf8.encode "std", .directory true .epoch tiedFiles)]

/-- A program that takes more sets from the directory. -/
def tiedManager : Manager where
  store := ⟨"defs"⟩
  standardDirectory := some "std"

theorem lists_tiedDisk :
    tiedDisk.Lists "std" [Text.Utf8.encode "std"] (tiedFiles.map (·.1)) where
  located := by
    have hplain : Disk.Plain (Text.Utf8.encode "std") := ⟨by decide, by decide, by decide⟩
    have hsteps : Disk.steps (Text.Utf8.encode "std") = [Text.Utf8.encode "std"] := by decide
    rw [Disk.locate_eq_resolve rfl rfl, hsteps, hplain.resolve_directory rfl, Disk.resolve]
    rfl
  listed := ⟨.epoch, tiedFiles, rfl, rfl⟩

theorem fileDefines_b : FileDefines tiedDisk [Text.Utf8.encode "std"] (Text.Utf8.encode "b.toml")
    (.ofList [("Cloud Storage", secondSet "of b")]) :=
  ⟨_, Disk.findFrom_file ⟨by decide, by decide, by decide⟩ rfl, by decide +kernel⟩

theorem fileDefines_a : FileDefines tiedDisk [Text.Utf8.encode "std"] (Text.Utf8.encode "a.toml")
    (.ofList [("Cloud Storage", secondSet "of a")]) :=
  ⟨_, Disk.findFrom_file ⟨by decide, by decide, by decide⟩ rfl, by decide +kernel⟩

theorem not_fileDefines_broken (sets : Definitions) :
    ¬ FileDefines tiedDisk [Text.Utf8.encode "std"] (Text.Utf8.encode "0.toml") sets := by
  rintro ⟨bytes, hread, hsets⟩
  have hplain : Disk.Plain (Text.Utf8.encode "0.toml") := ⟨by decide, by decide, by decide⟩
  have hbytes : tiedDisk.findFrom [Text.Utf8.encode "std"] [Text.Utf8.encode "0.toml"] >>=
      Disk.bytesOf = .ok (Text.Utf8.encode "[[set]\n") := Disk.findFrom_file hplain rfl
  have hbroken : (ofBytes (Text.Utf8.encode "[[set]\n")).toOption = none := by decide +kernel
  obtain rfl := Except.ok.inj (hbytes.symm.trans hread)
  rw [hsets] at hbroken
  cases hbroken

theorem tiedDisk_by_precedence :
    (tiedManager.standardSets tiedDisk).get? "Cloud Storage" =
      some (secondSet "of a").asStandard := by
  have hships := (standardSets_by_precedence tiedManager tiedDisk).1
  refine (hships.at_name _ _).2 ⟨.file (Text.Utf8.encode "a.toml"), ?_, ?_⟩
  · exact .file rfl lists_tiedDisk (by decide) (by decide) fileDefines_a (by decide)
  · intro other t hother
    cases hother with
    | program hget =>
      have hfirst : t.version = 1 := version_of_get?_shippedSets hget
      exact .inl (hfirst ▸ by decide)
    | file hdirectory hlists hname htoml hdefines hget =>
      cases hdirectory
      obtain ⟨rfl, rfl⟩ := lists_tiedDisk.unique hlists
      simp only [tiedFiles, List.map_cons, List.map_nil, List.mem_cons, List.not_mem_nil,
        or_false] at hname
      rcases hname with rfl | rfl | rfl
      · -- of the two files, the one that is listed first comes second
        obtain rfl := fileDefines_b.unique hdefines
        cases hget
        have hle : Disk.nameLe (Text.Utf8.encode "a.toml") (Text.Utf8.encode "b.toml") = true := by
          decide
        exact .inr ⟨rfl, hle⟩
      · obtain rfl := fileDefines_a.unique hdefines
        cases hget
        exact .inr ⟨rfl, ShippedSource.precedes_refl _⟩
      · exact absurd hdefines (not_fileDefines_broken _)

end Manager

end FileTriage
