/-
Shipped filters and those of a user.

A filter passes the names of the shipped ones three times: what is saved leaves them out, what is
loaded has the shipped filters put in their place, and a job that lets files through goes by them
before it looks at any rule.  After a load the first two come to one equation
(`get?_withShippedFilters`): at every name stands a shipped filter or what is stored there.  The
rules of the shipped filters say what their names stand for, so the third never shows.
-/
import FileTriage.Job.Filter
import FileTriage.Proofs.Definitions.History
import FileTriage.Proofs.Definitions.Startup

namespace FileTriage

namespace Definitions

variable {f g stored : Definitions} {k : String}

/-! ## The shipped filters -/

theorem isShippedFilterName_iff {name : String} :
    isShippedFilterName name = true ↔ name = allFilesName ∨ name = everythingName := by
  rw [isShippedFilterName, Bool.or_eq_true, decide_eq_true_iff, decide_eq_true_iff]

theorem get?_shippedFilters_iff {s : FilesSet} :
    shippedFilters.get? k = some s ↔
      (k = allFilesName ∧ s = allFilesFilter) ∨ (k = everythingName ∧ s = everythingFilter) := by
  rw [shippedFilters, NameMap.get?_ofList_iff (by decide)]
  simp

/-- The shipped filters stand under their names and under no other ones. -/
theorem contains_shippedFilters (k : String) :
    shippedFilters.contains k = isShippedFilterName k := by
  rw [Bool.eq_iff_iff, NameMap.contains_eq_true_iff, isShippedFilterName_iff]
  simp only [get?_shippedFilters_iff, exists_or, exists_and_left, exists_eq, and_true]

/-- The document of the shipped filters. -/
def shippedFiltersText : String :=
  r#"# File ingest filters that are always available and cannot be edited.
format_version = 1

[[set]]
name = "All Files and Directories (Not Unallocated Space)"
description = "Process every file and directory except unallocated space"
ignore_unallocated_space = true
standard = true
version = 1

[[set.rule]]
id = "all-files-and-directories"
name = "All files and directories"

[[set.rule.condition]]
kind = "meta_type"
meta_type = "all"

[[set]]
name = "All Files, Directories, and Unallocated Space"
description = "Process every file, directory and unallocated block"
standard = true
version = 1

[[set.rule]]
id = "all-files-directories-and-unallocated"
name = "All files, directories and unallocated space"

[[set.rule.condition]]
kind = "meta_type"
meta_type = "all"
"#

set_option maxRecDepth 8000 in
/-- The shipped filters are those of the document. -/
theorem ofToml_shippedFiltersText :
    (ofToml (Text.Utf8.encode shippedFiltersText)).map asStandard = .ok shippedFilters := by
  -- the reader works on the list of characters, so the text is written as one before it is read
  have htext : shippedFiltersText = String.ofList _ := rfl
  have hblank : Text.allBlank shippedFiltersText = false := by
    rw [Text.allBlank, htext, String.toList_ofList]
    rfl
  rw [ofToml, Text.Utf8.decode_encode]
  simp only
  rw [ofTomlText, hblank, Toml.read, htext, String.toList_ofList]
  decide +kernel

/-! ## Among the filters of a user -/

/-- Filters without those under the names of the shipped ones. -/
def customFilters (f : Definitions) : Definitions :=
  f.filter fun name _ => !isShippedFilterName name

/-- Filters with the shipped ones in the place of those under their names. -/
def withShippedFilters (f : Definitions) : Definitions :=
  shippedFilters.entries.foldl (fun f e => f.insert e.1 e.2) f.customFilters

theorem get?_customFilters (f : Definitions) (k : String) :
    f.customFilters.get? k = if isShippedFilterName k = true then none else f.get? k := by
  rw [customFilters, NameMap.get?_filter]
  cases isShippedFilterName k with
  | false =>
    cases f.get? k with
    | none => rfl
    | some s => rfl
  | true =>
    cases f.get? k with
    | none => rfl
    | some s => rfl

theorem get?_withShippedFilters (f : Definitions) (k : String) :
    f.withShippedFilters.get? k =
      if isShippedFilterName k = true then shippedFilters.get? k else f.get? k := by
  rw [withShippedFilters, NameMap.get?_foldl_insert, get?_customFilters]
  split
  · exact Option.or_none
  · next hk =>
    -- under another name there is no shipped filter to take its place
    have hnone : shippedFilters.get? k = none := by
      rw [← NameMap.contains_eq_false_iff, contains_shippedFilters]
      exact Bool.eq_false_iff.2 hk
    rw [hnone, Option.none_or]

/-- Only filters under other names than those of the shipped ones count. -/
theorem withShippedFilters_congr
    (h : ∀ k, isShippedFilterName k = false → f.get? k = g.get? k) :
    f.withShippedFilters = g.withShippedFilters := by
  refine NameMap.ext_get? fun k => ?_
  rw [get?_withShippedFilters, get?_withShippedFilters]
  split
  · rfl
  · next hk => exact h k (Bool.eq_false_iff.2 hk)

theorem withShippedFilters_customFilters (f : Definitions) :
    f.customFilters.withShippedFilters = f.withShippedFilters := by
  refine withShippedFilters_congr fun k hk => ?_
  rw [get?_customFilters, hk]
  rfl

theorem withShippedFilters_withShippedFilters (f : Definitions) :
    f.withShippedFilters.withShippedFilters = f.withShippedFilters := by
  refine withShippedFilters_congr fun k hk => ?_
  rw [get?_withShippedFilters, hk]
  rfl

end Definitions

/-! ## Letting files through -/

open Definitions

namespace FilesSet

variable {filter : FilesSet} {k : String} {file : FileRecord} {now : Instant}

/-- A filter under another name than those of the shipped ones goes by its rules. -/
theorem admits_of_not_shipped (h : isShippedFilterName filter.name = false) (file : FileRecord)
    (now : Instant) :
    filter.admits file now = (filter.firstSatisfiedRuleName? file now).isSome := by
  rw [isShippedFilterName, Bool.or_eq_false_iff, decide_eq_false_iff_not,
    decide_eq_false_iff_not] at h
  rw [admits, if_neg h.2, if_neg h.1]

/-- A filter of one rule that every file satisfies keeps out nothing but unallocated space, and that
only if it is to. -/
theorem isSome_firstSatisfiedRuleName?_filterOf {name description : String}
    {ignoreUnallocated : Bool} {rule : Rule} {h : Text.allBlank name = false}
    (hrule : rule.isSatisfiedAt file now = true) :
    ((filterOf name description ignoreUnallocated rule h).firstSatisfiedRuleName? file now).isSome =
      !(ignoreUnallocated && file.fileType.isUnallocatedSpace) := by
  have hexcludes : (filterOf name description ignoreUnallocated rule h).excludes file =
      (ignoreUnallocated && file.fileType.isUnallocatedSpace) := rfl
  have hvalues : (filterOf name description ignoreUnallocated rule h).rules.values = [rule] := rfl
  have hfind : [rule].find? (fun rule => rule.isSatisfiedAt file now) = some rule :=
    List.find?_cons_of_pos hrule
  rw [firstSatisfiedRuleName?, hexcludes, hvalues, hfind]
  cases ignoreUnallocated && file.fileType.isUnallocatedSpace with
  | false => rfl
  | true => rfl

theorem isSatisfiedAt_anyFileRule {id name : String} {hid : Text.allBlank id = false}
    {hname : Text.allBlank name = false} :
    (anyFileRule id name hid hname).isSatisfiedAt file now = true := rfl

/-- The rules of a shipped filter say what its name stands for. -/
theorem admits_of_shipped (h : shippedFilters.get? k = some filter) (file : FileRecord)
    (now : Instant) :
    filter.admits file now = (filter.firstSatisfiedRuleName? file now).isSome := by
  rcases get?_shippedFilters_iff.1 h with ⟨-, rfl⟩ | ⟨-, rfl⟩
  · have hne : allFilesFilter.name ≠ everythingName := by decide
    have hname : allFilesFilter.admits file now = !file.fileType.isUnallocatedSpace := by
      rw [admits, if_neg hne, if_pos (show allFilesFilter.name = allFilesName from rfl)]
    rw [hname, allFilesFilter,
      isSome_firstSatisfiedRuleName?_filterOf isSatisfiedAt_anyFileRule, Bool.true_and]
  · have hname : everythingFilter.admits file now = true := by
      rw [admits, if_pos (show everythingFilter.name = everythingName from rfl)]
    rw [hname, everythingFilter,
      isSome_firstSatisfiedRuleName?_filterOf isSatisfiedAt_anyFileRule, Bool.false_and,
      Bool.not_false]

end FilesSet

/-! ## Loading and saving -/

namespace Definitions

variable {f : Definitions}

/-- These filters are the shipped ones and, under other names, the ones that are given.  Each of
them lets a file through exactly if the file satisfies one of its rules. -/
structure GivenWithShipped (given filters : Definitions) : Prop where
  all_files : filters.get? allFilesName = some allFilesFilter
  everything : filters.get? everythingName = some everythingFilter
  others : ∀ k, isShippedFilterName k = false → filters.get? k = given.get? k
  admits_iff : ∀ k filter, filters.get? k = some filter → ∀ file now,
    filter.admits file now = (filter.firstSatisfiedRuleName? file now).isSome

/-- Whatever filters stand under their names, the shipped ones come with them. -/
theorem givenWithShipped (h : f.customFilters.Named) : GivenWithShipped f f.withShippedFilters where
  all_files := by
    rw [get?_withShippedFilters, if_pos (by decide)]
    exact get?_shippedFilters_iff.2 (.inl ⟨rfl, rfl⟩)
  everything := by
    rw [get?_withShippedFilters, if_pos (by decide)]
    exact get?_shippedFilters_iff.2 (.inr ⟨rfl, rfl⟩)
  others k hk := by
    rw [get?_withShippedFilters, hk]
    rfl
  admits_iff k filter hget file now := by
    rw [get?_withShippedFilters] at hget
    split at hget
    · exact FilesSet.admits_of_shipped hget file now
    · next hk =>
      -- the name of a filter that is not a shipped one is its key, and none of the shipped ones'
      have hcustom : f.customFilters.get? k = some filter := by
        rw [get?_customFilters, if_neg hk, hget]
      have hname : filter.name = k := h _ (NameMap.get?_eq_some_iff.1 hcustom)
      refine FilesSet.admits_of_not_shipped ?_ file now
      rw [hname]
      exact Bool.eq_false_iff.2 hk

theorem Named.customFilters (h : f.Named) : f.customFilters.Named :=
  fun e he => h e (List.mem_filter.1 he).1

end Definitions

namespace Manager

variable {m : Manager} {d : Disk} {state : Store.State} {f g stored : Definitions}

/-- The filters of a manager are those of its store, with the shipped ones put in. -/
theorem ingestFilters_eq (m : Manager) (d : Disk) :
    m.ingestFilters d = (m.store.load d .ingestFilters).map withShippedFilters := by
  rw [ingestFilters]
  cases m.store.load d .ingestFilters with
  | error e => rfl
  | ok stored => rfl

theorem ingestFilters_of_load (h : m.store.load d .ingestFilters = .ok stored) :
    m.ingestFilters d = .ok stored.withShippedFilters := by
  rw [ingestFilters_eq, h]
  rfl

theorem saveIngestFilters_eq (m : Manager) (state : Store.State) (f : Definitions) :
    m.saveIngestFilters state f = m.store.save state .ingestFilters f.customFilters := rfl

/-- Filters that have been saved are what is loaded, with the shipped ones. -/
theorem ingestFilters_of_load_customFilters
    (h : m.store.load d .ingestFilters = .ok f.customFilters) :
    m.ingestFilters d = .ok f.withShippedFilters := by
  rw [ingestFilters_of_load h, withShippedFilters_customFilters]

/-- What a manager gives has the shipped filters in it already. -/
theorem withShippedFilters_of_ingestFilters (h : m.ingestFilters d = .ok g) :
    g.withShippedFilters = g := by
  rw [ingestFilters_eq] at h
  obtain ⟨stored, -, rfl⟩ := Value.map_eq_ok_iff.1 h
  exact withShippedFilters_withShippedFilters stored

/-- What a manager does with filters. -/
structure KeepsShippedFilters (m : Manager) : Prop where
  /-- Whatever can be loaded, the shipped filters come with it. -/
  loaded : ∀ d stored, m.store.load d .ingestFilters = .ok stored →
    ∃ g, m.ingestFilters d = .ok g ∧ GivenWithShipped stored g
  /-- Filters that have been saved are given back with the shipped ones, as long as the save has not
  cut the way to their file. -/
  saved : ∀ state f after, m.saveIngestFilters state f = (.ok (), after) →
    after.disk.read (m.store.pathFor .ingestFilters) ≠ .error .notDirectory →
    ∃ g, m.ingestFilters after.disk = .ok g ∧ GivenWithShipped f g
  /-- Saving the filters that the manager gives makes no difference to what it gives. -/
  saved_again : ∀ state g result after, m.ingestFilters state.disk = .ok g →
    m.saveIngestFilters state g = (result, after) →
    (result = .ok () →
      after.disk.read (m.store.pathFor .ingestFilters) ≠ .error .notDirectory →
      m.ingestFilters after.disk = .ok g) ∧
    (∀ cause, result = .error (.encode cause) → after = state)
  /-- Where the directory of the store is there or can be made, no more than that is needed. -/
  remembered : ∀ older last state, m.store.Remembers older last state.disk →
    (∀ f text, f.customFilters.toToml = .ok text →
      ∃ after g, m.saveIngestFilters state f = (.ok (), after) ∧
        m.ingestFilters after.disk = .ok g ∧ GivenWithShipped f g) ∧
    (∀ g, m.ingestFilters state.disk = .ok g →
      m.ingestFilters (m.saveIngestFilters state g).2.disk = .ok g)

/-- A save that succeeds, and whose file can be read, gives the filters back with the shipped
ones. -/
theorem ingestFilters_of_save {after : Store.State}
    (h : m.saveIngestFilters state f = (.ok (), after))
    (hread : after.disk.read (m.store.pathFor .ingestFilters) ≠ .error .notDirectory) :
    m.ingestFilters after.disk = .ok f.withShippedFilters ∧ f.customFilters.Named := by
  obtain ⟨text, htext, hwrites⟩ := Store.writes_of_save h hread
  exact ⟨ingestFilters_of_load_customFilters (hwrites.load_eq htext), (toToml_eq_ok_iff.1 htext).1⟩

variable {older : StoreKey → Option (List UInt8)} {last : StoreKey → Option Definitions}

/-- Where the directory of the store is there or can be made, filters that can be written are saved
and given back. -/
theorem exists_saveIngestFilters {text : String} (h : m.store.Remembers older last state.disk)
    (htext : f.customFilters.toToml = .ok text) :
    ∃ after, m.saveIngestFilters state f = (.ok (), after) ∧
      m.ingestFilters after.disk = .ok f.withShippedFilters := by
  obtain ⟨disk, hsave, hnext⟩ := h.exists_save .ingestFilters htext
  have hload : m.store.load disk .ingestFilters = .ok f.customFilters := by
    rw [hnext.load_eq, Function.update_self, Store.recalled]
  exact ⟨_, hsave, ingestFilters_of_load_customFilters hload⟩

/-- Where the directory of the store is there or can be made, saving what the manager gives makes no
difference, whether or not it can be written. -/
theorem ingestFilters_saveIngestFilters (h : m.store.Remembers older last state.disk)
    (hgives : m.ingestFilters state.disk = .ok g) :
    m.ingestFilters (m.saveIngestFilters state g).2.disk = .ok g := by
  cases htext : g.customFilters.toToml with
  | error cause => rw [saveIngestFilters_eq, Store.save_of_error htext, hgives]
  | ok text =>
    obtain ⟨after, hsave, hafter⟩ := exists_saveIngestFilters h htext
    rw [hsave, hafter, withShippedFilters_of_ingestFilters hgives]

/-- The shipped filters, which are those of their document, cannot be overridden, and the other ones
make the round trip. -/
theorem ingestFilters_keep_shipped (m : Manager) :
    m.KeepsShippedFilters ∧
      (ofToml (Text.Utf8.encode shippedFiltersText)).map asStandard = .ok shippedFilters := by
  refine ⟨?_, ofToml_shippedFiltersText⟩
  constructor
  case loaded =>
    intro d stored h
    have hnamed := Store.named_of_load h
    exact ⟨_, ingestFilters_of_load h, givenWithShipped hnamed.customFilters⟩
  case saved =>
    intro state f after h hread
    obtain ⟨hgives, hnamed⟩ := ingestFilters_of_save h hread
    exact ⟨_, hgives, givenWithShipped hnamed⟩
  case saved_again =>
    intro state g result after hgives hsave
    refine ⟨?_, ?_⟩
    · rintro rfl hread
      rw [(ingestFilters_of_save hsave hread).1, withShippedFilters_of_ingestFilters hgives]
    · rintro cause rfl
      exact Store.eq_of_save_encode hsave
  case remembered =>
    intro older last state h
    refine ⟨fun f text htext => ?_, fun g hgives => ingestFilters_saveIngestFilters h hgives⟩
    obtain ⟨after, hsave, hgives⟩ := exists_saveIngestFilters h htext
    have hnamed := (toToml_eq_ok_iff.1 htext).1
    exact ⟨after, _, hsave, hgives, givenWithShipped hnamed⟩

/-- A filter of a user's own, and one under the name of a shipped filter. -/
def overriding : Definitions := ofNames [("Pictures", false, 0), (allFilesName, false, 9)]

theorem exists_toToml_of_no_rules (hnamed : f.Named) (h : ∀ s ∈ f.values, s.rules.values = []) :
    ∃ text, f.toToml = .ok text := by
  refine exists_toToml hnamed fun s hs r hr => ?_
  rw [h s hs] at hr
  cases hr

/-- Whether both have come into the store or are saved through the manager, only the one of the
user's own takes effect. -/
theorem overriding_keeps_shipped :
    (∃ d g, fresh.store.load d .ingestFilters = .ok overriding ∧
      fresh.ingestFilters d = .ok g ∧ g.get? allFilesName = some allFilesFilter ∧
      g.get? "Pictures" = overriding.get? "Pictures") ∧
    (∃ after g, fresh.saveIngestFilters { disk := {} } overriding = (.ok (), after) ∧
      fresh.ingestFilters after.disk = .ok g ∧ g.get? allFilesName = some allFilesFilter ∧
      g.get? "Pictures" = overriding.get? "Pictures") := by
  have hkeeps := (ingestFilters_keep_shipped fresh).1
  have hnamed : overriding.Named := by decide
  obtain ⟨text, htext⟩ := exists_toToml_of_no_rules hnamed (by decide)
  obtain ⟨customText, hcustom⟩ := exists_toToml_of_no_rules hnamed.customFilters (by decide)
  constructor
  · -- a store takes whatever is saved in it
    let start : Store.State := { disk := {} }
    have hstart : Store.fresh.Remembers _ _ start.disk := Store.remembers_fresh
    obtain ⟨disk, -, hnext⟩ := hstart.exists_save .ingestFilters htext
    have hload : fresh.store.load disk .ingestFilters = .ok overriding := by
      have hlast := hnext.load_eq .ingestFilters
      rwa [Function.update_self] at hlast
    obtain ⟨g, hgives, hgiven⟩ := hkeeps.loaded disk overriding hload
    exact ⟨disk, g, hload, hgives, hgiven.all_files, hgiven.others _ (by decide)⟩
  · obtain ⟨hsaves, -⟩ := hkeeps.remembered _ _ { disk := {} } Store.remembers_fresh
    obtain ⟨after, g, hsave, hgives, hgiven⟩ := hsaves overriding customText hcustom
    exact ⟨after, g, hsave, hgives, hgiven.all_files, hgiven.others _ (by decide)⟩

end Manager

end FileTriage
