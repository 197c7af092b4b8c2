/-
What has been loaded can be saved exactly if its sizes fit.

Both formats give sets that stand under their own names.  The integers of a TOML text have a place
in TOML, so what has been read from it can be written to it.  JSON has room for larger integers: a
size in a text of the older format may be one for which TOML has no place, and then nothing can be
saved.
-/
import FileTriage.Proofs.Definitions.JsonRoundTrip
import FileTriage.Proofs.Definitions.Saving
import FileTriage.Proofs.Rules.Sizes

namespace FileTriage

open Value (bind_eq_ok_iff map_eq_ok_iff fill_eq_ok_iff of_collect_eq_ok)

namespace Definitions

variable {sets : Definitions} {bytes : List UInt8}

/-! ## Sets that have been read -/

/-- Sets that have been put together stand under their names, and are those that were given. -/
theorem byName_eq_ok_iff {given : List FilesSet} :
    byName given = .ok sets ↔ sets.Named ∧ given.Perm sets.values := by
  rw [← ofSets_eq_ok_iff, byName]
  cases ofSets given with
  | error name => simp
  | ok m => simp

theorem named_empty : Named .empty := fun _ he => absurd he List.not_mem_nil

theorem sizesFit_empty : SizesFit .empty := fun _ hs => absurd hs List.not_mem_nil

theorem sizesFit_iff : sets.SizesFit ↔ ∀ s ∈ sets.values, s.SizesFit := by
  constructor
  · intro h s hs r hr c hc size hsize
    exact h s hs r hr size (hsize ▸ hc)
  · intro h s hs r hr size hsize
    exact h s hs r hr _ hsize size rfl

/-- The sizes of the sets that have been collected fit. -/
def DocumentDraft.SizesFit (d : DocumentDraft) : Prop := ∀ s ∈ d.sets.getD [], s.SizesFit

theorem DocumentDraft.SizesFit.set (name : String) (v : Value) (d d' : DocumentDraft)
    (hv : Toml.Fits v) (hd : d.SizesFit) (h : DocumentDraft.set name v d = .ok d') :
    d'.SizesFit := by
  unfold DocumentDraft.set at h
  split at h
  · obtain ⟨slot, -, rfl⟩ := map_eq_ok_iff.1 h
    exact hd
  · -- the sets, each of which is an item of the list
    obtain ⟨slot, hslot, rfl⟩ := map_eq_ok_iff.1 h
    obtain ⟨-, sets, hsets, rfl⟩ := fill_eq_ok_iff.1 hslot
    intro s hs
    obtain ⟨w, hw, hread⟩ := exists_of_asList_eq_ok hv hsets hs
    exact FilesSet.sizesFit_of_ofValue hw hread
  · cases h
    exact hd

theorem sizesFit_of_readDocument {v : Value} (hv : Toml.Fits v) {version : UInt32}
    {given : List FilesSet} (h : readDocument v = .ok (version, given)) :
    ∀ s ∈ given, s.SizesFit := by
  obtain ⟨collected, hcollected, h⟩ := bind_eq_ok_iff.1 h
  obtain ⟨version, -, h⟩ := bind_eq_ok_iff.1 h
  cases h
  exact of_collect_eq_ok DocumentDraft.SizesFit.set hv.parts (by rintro s ⟨⟩) hcollected

/-- What has been read from TOML stands under its names, and its sizes fit. -/
theorem ofToml_eq_ok (h : ofToml bytes = .ok sets) : sets.Named ∧ sets.SizesFit := by
  rw [ofToml] at h
  split at h
  · cases h
  rw [ofTomlText] at h
  split at h
  · -- a blank text gives no sets
    cases h
    exact ⟨named_empty, sizesFit_empty⟩
  split at h
  · cases h
  · next v hread =>
    split at h
    · cases h
    · next version given hdocument =>
      split at h
      · cases h
      · obtain ⟨hnamed, hgiven⟩ := byName_eq_ok_iff.1 h
        refine ⟨hnamed, sizesFit_iff.2 fun s hs => ?_⟩
        exact sizesFit_of_readDocument (Toml.fits_of_read hread) hdocument s (hgiven.mem_iff.2 hs)

/-- What has been read stands under its names, whichever format it has been read from. -/
theorem named_of_ofBytes (h : ofBytes bytes = .ok sets) : sets.Named := by
  rw [ofBytes] at h
  split at h
  · next htoml =>
    cases h
    exact (ofToml_eq_ok htoml).1
  · split at h
    · next hjson =>
      cases h
      obtain ⟨legacy, -, hnames⟩ := bind_eq_ok_iff.1 hjson
      exact (byName_eq_ok_iff.1 hnames).1
    · cases h

/-- Sets under their names cannot be written only if a size does not fit. -/
theorem toToml_of_not_sizesFit (hnamed : sets.Named) (h : ¬ sets.SizesFit) :
    sets.toToml = .error .unwritable := by
  have hwrite : Toml.write? sets.document = none := by
    rw [Option.eq_none_iff_forall_ne_some]
    intro text htext
    exact h (fieldsFit_document_iff sets |>.1 ((sets.shaped 76).exists_write?_iff.1 ⟨text, htext⟩))
  rw [toToml, checkKeys_eq_ok_iff.2 hnamed, hwrite]
  rfl

theorem exists_toToml (hnamed : sets.Named) (h : sets.SizesFit) :
    ∃ text, sets.toToml = .ok text := by
  obtain ⟨text, htext⟩ := (sets.shaped 76).exists_write?_iff.2 (sets.fieldsFit_document_iff.2 h)
  exact ⟨text, toToml_eq_ok_iff.2 ⟨hnamed, htext⟩⟩

end Definitions

namespace Store

variable {s : Store} {d : Disk} {key : StoreKey} {sets : Definitions}

/-! ## An older file with one size -/

/-- A rule for files of one size. -/
def sizeRule (bytes : UInt64) : Rule where
  id := "r"
  name := "n"
  conditions := [.fileSize ⟨.equal, .bytes, bytes, .inr rfl⟩]
  id_not_blank := by decide
  name_not_blank := by decide
  conditions_ne_nil := by simp
  ascending := List.pairwise_singleton _ _

/-- A set with that rule, under its name. -/
def sizeSets (bytes : UInt64) : Definitions :=
  NameMap.empty.insert "a"
    { name := "a"
      rules := NameMap.empty.insert "r" (sizeRule bytes)
      name_not_blank := by decide
      keyed := by
        intro e he
        rcases NameMap.mem_insertEntry he with rfl | he
        · rfl
        · exact absurd he List.not_mem_nil }

theorem named_sizeSets (bytes : UInt64) : (sizeSets bytes).Named := by
  intro e he
  rcases NameMap.mem_insertEntry he with rfl | he
  · rfl
  · exact absurd he List.not_mem_nil

theorem sizesFit_sizeSets_iff (bytes : UInt64) :
    (sizeSets bytes).SizesFit ↔ bytes.toNat ≤ Nat.pow 2 63 - 1 := by
  have hsize : (sizeRule bytes).conditions = [.fileSize ⟨.equal, .bytes, bytes, .inr rfl⟩] := rfl
  constructor
  · intro h
    exact h _ List.mem_cons_self _ List.mem_cons_self _ (hsize ▸ List.mem_cons_self)
  · intro h s hs r hr c hc
    cases List.mem_singleton.1 hs
    cases List.mem_singleton.1 hr
    rw [hsize] at hc
    cases List.mem_singleton.1 hc
    exact h

/-- The empty disk with a store that has nothing but an older file of these bytes. -/
def olderDisk (bytes : List UInt8) : Disk :=
  freshDisk.put ([freshNames.1] ++ [freshOlderName]) (.file (.bytes bytes) freshDisk.clock)

/-- The bytes of the older files of that store. -/
def olderBytes (bytes : List UInt8) : StoreKey → Option (List UInt8)
  | .interestingItems => some bytes
  | .ingestFilters => none

theorem remembers_olderDisk (bytes : List UInt8) :
    fresh.Remembers (olderBytes bytes) (fun _ => none) (olderDisk bytes) := by
  have hplain : Disk.Plain freshNames.1 := ⟨by decide, by decide, by decide⟩
  have hreaches : (olderDisk bytes).Reaches fresh.directory [freshNames.1] :=
    ⟨by decide, ⟨_, .directory hplain rfl .done⟩, rfl⟩
  refine remembers_of_reaches hreaches ?_ ?_
  · intro key
    cases key <;> rfl
  · intro key
    cases key with
    | interestingItems => exact ⟨.bytes bytes, freshDisk.clock, rfl, rfl⟩
    | ingestFilters => rfl

/-- What the older file gives is what is loaded. -/
theorem load_olderDisk {bytes : List UInt8} (h : Definitions.ofBytes bytes = .ok sets) :
    fresh.load (olderDisk bytes) .interestingItems = .ok sets := by
  rw [(remembers_olderDisk bytes).load_eq]
  simp only [recalled, olderBytes, h]

/-- The disk of a store that has nothing but an older file with a set that asks for a size. -/
def sizeDisk (bytes : UInt64) : Disk :=
  olderDisk (Text.Utf8.encode (Json.pretty (sizeSets bytes).toValue))

/-- The set is loaded, whatever the size is. -/
theorem load_sizeDisk (bytes : UInt64) :
    fresh.load (sizeDisk bytes) .interestingItems = .ok (sizeSets bytes) := by
  refine load_olderDisk ?_
  exact Definitions.ofBytes_of_isJsonOf (Definitions.isJsonOf_pretty _) (named_sizeSets bytes)
    (sizeSets bytes).nodup_keys (.refl _)

/-- Whatever is to be saved, the operations on files succeed. -/
theorem exists_writes_sizeDisk (bytes : UInt64) (text : String) :
    ∃ after, fresh.Writes .interestingItems text (sizeDisk bytes) after := by
  obtain ⟨made, place, hmade, hkeeps, -⟩ := remembers_olderDisk
    (Text.Utf8.encode (Json.pretty (sizeSets bytes).toValue))
  exact ⟨_, hkeeps.writes hmade .interestingItems text⟩

/-! ## Saving what has been loaded -/

/-- The bytes from which a kind of definitions is loaded: those of its file, or those of the older
file if there is none. -/
def Holds (s : Store) (d : Disk) (key : StoreKey) (bytes : List UInt8) : Prop :=
  d.read (s.pathFor key) = .ok bytes ∨
    (d.read (s.pathFor key) = .error .notFound ∧ d.read (s.legacyPathFor key) = .ok bytes)

theorem loadFile_eq_ok {path : String} {absent : Except StoreError Definitions}
    (h : loadFile d path absent = .ok sets) :
    (∃ bytes, d.read path = .ok bytes ∧ Definitions.ofBytes bytes = .ok sets) ∨
      (d.read path = .error .notFound ∧ absent = .ok sets) := by
  rw [loadFile] at h
  split at h
  · next bytes hread =>
    split at h
    · next hbytes =>
      cases h
      exact .inl ⟨bytes, hread, hbytes⟩
    · cases h
  · next hread => exact .inr ⟨hread, h⟩
  · cases h

/-- What is loaded has been read from a file, unless there is none. -/
theorem load_eq_ok (h : s.load d key = .ok sets) :
    (∃ bytes, s.Holds d key bytes ∧ Definitions.ofBytes bytes = .ok sets) ∨ sets = .empty := by
  rcases loadFile_eq_ok h with ⟨bytes, hread, hbytes⟩ | ⟨hfile, habsent⟩
  · exact .inl ⟨bytes, .inl hread, hbytes⟩
  · rcases loadFile_eq_ok habsent with ⟨bytes, hread, hbytes⟩ | ⟨-, hempty⟩
    · exact .inl ⟨bytes, .inr ⟨hfile, hread⟩, hbytes⟩
    · exact .inr (Except.ok.inj hempty).symm

/-- What is loaded stands under its own names. -/
theorem named_of_load (h : s.load d key = .ok sets) : sets.Named := by
  rcases load_eq_ok h with ⟨bytes, -, hbytes⟩ | rfl
  · exact Definitions.named_of_ofBytes hbytes
  · exact Definitions.named_empty

/-- Saving what has been loaded.  The sets stand under their names, and where they have been read
from TOML or from no file at all, their sizes fit.  If the sizes fit, the sets can be written, and
when the operations on files succeed, they have been saved and are what is loaded from then on.
If one does not fit, which only the older format has room for, nothing is saved and nothing
changes. -/
theorem save_loaded (s : Store) (state : State) (key : StoreKey) (sets : Definitions)
    (h : s.load state.disk key = .ok sets) :
    sets.Named ∧
    ((∀ bytes, s.Holds state.disk key bytes → ∃ toml, Definitions.ofToml bytes = .ok toml) →
      sets.SizesFit) ∧
    (sets.SizesFit → ∃ text, sets.toToml = .ok text ∧
      ∀ after, s.Writes key text state.disk after →
        s.save state key sets =
          (.ok (), { disk := after, saves := state.saves ++ [⟨key, sets.size⟩] }) ∧
        s.load after key = .ok sets) ∧
    (¬ sets.SizesFit → s.save state key sets = (.error (.encode .unwritable), state)) := by
  have hnamed := named_of_load h
  refine ⟨hnamed, ?_, ?_, ?_⟩
  · intro htoml
    rcases load_eq_ok h with ⟨bytes, hholds, hbytes⟩ | rfl
    · -- TOML is tried first, so it is what the sets have been read from
      obtain ⟨toml, hread⟩ := htoml bytes hholds
      rw [Definitions.ofBytes, hread] at hbytes
      cases hbytes
      exact (Definitions.ofToml_eq_ok hread).2
    · exact Definitions.sizesFit_empty
  · intro hfit
    obtain ⟨text, htext⟩ := Definitions.exists_toToml hnamed hfit
    refine ⟨text, htext, fun after hwrites => ⟨?_, ?_⟩⟩
    · exact hwrites.save_eq htext
    · exact hwrites.load_eq htext
  · intro hsize
    exact save_of_error (Definitions.toToml_of_not_sizesFit hnamed hsize) s state key

/-- The greatest size that fits is saved and loaded again. -/
theorem greatest_size_is_saved :
    ∃ text after, fresh.Writes .interestingItems text (sizeDisk 9223372036854775807) after ∧
      fresh.save { disk := sizeDisk 9223372036854775807 } .interestingItems
          (sizeSets 9223372036854775807) =
        (.ok (), { disk := after, saves := [⟨.interestingItems, 1⟩] }) ∧
      fresh.load after .interestingItems = .ok (sizeSets 9223372036854775807) := by
  obtain ⟨-, -, hfits, -⟩ := save_loaded fresh { disk := sizeDisk 9223372036854775807 }
    .interestingItems (sizeSets 9223372036854775807) (load_sizeDisk 9223372036854775807)
  obtain ⟨text, -, hsaved⟩ := hfits ((sizesFit_sizeSets_iff 9223372036854775807).2 (by decide))
  obtain ⟨after, hwrites⟩ := exists_writes_sizeDisk 9223372036854775807 text
  obtain ⟨hsave, hload⟩ := hsaved after hwrites
  exact ⟨text, after, hwrites, hsave, hload⟩

/-- The size after it is loaded and cannot be saved, although the operations on files succeed. -/
theorem next_size_is_not_saved :
    fresh.load (sizeDisk 9223372036854775808) .interestingItems =
      .ok (sizeSets 9223372036854775808) ∧
    (∀ text, ∃ after, fresh.Writes .interestingItems text (sizeDisk 9223372036854775808) after) ∧
    fresh.save { disk := sizeDisk 9223372036854775808 } .interestingItems
        (sizeSets 9223372036854775808) =
      (.error (.encode .unwritable), { disk := sizeDisk 9223372036854775808 }) := by
  have hsize : ¬ (sizeSets 9223372036854775808).SizesFit := by
    rw [sizesFit_sizeSets_iff]
    decide
  refine ⟨load_sizeDisk _, exists_writes_sizeDisk _, ?_⟩
  exact save_of_error (Definitions.toToml_of_not_sizesFit (named_sizeSets _) hsize) _ _ _

end Store

end FileTriage
