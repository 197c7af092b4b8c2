/-
The definitions that are shipped: three files sets, and two filters that decide which files a scan
looks at.
-/
import FileTriage.Definitions.Basic

namespace FileTriage.Definitions

/-- A shipped set of files, which leaves out known files and unallocated space. -/
def shippedSet (name description : String) (rules : List Rule) : Except ConstructionError FilesSet :=
  FilesSet.build {
    name, description, rules
    ignoreKnownFiles := true, ignoreUnallocatedSpace := true, standard := true, version := 1 }

/-- Programs and settings of cloud storage services. -/
def cloudStorage : Except ConstructionError FilesSet := do
  let client ← NameCondition.build .fullName
    "^(dropbox|googledrivesync|googledrivefs|onedrive|box|megasync|icloud(drive)?)\\.exe$" true
  let folder ← ParentPathCondition.build "/.dropbox/" false
  let clients ← Rule.build "cloud-storage-01-clients" "Cloud storage client executables"
    [.name client, .metaType .files]
  let settings ← Rule.build "cloud-storage-02-dropbox-config" "Dropbox configuration folder"
    [.metaType .files, .parentPath folder]
  shippedSet "Cloud Storage" "Desktop clients and local caches of cloud storage services"
    [clients, settings]

/-- Programs that encrypt disks and containers. -/
def encryptionPrograms : Except ConstructionError FilesSet := do
  let program ← NameCondition.build .fullName
    "^(truecrypt|veracrypt|veracrypt-x64|axcrypt|bitlockertogo|gpg|gpg2|kleopatra)(\\.exe)?$" true
  let programs ← Rule.build "encryption-programs-01" "Encryption program executables"
    [.name program, .metaType .files]
  shippedSet "Encryption Programs" "Disk and container encryption tools" [programs]

/-- Images of disks. -/
def diskImages : Except ConstructionError FilesSet := do
  let image ← NameCondition.build .extension
    "e01,ex01,aff,dd,raw,img,vmdk,vhd,vhdx,vdi,qcow2,dmg,iso" false
  let large ← FileSizeCondition.build .greaterThan .megabytes 1
  let images ← Rule.build "disk-images-01" "Disk image extensions"
    [.name image, .metaType .files, .fileSize large]
  shippedSet "Disk Images" "Forensic and virtual machine disk images" [images]

/-- The shipped files sets. -/
def shippedSets : Definitions :=
  .ofList ([cloudStorage, encryptionPrograms, diskImages].filterMap fun s =>
    s.toOption.map fun s => (s.name, s))

/-! ## Filters -/

/-- The name of the filter for every file that has been allocated. -/
def allFilesName : String := "All Files and Directories (Not Unallocated Space)"

/-- The name of the filter for every file. -/
def everythingName : String := "All Files, Directories, and Unallocated Space"

/-- Whether a name is that of a shipped filter. -/
def isShippedFilterName (name : String) : Bool := name = allFilesName || name = everythingName

/-- A rule that every file satisfies. -/
def anyFileRule (id name : String) (hid : Text.allBlank id = false)
    (hname : Text.allBlank name = false) : Rule :=
  { id, name, conditions := [.metaType .all], id_not_blank := hid, name_not_blank := hname
    conditions_ne_nil := by simp, ascending := by simp }

/-- A filter of one rule. -/
def filterOf (name description : String) (ignoreUnallocatedSpace : Bool) (rule : Rule)
    (h : Text.allBlank name = false) : FilesSet :=
  { name, description, ignoreUnallocatedSpace, standard := true, version := 1
    rules := ⟨[(rule.id, rule)], by simp⟩, name_not_blank := h
    keyed := by simp }

/-- The filter for every file that has been allocated. -/
def allFilesFilter : FilesSet :=
  filterOf allFilesName "Process every file and directory except unallocated space" true
    (anyFileRule "all-files-and-directories" "All files and directories" (by decide) (by decide))
    (by decide)

/-- The filter for every file. -/
def everythingFilter : FilesSet :=
  filterOf everythingName "Process every file, directory and unallocated block" false
    (anyFileRule "all-files-directories-and-unallocated"
      "All files, directories and unallocated space" (by decide) (by decide))
    (by decide)

/-- The shipped filters. -/
def shippedFilters : Definitions :=
  .ofList [(allFilesName, allFilesFilter), (everythingName, everythingFilter)]

end FileTriage.Definitions
