/-
Filters: files sets that decide which files a job looks at.
-/
import FileTriage.Definitions.Standard

namespace FileTriage

/-- Whether a filter lets a file through.  The filters for every file go by their names and do not
look at their rules. -/
def FilesSet.admits (filter : FilesSet) (f : FileRecord) (now : Instant) : Bool :=
  if filter.name = Definitions.everythingName then true
  else if filter.name = Definitions.allFilesName then !f.fileType.isUnallocatedSpace
  else (filter.firstSatisfiedRuleName? f now).isSome

end FileTriage
