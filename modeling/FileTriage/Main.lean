/-
The program.

It takes from the file system what a command is going to look at, lets the command run on that, and
carries out what the command has changed.
-/
import FileTriage.CommandLine.Run
import FileTriage.Disk.Change
import Std.Time.DateTime.Timestamp

namespace FileTriage

/-! ## Taking from the file system -/

/-- A time of the file system. -/
def Instant.ofFileTime (t : IO.FS.SystemTime) : Instant := ⟨t.sec, t.nsec.toNat⟩

/-- The present. -/
def presentInstant : IO Instant := do
  let nanos := (← Std.Time.Timestamp.now).toNanosecondsSinceUnixEpoch.val
  return ⟨nanos / 1000000000, (nanos % 1000000000).toNat⟩

/-- The path of an entry of a directory. -/
def placeText (place : IO.FS.DirEntry) : String := place.path.toString

/-- A link as an entry: it leads where the file system says that it leads in the end, or nowhere. -/
def takeLink (place : IO.FS.DirEntry) (modified : Instant) : IO Entry := do
  match ← (IO.FS.realPath place.path).toBaseIO with
  | .ok target => return .link (Text.Utf8.encode target.toString) modified
  | .error _ => return .link [0] modified

/-- What is neither a file nor a directory nor a link: it is there, and that is all. -/
def specialEntry (modified : Instant) : Entry := .link [Disk.separator] modified

/-- Takes an entry with all that is below it; of files, only their size. -/
partial def takeTree (place : IO.FS.DirEntry) : IO Entry := do
  let data ← place.path.symlinkMetadata
  let modified := Instant.ofFileTime data.modified
  match data.type with
  | .file => return .file (.zeros data.byteSize.toNat) modified
  | .symlink => takeLink place modified
  | .other => return specialEntry modified
  | .dir =>
    match ← place.path.readDir.toBaseIO with
    | .error _ => return .directory false modified []
    | .ok children =>
      let entries ← children.toList.mapM fun child => do
        return (Text.Utf8.encode child.fileName, ← takeTree child)
      return .directory true modified entries

/-- Puts an entry in its place; what is already known of a directory stays. -/
def Disk.addTaken (d : Disk) (location : List FileName) (e : Entry) : Disk :=
  if e.entries.isEmpty && (d.root.at? location).any Entry.isDirectory then d
  else if location.isEmpty then { d with root := e }
  else d.put location e

/-- Takes what stands on the way of a path and at its end: there all that is below, if `deep`, and
else the bytes of a file. -/
partial def takePath (deep : Bool) (d : Disk) (path : String) : IO Disk := do
  let rec go (d : Disk) (walked : String) : List FileName → IO Disk
    | [] => return d
    | name :: rest => do
      let place : IO.FS.DirEntry := ⟨walked, Text.Utf8.decodeLossy name⟩
      let text := placeText place
      match d.locate false text, ← place.path.symlinkMetadata.toBaseIO with
      | .ok location, .ok data =>
        let modified := Instant.ofFileTime data.modified
        match data.type with
        | .dir =>
          let e ← if deep && rest.isEmpty then takeTree place
            else pure (.directory true modified [])
          go (d.addTaken location e) text rest
        | .symlink =>
          let link ← takeLink place modified
          let d := d.addTaken location link
          let d ← match link with
            | .link target _ => takePath false d (Text.Utf8.decodeLossy target)
            | _ => pure d
          go d text rest
        | .file =>
          let content ←
            if deep then pure (Content.zeros data.byteSize.toNat)
            else (IO.FS.readBinFile place.path).map fun bytes => Content.bytes bytes.toList
          return d.addTaken location (.file content modified)
        | .other => return d.addTaken location (specialEntry modified)
      | _, _ => return d
  let bytes := Text.Utf8.encode path
  go d (if path.startsWith "/" then "/" else ".") (Disk.steps bytes)

/-- Takes the files of a directory. -/
def takeDirectory (d : Disk) (path : String) : IO Disk := do
  let d ← takePath false d path
  let place : IO.FS.DirEntry := ⟨path, "."⟩
  match ← place.path.readDir.toBaseIO with
  | .ok children => children.toList.foldlM (fun d child => takePath false d (placeText child)) d
  | .error _ => return d

/-- Takes what a command is going to look at. -/
def takeDisk (s : Surroundings) (i : Invocation) : IO Disk := do
  let current := (← IO.currentDir).toString
  let names := Disk.components (Text.Utf8.encode current)
  let d ← takePath false { clock := ← presentInstant } current
  let d := { d with workingDirectory := names }
  let d ← match i.command with
    | .scan o => (if o.paths.isEmpty then ["."] else o.paths).foldlM (takePath true) d
    | _ => pure d
  let d ← takePath false d (i.configuration.getD s.defaultPath)
  match Configuration.load s d i.configuration with
  | .error _ => return d
  | .ok (c, _) =>
    let d ← takeDirectory d c.directory
    match c.standardDirectory with
    | some path => takeDirectory d path
    | none => return d

/-! ## Carrying out changes -/

/-- The path of names from the root on. -/
def absolutePath (names : List FileName) : String :=
  "/" ++ "/".intercalate (names.map Text.Utf8.decodeLossy)

/-- Carries out a change.  A file is written beside its place first, so that nobody sees half of
it. -/
def Change.carryOut : Change → IO Unit
  | makeDirectory path => IO.FS.createDir (absolutePath path)
  | writeFile path bytes => do
    let place := absolutePath path
    let beside := place ++ ".new"
    IO.FS.writeBinFile beside ⟨bytes.toArray⟩
    IO.FS.rename beside place

/-! ## Running -/

/-- The user's directory of configurations. -/
def configDirectory : IO String := do
  match ← IO.getEnv "XDG_CONFIG_HOME", ← IO.getEnv "HOME" with
  | some directory, home =>
    if directory.startsWith "/" then return directory
    else return Disk.join (home.getD ".") ".config"
  | none, some home => return Disk.join home ".config"
  | none, none => return "."

/-- What is said where the arguments make no sense. -/
def usageText : String :=
  "Usage: triageset [--config <FILE>] <scan [OPTIONS] [PATH]... | sets list [--json] | " ++
    "sets reconcile | filters list [--json]>"

/-- Runs an invocation, and says how it ended. -/
def runInvocation (i : Invocation) : IO UInt32 := do
  let started ← IO.monoMsNow
  let s : Surroundings := { configDirectory := ← configDirectory }
  let before ← takeDisk s i
  let finished := i.run s before 0 before.clock
  for line in finished.progress do
    IO.eprintln line
  for change in before.changesTo finished.disk do
    change.carryOut
  match finished.result with
  | .ok report =>
    let milliseconds := (← IO.monoMsNow) - started
    IO.print (report.after (.ofNat milliseconds)).text
    return 0
  | .error e =>
    IO.eprintln s!"Error: {e.message}"
    return 1

end FileTriage

open FileTriage in
/-- The program: 0 is a command that has run, 1 one that has failed, and 2 arguments that make no
sense. -/
def main (arguments : List String) : IO UInt32 := do
  match Arguments.ofList arguments with
  | .invocation i => runInvocation i
  | .version =>
    IO.println versionText
    return 0
  | .misused =>
    IO.eprintln usageText
    return 2
