/-
A store as a pair of maps.

However often definitions of both kinds are loaded and saved, those that are loaded are those that
have been saved last, and until there are any, those of the older file.  A call changes what is
remembered of its own kind at most (`Remembers.call`), and a run is one call after the other.
-/
import FileTriage.Proofs.Definitions.Importing

namespace FileTriage.Store

/-! ## Calls -/

/-- A call of a store. -/
inductive Call where
  | load (key : StoreKey)
  | save (key : StoreKey) (sets : Definitions)

namespace Call

/-- The kind of definitions that the call is about. -/
def kind : Call → StoreKey
  | load key => key
  | save key _ => key

/-- What the call saves, if it can be written. -/
def saved? : Call → Option (StoreKey × Definitions)
  | load _ => none
  | save key sets =>
    match sets.toToml with
    | .ok _ => some (key, sets)
    | .error _ => none

/-- What has been saved last, after the call. -/
def remembered (c : Call) (last : StoreKey → Option Definitions) : StoreKey → Option Definitions :=
  c.saved?.elim last fun e => Function.update last e.1 (some e.2)

/-- What the call announces. -/
def announced (c : Call) : List Saved := c.saved?.toList.map fun e => ⟨e.1, e.2.size⟩

theorem kind_of_saved? {c : Call} {e : StoreKey × Definitions} (h : c.saved? = some e) :
    e.1 = c.kind := by
  cases c with
  | load => cases h
  | save key sets =>
    rw [saved?] at h
    split at h
    · cases h
      rfl
    · cases h

theorem remembered_of_ne {c : Call} {key : StoreKey} (h : c.kind ≠ key)
    (last : StoreKey → Option Definitions) : c.remembered last key = last key := by
  rw [remembered]
  cases hsaved : c.saved? with
  | none => rfl
  | some e =>
    rw [Option.elim_some, kind_of_saved? hsaved, Function.update_of_ne h.symm]

end Call

/-- The definitions that calls have saved, each with its kind. -/
def saved (calls : List Call) : List (StoreKey × Definitions) := calls.filterMap Call.saved?

/-- The definitions of a kind that calls have saved last. -/
def lastSaved (calls : List Call) (key : StoreKey) : Option Definitions :=
  ((saved calls).filter fun e => e.1 = key).getLast?.map (·.2)

/-- What calls announce. -/
def announced (calls : List Call) : List Saved := (saved calls).map fun e => ⟨e.1, e.2.size⟩

theorem saved_concat (calls : List Call) (c : Call) :
    saved (calls ++ [c]) = saved calls ++ c.saved?.toList := by
  rw [saved, List.filterMap_append]
  cases hsaved : c.saved? with
  | none => simp [saved, hsaved]
  | some e => simp [saved, hsaved]

theorem lastSaved_concat (calls : List Call) (c : Call) :
    lastSaved (calls ++ [c]) = c.remembered (lastSaved calls) := by
  funext key
  rw [lastSaved, saved_concat, List.filter_append, Call.remembered]
  cases c.saved? with
  | none => simp [lastSaved]
  | some e =>
    obtain ⟨kind, sets⟩ := e
    by_cases hkey : kind = key
    · subst hkey
      simp
    · rw [Option.elim_some, Function.update_of_ne fun heq => hkey heq.symm]
      simp [hkey, lastSaved]

theorem announced_concat (calls : List Call) (c : Call) :
    announced (calls ++ [c]) = announced calls ++ c.announced := by
  rw [announced, saved_concat, List.map_append]
  rfl

variable {s : Store} {older : StoreKey → Option (List UInt8)}
  {last : StoreKey → Option Definitions} {state : State} {sets : Definitions} {text : String}

/-! ## One call -/

/-- Definitions that can be written are saved, and remembered in the place of those before. -/
theorem Remembers.exists_save (h : s.Remembers older last state.disk) (key : StoreKey)
    (htext : sets.toToml = .ok text) :
    ∃ disk, s.save state key sets =
        (.ok (), { disk, saves := state.saves ++ [⟨key, sets.size⟩] }) ∧
      s.Remembers older (Function.update last key (some sets)) disk := by
  obtain ⟨made, place, hmade, hkeeps, -⟩ := h
  exact ⟨_, (hkeeps.writes hmade key text).save_eq htext,
    (hkeeps.put key htext made.clock).remembers⟩

/-- What a call leaves; loading changes nothing. -/
def call (s : Store) (state : State) : Call → State
  | .load _ => state
  | .save key sets => (s.save state key sets).2

/-- A call either saves and announces what can be written, or it changes nothing. -/
theorem Remembers.call (h : s.Remembers older last state.disk) (c : Call) :
    s.Remembers older (c.remembered last) (s.call state c).disk ∧
      (s.call state c).saves = state.saves ++ c.announced := by
  cases c with
  | load key => exact ⟨h, (List.append_nil _).symm⟩
  | save key sets =>
    rw [Store.call, Call.remembered, Call.announced, Call.saved?]
    cases htext : sets.toToml with
    | error cause =>
      rw [save_of_error htext]
      exact ⟨h, (List.append_nil _).symm⟩
    | ok text =>
      obtain ⟨disk, hsave, hdisk⟩ := h.exists_save key htext
      rw [hsave]
      exact ⟨hdisk, rfl⟩

/-! ## Runs -/

/-- What calls leave, one after the other. -/
def run (s : Store) (state : State) (calls : List Call) : State := calls.foldl s.call state

theorem Remembers.run (h : s.Remembers older (fun _ => none) state.disk) (calls : List Call) :
    s.Remembers older (lastSaved calls) (s.run state calls).disk ∧
      (s.run state calls).saves = state.saves ++ announced calls := by
  induction calls using List.reverseRecOn with
  | nil => exact ⟨h, (List.append_nil _).symm⟩
  | append_singleton calls c ih =>
    -- the last call starts from what the calls before it have left
    obtain ⟨hdisk, hsaves⟩ := ih
    obtain ⟨hnext, hmore⟩ := hdisk.call c
    rw [lastSaved_concat, announced_concat, ← List.append_assoc, ← hsaves]
    rw [Store.run, List.foldl_concat]
    exact ⟨hnext, hmore⟩

/-- A store refines a pair of maps.  After any calls, what is loaded is what has been saved last,
and until something has been, what the older file gives: its definitions, the error that it is not
understood, or no definitions where there is none.  Each save is announced once.  Definitions that
cannot be written change nothing; those that can be are saved, announced and loaded from then on.
A call for one kind does not change what is loaded for the other. -/
theorem run_refines_maps (s : Store) (older : StoreKey → Option (List UInt8)) (state : State)
    (calls : List Call) (h : s.Remembers older (fun _ => none) state.disk) :
    (∀ key, s.load (s.run state calls).disk key =
      s.recalled key (older key) (lastSaved calls key)) ∧
    (s.run state calls).saves = state.saves ++ announced calls ∧
    (∀ key sets cause, sets.toToml = .error cause →
      s.save (s.run state calls) key sets = (.error (.encode cause), s.run state calls)) ∧
    (∀ key sets text, sets.toToml = .ok text →
      ∃ disk, s.save (s.run state calls) key sets =
          (.ok (), { disk, saves := (s.run state calls).saves ++ [⟨key, sets.size⟩] }) ∧
        s.load disk key = .ok sets) ∧
    (∀ c key, c.kind ≠ key →
      s.load (s.call (s.run state calls) c).disk key = s.load (s.run state calls).disk key) := by
  obtain ⟨hdisk, hsaves⟩ := h.run calls
  refine ⟨hdisk.load_eq, hsaves, ?_, ?_, ?_⟩
  · intro key sets cause hcause
    exact save_of_error hcause s _ key
  · intro key sets text htext
    obtain ⟨disk, hsave, hnext⟩ := hdisk.exists_save key htext
    refine ⟨disk, hsave, ?_⟩
    rw [hnext.load_eq, Function.update_self, recalled]
  · intro c key hkey
    rw [(hdisk.call c).1.load_eq, hdisk.load_eq, Call.remembered_of_ne hkey]

/-- Calls that save definitions of one kind, and of the other kind some that cannot be written. -/
def halfWritable : List Call :=
  [.save .ingestFilters (sizeSets 7), .load .interestingItems,
    .save .interestingItems (sizeSets 9223372036854775808)]

/-- Of the kind that cannot be written, the older file is still what is loaded, or nothing where
there is none. -/
theorem unwritable_save_is_forgotten :
    (fresh.load (fresh.run { disk := sizeDisk 5 } halfWritable).disk .interestingItems =
        .ok (sizeSets 5) ∧
      fresh.load (fresh.run { disk := sizeDisk 5 } halfWritable).disk .ingestFilters =
        .ok (sizeSets 7) ∧
      (fresh.run { disk := sizeDisk 5 } halfWritable).saves = [⟨.ingestFilters, 1⟩]) ∧
    (fresh.load (fresh.run { disk := {} } halfWritable).disk .interestingItems = .ok .empty ∧
      fresh.load (fresh.run { disk := {} } halfWritable).disk .ingestFilters = .ok (sizeSets 7) ∧
      (fresh.run { disk := {} } halfWritable).saves = [⟨.ingestFilters, 1⟩]) := by
  obtain ⟨text, htext⟩ := Definitions.exists_toToml (named_sizeSets 7)
    ((sizesFit_sizeSets_iff 7).2 (by decide))
  have hsize : ¬ (sizeSets 9223372036854775808).SizesFit := by
    rw [sizesFit_sizeSets_iff]
    decide
  have hunwritable := Definitions.toToml_of_not_sizesFit (named_sizeSets _) hsize
  have hsaved : saved halfWritable = [(.ingestFilters, sizeSets 7)] := by
    simp [halfWritable, saved, Call.saved?, htext, hunwritable]
  have hitems : lastSaved halfWritable .interestingItems = none := by
    rw [lastSaved, hsaved]
    rfl
  have hfilters : lastSaved halfWritable .ingestFilters = some (sizeSets 7) := by
    rw [lastSaved, hsaved]
    rfl
  have hannounced : announced halfWritable = [⟨.ingestFilters, 1⟩] := by
    rw [announced, hsaved]
    rfl
  obtain ⟨holder, holderSaves, -⟩ := run_refines_maps fresh _ { disk := sizeDisk 5 } halfWritable
    (remembers_olderDisk _)
  obtain ⟨hempty, hemptySaves, -⟩ := run_refines_maps fresh _ { disk := {} } halfWritable
    remembers_fresh
  refine ⟨⟨?_, ?_, ?_⟩, ?_, ?_, ?_⟩
  · rw [holder, hitems, ← load_sizeDisk 5]
    exact ((remembers_olderDisk _).load_eq .interestingItems).symm
  · rw [holder, hfilters, recalled]
  · rw [holderSaves, hannounced]
    rfl
  · rw [hempty, hitems]
    rfl
  · rw [hempty, hfilters, recalled]
  · rw [hemptySaves, hannounced]
    rfl

end FileTriage.Store
