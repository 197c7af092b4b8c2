/-
What a start of the program does to the store.

A start reads the store, reconciles it with the shipped sets, and writes it back exactly if that has
changed something.  What has been written is read back, so the next start finds the store up to
date.  A store that cannot be read and definitions that cannot be written leave everything as it is.
-/
import FileTriage.Proofs.Definitions.Importing
import FileTriage.Proofs.Definitions.ShippedDocument

namespace FileTriage

open Definitions (reconcile)

namespace Manager

variable {m : Manager} {state : Store.State} {user : Definitions}

/-! ## The cases of a start -/

theorem reconcileOnStartup_of_error {e : StoreError}
    (h : m.interestingSets state.disk = .error e) :
    m.reconcileOnStartup state =
      (.ok (reconcile (m.standardSets state.disk) .empty).report, state) := by
  rw [reconcileOnStartup, h]

/-- A start that finds the store up to date leaves everything as it is. -/
theorem reconcileOnStartup_of_empty (h : m.interestingSets state.disk = .ok user)
    (hempty : (reconcile (m.standardSets state.disk) user).report = {}) :
    m.reconcileOnStartup state = (.ok {}, state) := by
  rw [reconcileOnStartup, h]
  simp only [hempty]
  rfl

/-- A start that changes something saves the result. -/
theorem reconcileOnStartup_of_changed {saved : Except StoreError Unit} {after : Store.State}
    (h : m.interestingSets state.disk = .ok user)
    (hchanged : (reconcile (m.standardSets state.disk) user).report ≠ {})
    (hsave : m.store.save state .interestingItems
      (reconcile (m.standardSets state.disk) user).sets = (saved, after)) :
    m.reconcileOnStartup state =
      (saved.map fun () => (reconcile (m.standardSets state.disk) user).report, after) := by
  have hnot : ¬ (reconcile (m.standardSets state.disk) user).report.isEmpty = true :=
    fun hempty => hchanged (Definitions.Report.isEmpty_iff.1 hempty)
  rw [reconcileOnStartup, h]
  simp only
  rw [if_neg hnot, saveInterestingSets, hsave]

/-- The program with a store that is not there yet. -/
def fresh : Manager := ⟨.fresh, none⟩

theorem interestingSets_fresh : fresh.interestingSets {} = .ok .empty :=
  Store.remembers_fresh.load_eq .interestingItems

end Manager

end FileTriage
