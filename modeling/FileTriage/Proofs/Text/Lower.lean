/-
Text in lower case is in lower case.

No run of the table leads to a code point from which a run of the table starts (`lowerRuns_settled`),
nor to one of the two characters that have rules of their own.  So what any character becomes in
lower case stays as it is, whatever stands around it, and to take the lower case of a text twice is
to take it once.
-/
import FileTriage.Text.Lower

namespace FileTriage

namespace Unicode

variable {r : CaseRun} {runs : List CaseRun} {c target : Nat}

/-! ## The table -/

/-- A run leads to no code point from which one of these runs starts.  As in a look-up, those that
start above it need not be tried.  Another one starts below it; or of one range the even code points
count, and of the other the odd ones. -/
def CaseRun.isSettledIn (r : CaseRun) : List CaseRun → Bool
  | [] => true
  | q :: rest =>
    Nat.blt (r.target + (r.last - r.first)) q.first ||
      ((Nat.blt q.last r.target ||
        ((r.first = r.last || r.step = 2) && q.step = 2 && (r.target + q.first) % 2 = 1)) &&
      r.isSettledIn rest)

theorem CaseRun.forward?_eq_some_iff :
    r.forward? c = some target ↔
      (r.first ≤ c ∧ c ≤ r.last ∧ (c - r.first) % r.step = 0) ∧ c - r.first + r.target = target := by
  rw [forward?, Option.ite_none_right_eq_some, Option.some.injEq]

/-- Where a run leads that is settled in a table, the table leads nowhere else. -/
theorem CaseRun.lowerIn_of_isSettledIn (hsettled : r.isSettledIn runs = true)
    (hforward : r.forward? c = some target) : lowerIn target runs = target := by
  obtain ⟨⟨hfirst, hlast, hstep⟩, rfl⟩ := forward?_eq_some_iff.1 hforward
  induction runs with
  | nil => rfl
  | cons q runs ih =>
    simp only [isSettledIn, Bool.or_eq_true, Bool.and_eq_true, decide_eq_true_eq,
      Nat.blt_eq] at hsettled
    rw [lowerIn]
    split
    · rfl
    · next hge =>
      rcases hsettled with habove | ⟨hapart, hrest⟩
      · omega
      · have hnone : q.forward? (c - r.first + r.target) = none := by
          rw [Option.eq_none_iff_forall_ne_some]
          intro other hother
          obtain ⟨⟨hfirst', hlast', hstep'⟩, -⟩ := forward?_eq_some_iff.1 hother
          rcases hapart with hbelow | ⟨⟨hone | htwo, htwo'⟩, hodd⟩
          · omega
          · rw [htwo'] at hstep'
            omega
          · rw [htwo'] at hstep'
            rw [htwo] at hstep
            omega
        rw [hnone]
        exact ih hrest

/-- A code point has no lower case of its own, or a run leads to it. -/
theorem lowerIn_eq_self_or (c : Nat) (runs : List CaseRun) :
    lowerIn c runs = c ∨ ∃ r ∈ runs, r.forward? c = some (lowerIn c runs) := by
  induction runs with
  | nil => exact .inl rfl
  | cons r runs ih =>
    rw [lowerIn]
    split
    · exact .inl rfl
    · split
      · next target h => exact .inr ⟨r, List.mem_cons_self, h⟩
      · refine ih.imp_right ?_
        rintro ⟨q, hq, h⟩
        exact ⟨q, List.mem_cons_of_mem _ hq, h⟩

/-- The dotted capital I, of which the lower case is two characters. -/
def dottedCapital : CaseRun := ⟨0x130, 0x130, 1, 0x69⟩

/-- No run leads to where another starts. -/
theorem lowerRuns_settled :
    (lowerRuns.all fun r => r.isSettledIn lowerRuns && r.isSettledIn [dottedCapital]) = true := by
  decide +kernel

theorem lowerCase_eq_self_or (c : Nat) :
    lowerCase c = c ∨ ∃ r ∈ lowerRuns, r.forward? c = some (lowerCase c) :=
  lowerIn_eq_self_or c lowerRuns

/-- The lower case of a code point is in lower case. -/
theorem lowerCase_lowerCase (c : Nat) : lowerCase (lowerCase c) = lowerCase c := by
  rcases lowerCase_eq_self_or c with hself | ⟨r, hr, hforward⟩
  · rw [hself, hself]
  · have hsettled := List.all_eq_true.1 lowerRuns_settled r hr
    rw [Bool.and_eq_true] at hsettled
    exact CaseRun.lowerIn_of_isSettledIn hsettled.1 hforward

/-- No other code point has the dotted capital I as its lower case. -/
theorem lowerCase_ne_dottedCapital (h : c ≠ 0x130) : lowerCase c ≠ 0x130 := by
  rcases lowerCase_eq_self_or c with hself | ⟨r, hr, hforward⟩
  · rw [hself]
    exact h
  · intro heq
    rw [heq] at hforward
    have hsettled := List.all_eq_true.1 lowerRuns_settled r hr
    rw [Bool.and_eq_true] at hsettled
    have hdotted := CaseRun.lowerIn_of_isSettledIn hsettled.2 hforward
    exact absurd hdotted (by decide)

end Unicode

namespace Text

/-! ## Characters -/

/-- A character that is its own lower case, whatever stands around it. -/
structure IsLowered (c : Char) : Prop where
  ne_sigma : c ≠ 'Σ'
  ne_dotted : c ≠ 'İ'
  lowerCase_eq : Unicode.lowerCase c.toNat = c.toNat

instance (c : Char) : Decidable (IsLowered c) :=
  decidable_of_iff (c ≠ 'Σ' ∧ c ≠ 'İ' ∧ Unicode.lowerCase c.toNat = c.toNat)
    ⟨fun ⟨h₁, h₂, h₃⟩ => ⟨h₁, h₂, h₃⟩, fun ⟨h₁, h₂, h₃⟩ => ⟨h₁, h₂, h₃⟩⟩

theorem IsLowered.lowerChar_eq {c : Char} (h : IsLowered c) (before after : List Char) :
    lowerChar before c after = [c] := by
  rw [lowerChar, if_neg h.ne_sigma, if_neg h.ne_dotted, h.lowerCase_eq, Char.ofNat_toNat]

/-- The character of a code point in lower case is in lower case. -/
theorem isLowered_ofNat {n : Nat} (hself : Unicode.lowerCase n = n) (hdotted : n ≠ 0x130) :
    IsLowered (Char.ofNat n) := by
  by_cases hvalid : n.isValidChar
  · have hnat : (Char.ofNat n).toNat = n := by
      rw [Char.ofNat, dif_pos hvalid]
      rfl
    refine ⟨?_, ?_, by rw [hnat, hself]⟩
    · intro heq
      have hsigma : n = 0x3A3 := by rw [← hnat, heq]; rfl
      rw [hsigma] at hself
      exact absurd hself (by decide)
    · intro heq
      exact hdotted (by rw [← hnat, heq]; rfl)
  · -- what is no character is written as the character 0
    rw [Char.ofNat, dif_neg hvalid]
    decide

/-- What a character becomes is in lower case. -/
theorem isLowered_of_mem_lowerChar {before after : List Char} {c d : Char}
    (h : d ∈ lowerChar before c after) : IsLowered d := by
  rw [lowerChar] at h
  split at h
  · split at h
    · rw [List.mem_singleton.1 h]
      decide
    · rw [List.mem_singleton.1 h]
      decide
  · split at h
    · simp only [List.mem_cons, List.not_mem_nil, or_false] at h
      rcases h with rfl | rfl
      · decide
      · decide
    · next hdotted =>
      rw [List.mem_singleton.1 h]
      refine isLowered_ofNat (Unicode.lowerCase_lowerCase _) (Unicode.lowerCase_ne_dottedCapital ?_)
      intro heq
      exact hdotted (Char.toNat_inj.1 heq)

/-- A character becomes one character at least. -/
theorem lowerChar_ne_nil (before : List Char) (c : Char) (after : List Char) :
    lowerChar before c after ≠ [] := by
  rw [lowerChar]
  split
  · exact List.cons_ne_nil _ _
  · split
    · exact List.cons_ne_nil _ _
    · exact List.cons_ne_nil _ _

/-! ## Text -/

theorem isLowered_of_mem_lowerFrom {before text : List Char} {d : Char}
    (h : d ∈ lowerFrom before text) : IsLowered d := by
  induction text generalizing before with
  | nil => cases h
  | cons c text ih =>
    rw [lowerFrom, List.mem_append] at h
    rcases h with h | h
    · exact isLowered_of_mem_lowerChar h
    · exact ih h

theorem lowerFrom_eq_self {text : List Char} (h : ∀ c ∈ text, IsLowered c) (before : List Char) :
    lowerFrom before text = text := by
  induction text generalizing before with
  | nil => rfl
  | cons c text ih =>
    obtain ⟨hc, htext⟩ := List.forall_mem_cons.1 h
    rw [lowerFrom, hc.lowerChar_eq, ih htext, List.singleton_append]

/-- Text in lower case is its own lower case. -/
theorem lower_lower (text : String) : lower (lower text) = lower text := by
  have hlowered : ∀ c ∈ lowerFrom [] text.toList, IsLowered c := fun c =>
    isLowered_of_mem_lowerFrom
  rw [lower, lower, String.toList_ofList, lowerFrom_eq_self hlowered]

/-- Only the empty text has an empty lower case. -/
theorem lower_eq_empty_iff {text : String} : lower text = "" ↔ text = "" := by
  rw [← String.toList_eq_nil_iff, lower, String.toList_ofList, ← String.toList_eq_nil_iff]
  cases text.toList with
  | nil => exact iff_of_true rfl rfl
  | cons c rest =>
    rw [lowerFrom, List.append_eq_nil_iff]
    exact iff_of_false (fun h => lowerChar_ne_nil [] c rest h.1) (List.cons_ne_nil c rest)

end Text

end FileTriage
