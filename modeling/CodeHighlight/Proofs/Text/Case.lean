import CodeHighlight.Text.Case

/-!
# Small letters stay small

No small form is itself the large form of another character: the runs of the table lead past each
other, some of them between the members of a run that takes every second letter. So a text in small
letters stays as it is, final sigmas included, since only capital sigmas look at their neighbours.
-/

namespace CodeHighlight.Text

namespace CaseRun

/-- The images of `r` lie before `r'`, or behind it, or between its members. -/
def misses (r r' : CaseRun) : Bool :=
  let low := (r.first + r.shift).toNat
  let high := (r.last + r.shift).toNat
  high.blt r'.first || r'.last.blt low ||
    (r'.step == 2 && (r.step == 2 || r.first == r.last) && (low + r'.first) % 2 == 1)

private theorem image?_of_misses (r r' : CaseRun) (hlow : 0 ≤ r.first + r.shift)
    (h : r.misses r' = true) (n m : Nat) (hm : r.image? n = some m) : r'.image? m = none := by
  rw [image?] at hm
  split at hm
  · rename_i hn
    obtain ⟨hfirst, hlast, hstep⟩ := hn
    rw [Option.some.injEq] at hm
    simp only [misses, Bool.or_eq_true, Bool.and_eq_true, Nat.blt_eq, beq_iff_eq] at h
    rw [image?, if_neg]
    rintro ⟨hfirst', hlast', hstep'⟩
    rcases h with (hbefore | hbehind) | ⟨⟨htwo', htwo⟩, hodd⟩
    · omega
    · omega
    · rw [htwo'] at hstep'
      rcases htwo with htwo | hone
      · rw [htwo] at hstep
        omega
      · omega
  · cases hm

end CaseRun

private theorem misses_smallRuns : ∀ r ∈ smallRuns, 0 ≤ r.first + r.shift ∧
    smallRuns.all r.misses = true := by decide +kernel

private theorem misses_dotted : ∀ r ∈ smallRuns, r.misses ⟨'İ'.toNat, 'İ'.toNat, 1, 0⟩ = true := by
  decide +kernel

/-- A character without another small form. -/
def IsSmall (c : Char) : Prop := c ≠ 'İ' ∧ caseImage? smallRuns c = none

instance (c : Char) : Decidable (IsSmall c) := inferInstanceAs (Decidable (_ ∧ _))

private theorem IsSmall.ne_sigma (c : Char) (h : IsSmall c) : c ≠ 'Σ' := by
  rintro rfl
  revert h
  decide +kernel

private theorem caseImage?_eq_none (runs : List CaseRun) (c : Char)
    (h : ∀ r ∈ runs, r.image? c.toNat = none) : caseImage? runs c = none := by
  rw [caseImage?, List.findSome?_eq_none_iff.mpr h, Option.map_none]

private theorem isSmall_of_image (c d : Char) (h : caseImage? smallRuns c = some d) :
    IsSmall d := by
  obtain ⟨m, hm, rfl⟩ := Option.map_eq_some_iff.mp h
  obtain ⟨r, hr, himage⟩ := List.exists_of_findSome?_eq_some hm
  obtain ⟨hlow, hmisses⟩ := misses_smallRuns r hr
  by_cases hv : m.isValidChar
  · have hd : (Char.ofNat m).toNat = m := by
      rw [Char.ofNat, dif_pos hv]
      rfl
    constructor
    · intro he
      have hnone := CaseRun.image?_of_misses r _ hlow (misses_dotted r hr) _ m himage
      rw [← hd, he] at hnone
      revert hnone
      decide
    · apply caseImage?_eq_none
      intro r' hr'
      rw [hd]
      exact CaseRun.image?_of_misses r r' hlow (List.all_eq_true.mp hmisses r' hr') _ m himage
  · -- Numbers of no character stand for the null character.
    have hd : Char.ofNat m = '\x00' := by
      rw [Char.ofNat, dif_neg hv]
      rfl
    rw [hd]
    decide +kernel

/-- What stands in small letters is small. -/
theorem isSmall_of_mem_lowerFrom (before text : List Char) (d : Char)
    (h : d ∈ lowerFrom before text) : IsSmall d := by
  induction text generalizing before with
  | nil => cases h
  | cons c rest ih =>
    rw [lowerFrom, List.mem_append] at h
    rcases h with h | h
    · split at h
      · split at h
        · rw [List.mem_singleton.mp h]
          decide +kernel
        · rw [List.mem_singleton.mp h]
          decide +kernel
      · split at h
        · rcases List.mem_cons.mp h with rfl | h
          · decide +kernel
          · rw [List.mem_singleton.mp h]
            decide +kernel
        · rename_i hdotted
          rw [List.mem_singleton.mp h]
          cases hc : caseImage? smallRuns c with
          | none => exact ⟨hdotted, hc⟩
          | some image => exact isSmall_of_image c image hc
    · exact ih _ h

/-- A text of small characters stays. -/
theorem lowerFrom_of_small (before text : List Char) (h : ∀ c ∈ text, IsSmall c) :
    lowerFrom before text = text := by
  induction text generalizing before with
  | nil => rfl
  | cons c rest ih =>
    obtain ⟨hdotted, hnone⟩ := h c List.mem_cons_self
    have hsigma := IsSmall.ne_sigma c ⟨hdotted, hnone⟩
    rw [lowerFrom, if_neg hsigma, if_neg hdotted, hnone,
      ih _ fun d hd => h d (List.mem_cons_of_mem _ hd)]
    rfl

/-- A text in small letters is its own small form. -/
theorem lower_lower (text : List Char) : lower (lower text) = lower text :=
  lowerFrom_of_small [] _ fun c hc => isSmall_of_mem_lowerFrom [] text c hc

/-- A string in small letters is its own small form. -/
theorem lowered_lowered (text : String) : lowered (lowered text) = lowered text := by
  rw [lowered, lowered, String.toList_ofList, lower_lower]

end CodeHighlight.Text
