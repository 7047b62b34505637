import CodeHighlight.CommandLine.Notice
import CodeHighlight.Proofs.Fault.Chain
import Mathlib.Data.List.TakeWhile

/-!
# What is listed behind a failure

The words of a failure are taken from its chain, which begins with the raised fault; the lines below
a message list the faults behind it. Both ways follow the same links, but only the chain marks the
raised fault as visited. So they agree unless the links lead back to the raised fault: then that
fault is listed as the last one behind itself.
-/

namespace CodeHighlight.Failure

open CommandLine (ReportState.causeLines)

/-- The links lead from the raised fault back to it. -/
def IsCyclic (f : Failure) : Prop := Relation.TransGen (ArisesFrom f.faults) f.raised f.raised

/-- The origin of the raised fault. -/
theorem origin_top (f : Failure) :
    f.top.origin = (f.faults[f.raised]?).bind Fault.origin := by
  cases h : f.faults[f.raised]? <;> simp [top, h, Fault.origin]

/-- The chain of a failure in the store is the raised fault and what follows it. -/
theorem chainPlaces_eq (f : Failure) (h : f.raised < f.faults.length) :
    f.chainPlaces = f.raised :: follow f.faults [f.raised] f.top.origin := by
  rw [chainPlaces, follow_of_unvisited f.faults [] f.raised h List.not_mem_nil, origin_top]

private theorem places_of_length_le (f : Failure) (h : f.faults.length ≤ f.raised) :
    f.chainPlaces = [] ∧ f.originPlaces = [] := by
  constructor
  · exact follow_of_length_le f.faults [] f.raised h
  · rw [originPlaces, origin_top, List.getElem?_eq_none h, Option.bind_none, follow_none]

/-- The raised fault stands behind itself if and only if the links lead back to it. -/
theorem raised_mem_originPlaces_iff (f : Failure) : f.raised ∈ f.originPlaces ↔ f.IsCyclic := by
  rw [originPlaces, origin_top, IsCyclic, Relation.TransGen.head'_iff]
  constructor
  · intro hmem
    obtain ⟨origin, horigin, hin, hreach⟩ := exists_of_mem_follow _ _ _ _ hmem
    exact ⟨origin, ⟨hin, horigin⟩, hreach⟩
  · rintro ⟨origin, ⟨hin, horigin⟩, hreach⟩
    rw [horigin]
    exact (mem_follow_iff f.faults origin f.raised hin).mpr hreach

/-- What follows the raised fault in the chain is what stands behind it up to its own return. -/
theorem tail_chainPlaces (f : Failure) :
    f.chainPlaces.tail = f.originPlaces.takeWhile (· ≠ f.raised) := by
  rcases Nat.lt_or_ge f.raised f.faults.length with h | h
  · rw [chainPlaces_eq f h, List.tail_cons, follow_cons, originPlaces]
  · rw [(places_of_length_le f h).1, (places_of_length_le f h).2]
    rfl

/-- Where the links lead back to the raised fault, it is the last one behind itself. -/
theorem originPlaces_of_isCyclic (f : Failure) (h : f.IsCyclic) :
    f.originPlaces = f.chainPlaces.tail ++ [f.raised] := by
  have hmem := f.raised_mem_originPlaces_iff.mpr h
  obtain ⟨origin, horigin, -, -⟩ := exists_of_mem_follow _ _ _ _ hmem
  have hlast := dropWhile_follow f.faults [] f.top.origin f.raised origin
    (f.origin_top ▸ horigin) (.inr horigin) hmem
  rw [tail_chainPlaces, ← hlast]
  exact List.takeWhile_append_dropWhile.symm

/-- Where they do not, what follows it in the chain stands behind it. -/
theorem originPlaces_of_not_isCyclic (f : Failure) (h : ¬f.IsCyclic) :
    f.originPlaces = f.chainPlaces.tail := by
  rw [tail_chainPlaces, eq_comm, List.takeWhile_eq_self_iff]
  intro q hq
  apply decide_eq_true
  rintro rfl
  exact h (f.raised_mem_originPlaces_iff.mp hq)

/-- Places in a store hold faults. -/
theorem exists_faults (faults : List Fault) (places : List Nat)
    (h : ∀ q ∈ places, q < faults.length) : ∃ found : List Fault,
      places.map (faults[·]?) = found.map some ∧ places.filterMap (faults[·]?) = found := by
  refine ⟨places.filterMap (faults[·]?), ?_, rfl⟩
  induction places with
  | nil => rfl
  | cons place rest ih =>
    have hplace := List.getElem?_eq_getElem (h place List.mem_cons_self)
    rw [List.map_cons, List.filterMap_cons_some hplace, List.map_cons, hplace,
      ih fun q hq => h q (List.mem_cons_of_mem _ hq)]

/-- The line for a fault behind another one. -/
def causeLine (fault : Fault) : String := "  " ++ fault.kind.name ++ ": " ++ fault.message

/-- How the faults that are listed behind a failure compare with its chain. -/
structure ListsOrigins (f : Failure) : Prop where
  /-- The chain begins with the raised fault. -/
  head : f.raised < f.faults.length → f.chainPlaces.head? = some f.raised
  /-- Unless the links lead back to the raised fault, what follows it in the chain is listed. -/
  straight : ¬f.IsCyclic → f.originPlaces = f.chainPlaces.tail
  /-- If they do, the raised fault is listed as well, at the end. -/
  cyclic : f.IsCyclic → f.originPlaces = f.chainPlaces.tail ++ [f.raised]
  /-- A fault is listed behind itself if and only if the links lead back to it. -/
  own : f.raised ∈ f.originPlaces ↔ f.IsCyclic
  /-- Nothing is listed twice. -/
  once : f.originPlaces.Nodup
  /-- Each place that is listed has a fault, and one line; a heading stands above the lines. -/
  lines : ∃ faults : List Fault, f.originPlaces.map (f.faults[·]?) = faults.map some ∧
    ReportState.causeLines f =
      if faults = [] then [] else "caused by:" :: faults.map causeLine

/-- Whatever the links are, the faults listed behind a failure are those that follow the raised
fault in its chain, and the raised fault itself where the links lead back to it. -/
theorem lists_origins (f : Failure) : f.ListsOrigins where
  head h := by rw [chainPlaces_eq f h, List.head?_cons]
  straight := f.originPlaces_of_not_isCyclic
  cyclic := f.originPlaces_of_isCyclic
  own := f.raised_mem_originPlaces_iff
  once := nodup_follow f.faults [] f.top.origin
  lines := by
    obtain ⟨found, hplaces, hfound⟩ := exists_faults f.faults f.originPlaces fun q hq =>
      (of_mem_follow f.faults [] f.top.origin q hq).1
    refine ⟨found, hplaces, ?_⟩
    rw [ReportState.causeLines, origins, hfound]
    cases found <;> rfl

/-- A failure whose cause arose while the failure itself was handled. -/
def looped : Failure where
  faults := [{ kind := .render, message := "bad", cause := some 1 },
    { kind := .badValue, message := "v", context := some 0 }]

/-- A failure that its links lead back to is listed as one of its own causes. -/
theorem lists_looped : looped.raised ∈ looped.originPlaces ∧
    looped.chainPlaces = [0, 1] ∧ looped.originPlaces = [1, 0] ∧
    ReportState.causeLines looped = ["caused by:", "  ValueError: v", "  RenderError: bad"] := by
  have hchain : looped.chainPlaces = [0, 1] := by
    simp [chainPlaces, looped, follow, Fault.origin]
  have horigins : looped.originPlaces = [1, 0] := by
    simp [originPlaces, looped, top, follow, Fault.origin]
  refine ⟨?_, hchain, horigins, ?_⟩
  · rw [horigins]
    decide
  · rw [ReportState.causeLines, origins, horigins]
    decide

end CodeHighlight.Failure
