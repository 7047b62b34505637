import CodeHighlight.Proofs.Document.Graph
import CodeHighlight.Proofs.Loop

/-!
# Traversals

A document without cycles is traversed with a list of the visits that are due: the first one is
made, and its children become due before all others. What is still to be reported is at any time
the preorder of the objects due, one after the other; it gets shorter with every visit, so the
traversal ends with the preorder of the recursion. Read as ways of child indices, the visits are all
ways into the document, each once and in lexicographic order.
-/

namespace CodeHighlight

/-! ## Ways down a tree of places -/

namespace Occurrence

mutual

/-- The ways down a tree as the indices of the children taken, in preorder. -/
def ways : Occurrence → List (List Nat)
  | mk _ cs => [] :: waysAll 0 cs

/-- The ways into the children from `index` on. -/
def waysAll (index : Nat) : List Occurrence → List (List Nat)
  | [] => []
  | o :: rest => (ways o).map (index :: ·) ++ waysAll (index + 1) rest

end

/-- What a way down a tree leads to; the tree itself stands in `slot`. -/
def visitAlong (slot : Option Slot) : Occurrence → List Nat → Option Visit
  | mk n _, [] => some ⟨n, slot⟩
  | mk n cs, i :: way => cs[i]?.bind fun o => visitAlong (some ⟨n, i⟩) o way

/-- A way into the children leads into one of them. -/
theorem mem_waysAll (index : Nat) (cs : List Occurrence) (way : List Nat) :
    way ∈ waysAll index cs ↔ ∃ i o more, cs[i]? = some o ∧ more ∈ ways o ∧
      way = (index + i) :: more := by
  induction cs generalizing index with
  | nil => simp [waysAll]
  | cons o rest ih =>
    rw [waysAll, List.mem_append, List.mem_map, ih]
    constructor
    · rintro (⟨more, hmore, rfl⟩ | ⟨i, o', more, ho, hmore, rfl⟩)
      · exact ⟨0, o, more, rfl, hmore, rfl⟩
      · refine ⟨i + 1, o', more, ho, hmore, ?_⟩
        rw [Nat.add_comm i 1, ← Nat.add_assoc]
    · rintro ⟨i, o', more, ho, hmore, rfl⟩
      cases i with
      | zero =>
        rw [List.getElem?_cons_zero, Option.some.injEq] at ho
        subst o'
        exact .inl ⟨more, hmore, rfl⟩
      | succ i =>
        refine .inr ⟨i, o', more, ho, hmore, ?_⟩
        rw [Nat.add_comm i 1, ← Nat.add_assoc]

mutual

/-- The ways down a tree are in lexicographic order. -/
theorem pairwise_ways (o : Occurrence) : (ways o).Pairwise (· < ·) := by
  cases o with
  | mk n cs =>
    rw [ways, List.pairwise_cons]
    refine ⟨fun way hway => ?_, pairwise_waysAll 0 cs⟩
    obtain ⟨i, o, more, -, -, rfl⟩ := (mem_waysAll 0 cs way).mp hway
    exact List.nil_lt_cons _ _

/-- So are the ways into the children. -/
theorem pairwise_waysAll (index : Nat) (cs : List Occurrence) :
    (waysAll index cs).Pairwise (· < ·) := by
  cases cs with
  | nil => exact List.Pairwise.nil
  | cons o rest =>
    rw [waysAll, List.pairwise_append, List.pairwise_map]
    refine ⟨?_, pairwise_waysAll (index + 1) rest, ?_⟩
    · exact (pairwise_ways o).imp fun h => List.cons_lt_cons_iff.mpr (.inr ⟨rfl, h⟩)
    · intro way hway way' hway'
      obtain ⟨more, -, rfl⟩ := List.mem_map.mp hway
      obtain ⟨i, o', more', -, -, rfl⟩ := (mem_waysAll (index + 1) rest way').mp hway'
      exact List.cons_lt_cons_iff.mpr (.inl (by omega))

end

mutual

/-- The visits of a tree are what its ways lead to. -/
theorem map_visitAlong_ways (slot : Option Slot) (o : Occurrence) :
    (ways o).map (visitAlong slot o) = (preorder slot o).map some := by
  cases o with
  | mk n cs =>
    rw [ways, preorder, List.map_cons, List.map_cons, visitAlong,
      ← map_visitAlong_waysAll n 0 cs cs fun i => by rw [Nat.zero_add]]

/-- So are the visits of the children from an index on. -/
theorem map_visitAlong_waysAll (parent : NodeId) (index : Nat) (rest : List Occurrence)
    (all : List Occurrence) (hrest : ∀ i, all[index + i]? = rest[i]?) (slot : Option Slot) :
    (waysAll index rest).map (visitAlong slot (mk parent all)) =
      (preorderAll parent index rest).map some := by
  cases rest with
  | nil => rfl
  | cons o rest =>
    have hfirst : all[index]? = some o := hrest 0
    have hways : (visitAlong slot (mk parent all)) ∘ (index :: ·) =
        visitAlong (some ⟨parent, index⟩) o := by
      funext way
      rw [Function.comp_apply, visitAlong, hfirst, Option.bind_some]
    have hmore : ∀ i, all[index + 1 + i]? = rest[i]? := by
      intro i
      rw [Nat.add_assoc, Nat.add_comm 1 i]
      exact hrest (i + 1)
    rw [waysAll, preorderAll, List.map_append, List.map_append, List.map_map, hways,
      map_visitAlong_ways, map_visitAlong_waysAll parent (index + 1) rest all hmore]

end

/-- Every way that leads somewhere is among the ways down the tree. -/
theorem mem_ways_of_isSome (slot : Option Slot) (o : Occurrence) (way : List Nat)
    (h : (visitAlong slot o way).isSome) : way ∈ ways o := by
  induction way generalizing slot o with
  | nil =>
    cases o with
    | mk n cs => exact List.mem_cons_self
  | cons i way ih =>
    cases o with
    | mk n cs =>
      rw [visitAlong] at h
      cases hi : cs[i]? with
      | none => simp [hi] at h
      | some o =>
        rw [hi, Option.bind_some] at h
        rw [ways, List.mem_cons, mem_waysAll]
        exact .inr ⟨i, o, way, hi, ih _ o h, by rw [Nat.zero_add]⟩

end Occurrence

/-! ## The preorder of a store -/

namespace Store

/-- The children of an object, each with the slot that it stands in. -/
def childVisits (s : Store) (n : NodeId) : List Visit :=
  (s.childIds n).zipIdx.map fun p => ⟨p.1, some ⟨n, p.2⟩⟩

/-- A visit and all visits below its object. -/
def visitsFrom (s : Store) (v : Visit) : List Visit := Occurrence.preorder v.slot (s.unfold v.node)

/-- What a way of child indices leads to from a visit. -/
def visitAlong (s : Store) (v : Visit) : List Nat → Option Visit
  | [] => some v
  | i :: way => (s.childVisits v.node)[i]?.bind fun child => s.visitAlong child way

/-- The visits of a document are those from its topmost object, which has no slot. -/
theorem visits_eq_visitsFrom (s : Store) (root : NodeId) :
    s.visits root = s.visitsFrom ⟨root, none⟩ := by
  rw [visits, Occurrence.visits_eq_preorder, visitsFrom]

private theorem preorderAll_map (s : Store) (parent : NodeId) (index : Nat) (ids : List NodeId) :
    Occurrence.preorderAll parent index (ids.map s.unfold) =
      ((ids.zipIdx index).map fun p => (⟨p.1, some ⟨parent, p.2⟩⟩ : Visit)).flatMap
        s.visitsFrom := by
  induction ids generalizing index with
  | nil => rfl
  | cons c rest ih =>
    rw [List.map_cons, Occurrence.preorderAll, ih, List.zipIdx_cons, List.map_cons,
      List.flatMap_cons, visitsFrom]

/-- An object is visited before its children, and each child with all that lies below it before the
next one. -/
theorem visitsFrom_eq (s : Store) (root : NodeId) (h : s.IsAcyclic root) (v : Visit)
    (hv : s.Below root v.node) :
    s.visitsFrom v = v :: (s.childVisits v.node).flatMap s.visitsFrom := by
  rw [visitsFrom, h.unfold_eq s root v.node hv, Occurrence.preorder, preorderAll_map, childVisits]

/-- The children of an object lie below it. -/
theorem below_of_mem_childVisits (s : Store) (root n : NodeId) (hn : s.Below root n) (v : Visit)
    (hv : v ∈ s.childVisits n) : s.Below root v.node := by
  obtain ⟨⟨c, i⟩, hc, rfl⟩ := List.mem_map.mp hv
  exact hn.tail (List.mem_of_getElem? (List.mk_mem_zipIdx_iff_getElem?.mp hc))

/-- Behind the first visit every visit is one of a slot below, and the visited object stands
there. -/
theorem slot_of_mem_tail (s : Store) (root : NodeId) (h : s.IsAcyclic root) (v : Visit)
    (hv : v ∈ (s.visits root).tail) : ∃ slot, v.slot = some slot ∧ s.Below root slot.parent ∧
      (s.childIds slot.parent)[slot.index]? = some v.node := by
  rw [visits_eq_visitsFrom, s.visitsFrom_eq root h _ .refl, List.tail_cons, List.mem_flatMap] at hv
  obtain ⟨child, hchild, hv⟩ := hv
  obtain ⟨⟨c, i⟩, hc, rfl⟩ := List.mem_map.mp hchild
  have hc := List.mk_mem_zipIdx_iff_getElem?.mp hc
  rcases s.slot_of_mem_preorder _ c _ v hv with rfl | ⟨slot, hslot, hbelow, hstands⟩
  · exact ⟨⟨root, i⟩, rfl, .refl, hc⟩
  · exact ⟨slot, hslot, .head (List.mem_of_getElem? hc) hbelow, hstands⟩

private theorem visitAlong_unfold (s : Store) (root : NodeId) (h : s.IsAcyclic root) (v : Visit)
    (hv : s.Below root v.node) (way : List Nat) :
    Occurrence.visitAlong v.slot (s.unfold v.node) way = s.visitAlong v way := by
  induction way generalizing v with
  | nil => rw [h.unfold_eq s root v.node hv, Occurrence.visitAlong, visitAlong]
  | cons i way ih =>
    rw [h.unfold_eq s root v.node hv, Occurrence.visitAlong, visitAlong, childVisits,
      List.getElem?_map, List.getElem?_map, List.getElem?_zipIdx]
    cases hc : (s.childIds v.node)[i]? with
    | none => rfl
    | some c =>
      have hbelow := hv.tail (List.mem_of_getElem? hc)
      simpa using ih ⟨c, some ⟨v.node, i⟩⟩ hbelow

/-- Every way into a document without cycles leads to one visit; the visits are in the
lexicographic order of the ways. -/
theorem exists_ways (s : Store) (root : NodeId) (h : s.IsAcyclic root) :
    ∃ ways : List (List Nat), ways.Pairwise (· < ·) ∧
      (∀ way, way ∈ ways ↔ (s.visitAlong ⟨root, none⟩ way).isSome) ∧
      ways.map (s.visitAlong ⟨root, none⟩) = (s.visits root).map some := by
  have halong := s.visitAlong_unfold root h ⟨root, none⟩ .refl
  have hmap := Occurrence.map_visitAlong_ways none (s.unfold root)
  rw [funext halong] at hmap
  refine ⟨(s.unfold root).ways, (s.unfold root).pairwise_ways, fun way => ⟨fun hway => ?_, ?_⟩, ?_⟩
  · have hmem := List.mem_map_of_mem (f := s.visitAlong ⟨root, none⟩) hway
    rw [hmap] at hmem
    obtain ⟨v, -, hv⟩ := List.mem_map.mp hmem
    rw [← hv, Option.isSome_some]
  · intro hsome
    rw [← halong] at hsome
    exact Occurrence.mem_ways_of_isSome none (s.unfold root) way hsome
  · rw [hmap, visits_eq_visitsFrom, visitsFrom]

end Store

/-! ## The loop -/

/-- The state of a traversal: the visits that are due, the next one first, and those reported. -/
structure Traversal where
  due : List Visit
  reported : List Visit := []

namespace Store

/-- The object of a visit is of the wanted kind, or any kind is. -/
def isWanted (s : Store) (kind : Option String) (v : Visit) : Bool :=
  kind.all fun kind => (s.get v.node).kind = kind

/-- A round of a traversal: the next visit is reported if its object is of the wanted kind, and the
children of the object are put before all that is due, the last one first. -/
def next? (s : Store) (kind : Option String) (t : Traversal) : Option Traversal :=
  match t.due with
  | [] => none
  | v :: due => some {
      due := (s.childVisits v.node).foldr List.cons due
      reported := t.reported ++ if s.isWanted kind v then [v] else [] }

/-- What is still to be visited. -/
def remaining (s : Store) (due : List Visit) : List Visit := due.flatMap s.visitsFrom

private theorem remaining_cons (s : Store) (root : NodeId) (h : s.IsAcyclic root) (v : Visit)
    (due : List Visit) (hv : s.Below root v.node) :
    s.remaining (v :: due) = v :: s.remaining ((s.childVisits v.node).foldr List.cons due) := by
  rw [remaining, remaining, List.flatMap_cons, s.visitsFrom_eq root h v hv,
    List.foldr_cons_eq_append', List.flatMap_append, List.cons_append]

/-- What rounds keep: all that is due lies in the document, and the visits reported together with
the wanted ones that remain are the wanted visits of the document. -/
structure OnTheWay (s : Store) (root : NodeId) (kind : Option String) (t : Traversal) : Prop where
  below : ∀ v ∈ t.due, s.Below root v.node
  wanted : t.reported ++ (s.remaining t.due).filter (s.isWanted kind) =
    (s.visits root).filter (s.isWanted kind)

/-- A round keeps this, and one visit less remains. -/
theorem OnTheWay.round (s : Store) (root : NodeId) (h : s.IsAcyclic root) (kind : Option String)
    (t t' : Traversal) (ht : s.OnTheWay root kind t) (hround : s.next? kind t = some t') :
    s.OnTheWay root kind t' ∧ (s.remaining t'.due).length < (s.remaining t.due).length := by
  obtain ⟨due, reported⟩ := t
  cases due with
  | nil => cases hround
  | cons v due =>
    have hv := ht.below v List.mem_cons_self
    have hremaining := s.remaining_cons root h v due hv
    rw [next?, Option.some.injEq] at hround
    subst t'
    refine ⟨⟨?_, ?_⟩, ?_⟩
    · intro w hw
      rw [List.foldr_cons_eq_append', List.mem_append] at hw
      rcases hw with hw | hw
      · exact s.below_of_mem_childVisits root v.node hv w hw
      · exact ht.below w (List.mem_cons_of_mem _ hw)
    · have hwanted := ht.wanted
      rw [hremaining, List.filter_cons] at hwanted
      rw [← hwanted, List.append_assoc]
      split <;> rfl
    · rw [hremaining, List.length_cons]
      exact Nat.lt_succ_self _

/-- A traversal of a document without cycles ends, in one state only: nothing is due, and the visits
of the wanted kind are reported. -/
theorem endsIn_next_iff (s : Store) (root : NodeId) (h : s.IsAcyclic root) (kind : Option String)
    (last : Traversal) : EndsIn (s.next? kind) ⟨[⟨root, none⟩], []⟩ last ↔
      last = ⟨[], (s.visits root).filter (s.isWanted kind)⟩ := by
  have hstart : s.OnTheWay root kind ⟨[⟨root, none⟩], []⟩ := by
    constructor
    · intro v hv
      rw [List.mem_singleton.mp hv]
    · rw [remaining, List.flatMap_singleton, visits_eq_visitsFrom, List.nil_append]
  obtain ⟨⟨due, reported⟩, hends, hlast⟩ := exists_endsIn (s.next? kind) (s.OnTheWay root kind)
    (fun t => (s.remaining t.due).length) (OnTheWay.round s root h kind) _ hstart
  have hdue : due = [] := by
    cases due with
    | nil => rfl
    | cons v due => cases hends.round_last
  subst hdue
  have hwanted := hlast.wanted
  rw [remaining, List.flatMap_nil, List.filter_nil, List.append_nil] at hwanted
  rw [← hwanted]
  constructor
  · exact hends.unique _ _ _ _
  · rintro rfl
    exact hends

end Store

end CodeHighlight
