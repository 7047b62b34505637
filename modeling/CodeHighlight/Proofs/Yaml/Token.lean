import CodeHighlight.Proofs.Yaml.Keeps
import CodeHighlight.Yaml.Token.Reader

/-!
# Faults of tokens

What a text can say against itself while its tokens are read: that it is malformed, that an escape
stands for no character, or that a version has too many digits.
-/

namespace CodeHighlight.Yaml

/-- The faults that show while tokens are read. -/
inductive Fault.IsLexical : Fault → Prop where
  | malformed : IsLexical .malformed
  | noCharacter : IsLexical .noCharacter
  | hugeCharacter : IsLexical .hugeCharacter
  | tooLong (digits : Nat) : IsLexical (.numeral (.tooLong digits))

/-- The token says why a text cannot be read. -/
def Token.isBroken : Token → Bool
  | .broken _ => true
  | _ => false

/-- No token is a broken one. -/
def Unbroken (tokens : List Token) : Prop := ∀ token ∈ tokens, token.isBroken = false

theorem unbroken_nil : Unbroken [] := fun _ hmem => absurd hmem List.not_mem_nil

theorem unbroken_single (token : Token) (h : token.isBroken = false) : Unbroken [token] :=
  List.forall_mem_singleton.mpr h

theorem Unbroken.not_mem (tokens : List Token) (h : Unbroken tokens) (fault : Fault) :
    .broken fault ∉ tokens :=
  fun hmem => Bool.noConfusion (h _ hmem)

/-! ## Quoted scalars -/

namespace Quoted

/-- A reading of a scalar fails lexically only. -/
def IsLexical (reading : Reading) : Prop := ∀ fault, reading = .error fault → fault.IsLexical

private theorem isLexical_ok (result : List Char × List Char) : IsLexical (.ok result) :=
  fun _ h => nomatch h

private theorem isLexical_malformed : IsLexical (.error .malformed) := by
  rintro _ ⟨⟩
  exact .malformed

private theorem isLexical_before (front : List Char) (reading : Reading) (h : IsLexical reading) :
    IsLexical (before front reading) := by
  intro fault hfault
  cases reading with
  | ok result => cases hfault
  | error other => exact h fault (congrArg _ (Except.error.inj hfault))

theorem isLexical_readSingle (held : Held) (text : List Char) :
    IsLexical (readSingle held text) := by
  fun_induction readSingle held text with
  | case1 => exact isLexical_malformed
  | case2 held rest ih => exact isLexical_before _ _ ih
  | case3 held rest h => exact isLexical_ok _
  | case4 held rest h => exact isLexical_malformed
  | case5 held rest h ih => exact ih
  | case6 held c rest _ _ _ _ ih => exact ih
  | case7 held c rest _ _ _ _ ih => exact isLexical_before _ _ ih

/-- A number that no character has is said to be one. -/
theorem character_error (code : Nat) (fault : Fault) (h : character code = .error fault) :
    fault.IsLexical := by
  unfold character at h
  split at h
  · cases h
    exact .hugeCharacter
  · split at h
    · cases h
      exact .noCharacter
    · cases h

theorem isLexical_readDouble (expecting : Expecting) (text : List Char) :
    IsLexical (readDouble expecting text) := by
  fun_induction readDouble expecting text
  case case15 fault hcharacter =>
    rintro _ ⟨⟩
    exact character_error _ _ hcharacter
  all_goals first
    | exact isLexical_malformed
    | exact isLexical_ok _
    | exact isLexical_before _ _ ‹_›
    | assumption

end Quoted

/-! ## Anchors, tags and directives -/

namespace Property

/-- The token that was found, if one was, is no broken one. -/
def IsWhole : Option (Token × List Char) → Prop
  | some (token, _) => token.isBroken = false
  | none => True

/-- A reading gives a token that is no broken one, or fails lexically. -/
def IsSound : Reading → Prop
  | .ok (token, _) => token.isBroken = false
  | .error fault => fault.IsLexical

private theorem isWhole_bind {α : Type} (found : Option α)
    (k : α → Option (Token × List Char)) (hk : ∀ a, IsWhole (k a)) : IsWhole (found >>= k) := by
  cases found with
  | none => trivial
  | some a => exact hk a

private theorem isSound_bind {α : Type} (reading : Except Fault α) (k : α → Reading)
    (hreading : ∀ fault, reading = .error fault → fault.IsLexical) (hk : ∀ a, IsSound (k a)) :
    IsSound (reading >>= k) := by
  cases reading with
  | error fault => exact hreading fault rfl
  | ok a => exact hk a

private theorem isSound_andThen (reading : Reading) (k : Token × List Char → Reading)
    (hreading : IsSound reading)
    (hk : ∀ token rest, (token.isBroken = false) → IsSound (k (token, rest))) :
    IsSound (reading >>= k) := by
  cases reading with
  | error fault => exact hreading
  | ok result => exact hk result.1 result.2 hreading

private theorem isSound_elim (found : Option (Token × List Char)) (h : IsWhole found) :
    IsSound (found.elim (.error .malformed) .ok) := by
  cases found with
  | none => exact .malformed
  | some result => exact h

private theorem isSound_malformed : IsSound (.error .malformed) := .malformed

theorem isSound_readName (make : String → Token) (hmake : ∀ name, (make name).isBroken = false)
    (text : List Char) : IsSound (readName make text) := by
  unfold readName
  split
  · exact isSound_malformed
  · split
    · exact hmake _
    · exact isSound_malformed

private theorem isWhole_tag? (text : List Char) : IsWhole (tag? text) := by
  unfold tag?
  extract_lets behind
  have hbehind (handle : Option String) (suffix : String) (rest : List Char) :
      IsWhole (behind (.tag handle suffix, rest)) := by
    unfold behind
    dsimp only
    split
    · exact rfl
    · trivial
  split
  · refine isWhole_bind _ _ fun (suffix, rest) => ?_
    dsimp only
    split
    · exact hbehind none suffix _
    · trivial
  · split
    · exact hbehind none "!" _
    · split
      · exact isWhole_bind _ _ fun (handle, rest) => isWhole_bind _ _ fun (suffix, rest) =>
          hbehind (some handle) suffix rest
      · exact isWhole_bind _ _ fun (suffix, rest) => hbehind (some "!") suffix rest

theorem isSound_readTag (text : List Char) : IsSound (readTag text) :=
  isSound_elim _ (isWhole_tag? text)

private theorem isWhole_handleStem? (text : List Char) : IsWhole (handleStem? text) := by
  refine isWhole_bind _ _ fun (name, rest) => ?_
  dsimp -zeta only
  extract_lets behind
  have hbehind (u : Unit) : IsWhole (behind u) := by
    refine isWhole_bind _ _ fun (stem, rest) => ?_
    dsimp only
    split
    · exact rfl
    · trivial
  split
  · trivial
  · exact hbehind ()

private theorem number_error (text : List Char) (fault : Fault) (h : number text = .error fault) :
    fault.IsLexical := by
  unfold number at h
  dsimp only at h
  split at h
  · cases h
    exact .malformed
  · split at h
    · cases h
    · cases h
      exact .tooLong _

private theorem isSound_version (text : List Char) : IsSound (version text) := by
  refine isSound_bind _ _ (number_error _) fun (major, rest) => ?_
  dsimp only
  split
  · refine isSound_bind _ _ (number_error _) fun (minor, rest) => ?_
    dsimp only
    split
    · exact rfl
    · exact isSound_malformed
  · exact isSound_malformed

theorem isSound_readDirective (text : List Char) : IsSound (readDirective text) := by
  unfold readDirective
  split
  · next name rest _ =>
    extract_lets close start
    have hclose (token : Token) (rest : List Char) (htoken : token.isBroken = false) :
        IsSound (close (token, rest)) := by
      unfold close
      dsimp only
      split
      · exact htoken
      · exact isSound_malformed
    have hstart (u : Unit) : IsSound (start u) := by
      unfold start
      split
      · exact isSound_andThen _ _ (isSound_version rest) hclose
      · split
        · exact isSound_andThen _ _ (isSound_elim _ (isWhole_handleStem? rest)) hclose
        · exact hclose .otherDirective _ rfl
    split
    · exact isSound_malformed
    · exact hstart ()
  · exact isSound_malformed

end Property

/-! ## Steps -/

namespace TokenReader

/-- No token at any place is a broken one. -/
def AreUnbroken (places : Array (List Token)) : Prop := ∀ tokens ∈ places, Unbroken tokens

private theorem areUnbroken_push (places : Array (List Token)) (tokens : List Token)
    (hplaces : AreUnbroken places) (htokens : Unbroken tokens) :
    AreUnbroken (places.push tokens) := by
  intro others hmem
  rcases Array.mem_push.mp hmem with h | rfl
  · exact hplaces others h
  · exact htokens

/-- A step adds whole tokens only, or fails lexically. -/
def Steps {α : Type} (m : Step α) : Prop :=
  Keeps (fun s : State => AreUnbroken s.places) Fault.IsLexical m

private theorem steps_refuse {α : Type} : Steps (refuse : Step α) := .throw _ .malformed

private theorem steps_emit (token : Token) (h : token.isBroken = false) :
    Steps (emit token) :=
  .modify _ fun s hs => areUnbroken_push s.places [token] hs (unbroken_single token h)

private theorem steps_emitOver (length : Nat) (token : Token)
    (h : token.isBroken = false) : Steps (emitOver length token) :=
  .bind (.modify _ fun _ hs => hs) fun _ => steps_emit token h

private theorem steps_emitRead (reading : Property.Reading) (h : Property.IsSound reading) :
    Steps (emitRead reading) := by
  cases reading with
  | error fault => exact fun _ _ => h
  | ok result =>
    have hemit : Steps (do
        modify fun s => { s with cursor := s.cursor.goTo result.2 }
        emit result.1) :=
      .bind (.modify _ fun _ hs => hs) fun _ => steps_emit result.1 h
    exact hemit

private theorem steps_allowKey (allowed : Bool) : Steps (allowKey allowed) :=
  .modify _ fun _ hs => hs

private theorem steps_dropStart : Steps dropStart := by
  refine Keeps.get_bind fun s hs => ?_
  extract_lets behind
  have hbehind (u : Unit) : Steps (behind u) := .set _ hs
  exact .ite (steps_refuse.bind hbehind) (hbehind ())

private theorem steps_dropStale : Steps dropStale := by
  refine Keeps.get_bind fun s hs => ?_
  extract_lets behind
  have hbehind (u : Unit) : Steps (behind u) := .set _ hs
  exact .ite (steps_refuse.bind hbehind) (hbehind ())

private theorem steps_saveStart : Steps saveStart := by
  refine Keeps.get_bind fun s _ => .ite ?_ (.pure ())
  exact steps_dropStart.bind fun _ =>
    .modify _ fun s hs => areUnbroken_push s.places [] hs unbroken_nil

private theorem areUnbroken_foldl (closed : List Int) (places : Array (List Token))
    (h : AreUnbroken places) :
    AreUnbroken (closed.foldl (fun places _ => places.push [.blockEnd]) places) := by
  induction closed generalizing places with
  | nil => exact h
  | cons column rest ih =>
    exact ih _ (areUnbroken_push places _ h (unbroken_single .blockEnd rfl))

private theorem steps_unwind (column : Int) : Steps (unwind column) :=
  Keeps.get_bind fun s hs => .ite (.set _ (areUnbroken_foldl _ s.places hs)) (.pure ())

private theorem steps_deepen (column : Nat) : Steps (deepen column) :=
  Keeps.get_bind fun _ hs => .ite (.bind (.set _ hs) fun _ => .pure true) (.pure false)

private theorem steps_openBlock (token : Token) (h : token.isBroken = false) :
    Steps (openBlock token) := by
  refine Keeps.get_bind fun s hs => .ite ?_ (.pure ())
  have hopen : Steps (do if ← deepen s.cursor.column then emit token) :=
    (steps_deepen _).bind fun _ => .ite (steps_emit token h) (.pure ())
  exact .ite (steps_refuse.bind fun _ => hopen) hopen

private theorem steps_passGaps (fuel : Nat) : Steps (passGaps fuel) := by
  induction fuel with
  | zero => exact .pure ()
  | succ fuel ih =>
    refine Keeps.get_bind fun s hs => ?_
    dsimp only
    split
    · exact .bind (.set _ hs) fun _ => ih
    · exact .set _ hs

private theorem steps_documentMark (token : Token) (h : token.isBroken = false) :
    Steps (documentMark token) :=
  (steps_unwind _).bind fun _ => steps_dropStart.bind fun _ => (steps_allowKey _).bind fun _ =>
    steps_emitOver 3 token h

private theorem steps_openFlow (token : Token) (h : token.isBroken = false) :
    Steps (openFlow token) :=
  steps_saveStart.bind fun _ => .bind (.modify _ fun _ hs => hs) fun _ =>
    (steps_allowKey _).bind fun _ => steps_emitOver 1 token h

private theorem steps_closeFlow (token : Token) (h : token.isBroken = false) :
    Steps (closeFlow token) := by
  have hclose : Steps (do
      modify fun s => { s with flow := s.flow - 1 }
      allowKey false
      emitOver 1 token) :=
    .bind (.modify _ fun _ hs => hs) fun _ => (steps_allowKey _).bind fun _ =>
      steps_emitOver 1 token h
  exact steps_dropStart.bind fun _ => Keeps.get.bind fun _ =>
    .ite (steps_refuse.bind fun _ => hclose) hclose

private theorem steps_flowEntry : Steps flowEntry :=
  (steps_allowKey _).bind fun _ => steps_dropStart.bind fun _ =>
    steps_emitOver 1 .flowEntry rfl

private theorem steps_blockEntry : Steps blockEntry :=
  (steps_openBlock .blockSequence rfl).bind fun _ => (steps_allowKey _).bind fun _ =>
    steps_dropStart.bind fun _ => steps_emitOver 1 .blockEntry rfl

private theorem steps_keyMark : Steps keyMark :=
  (steps_openBlock .blockMapping rfl).bind fun _ => Keeps.get.bind fun _ =>
    (steps_allowKey _).bind fun _ => steps_dropStart.bind fun _ =>
      steps_emitOver 1 .key rfl

private theorem steps_valueMark : Steps valueMark := by
  refine Keeps.get.bind fun s => ?_
  extract_lets behind
  have hbehind (u : Unit) : Steps (behind u) := steps_emitOver 1 .value rfl
  split
  · next start _ =>
    extract_lets place
    have hplace (opens : Bool) : Steps (place opens) := by
      refine .bind (.modify _ fun s hs tokens hmem => ?_) fun _ =>
        (steps_allowKey false).bind hbehind
      rcases Array.mem_or_eq_of_mem_setIfInBounds hmem with h | rfl
      · exact hs tokens h
      · split
        · exact List.forall_mem_cons.mpr ⟨rfl, unbroken_single .key rfl⟩
        · exact unbroken_single .key rfl
    exact .ite ((steps_deepen _).bind hplace) ((Keeps.pure false).bind hplace)
  · exact (steps_openBlock .blockMapping rfl).bind fun _ =>
      (steps_allowKey _).bind fun _ => steps_dropStart.bind hbehind

private theorem steps_property (read : List Char → Property.Reading)
    (h : ∀ text, Property.IsSound (read text)) : Steps (property read) :=
  steps_saveStart.bind fun _ => (steps_allowKey _).bind fun _ => Keeps.get.bind fun _ =>
    steps_emitRead _ (h _)

private theorem steps_directive : Steps directive :=
  (steps_unwind _).bind fun _ => steps_dropStart.bind fun _ => (steps_allowKey _).bind fun _ =>
    Keeps.get.bind fun _ => steps_emitRead _ (Property.isSound_readDirective _)

private theorem steps_blockScalar (folded : Bool) : Steps (blockScalar folded) := by
  refine (steps_allowKey _).bind fun _ => steps_dropStart.bind fun _ => Keeps.get.bind fun s => ?_
  split
  · exact steps_emitRead _ rfl
  · exact steps_refuse

private theorem steps_quotedScalar (read : List Char → Quoted.Reading)
    (h : ∀ text, Quoted.IsLexical (read text)) : Steps (quotedScalar read) := by
  refine steps_saveStart.bind fun _ => (steps_allowKey _).bind fun _ => Keeps.get.bind fun s =>
    steps_emitRead _ ?_
  have hread := h (s.cursor.rest.drop 1)
  cases hreading : read (s.cursor.rest.drop 1) with
  | error fault => exact hread fault hreading
  | ok result => exact rfl

private theorem steps_plainScalar : Steps plainScalar :=
  steps_saveStart.bind fun _ => Keeps.get.bind fun _ => (steps_allowKey _).bind fun _ =>
    steps_emitRead _ rfl

private theorem steps_token (s : State) (c : Char) (rest : List Char) :
    Steps (token s c rest) := by
  have hname (make : String → Token) (h : ∀ name, (make name).isBroken = false) :
      Steps (property (Property.readName make)) :=
    steps_property _ fun text => Property.isSound_readName make h text
  exact .ite steps_directive <|
    .ite (steps_documentMark .documentStart rfl) <|
    .ite (steps_documentMark .documentEnd rfl) <|
    .ite (steps_openFlow .flowSequence rfl) <|
    .ite (steps_openFlow .flowMapping rfl) <|
    .ite (steps_closeFlow .flowSequenceEnd rfl) <|
    .ite (steps_closeFlow .flowMappingEnd rfl) <|
    .ite steps_flowEntry <|
    .ite steps_blockEntry <|
    .ite steps_keyMark <|
    .ite steps_valueMark <|
    .ite (hname .alias fun _ => rfl) <|
    .ite (hname .anchor fun _ => rfl) <|
    .ite (steps_property _ Property.isSound_readTag) <|
    .ite (steps_blockScalar false) <|
    .ite (steps_blockScalar true) <|
    .ite (steps_quotedScalar _ (Quoted.isLexical_readSingle _)) <|
    .ite (steps_quotedScalar _ (Quoted.isLexical_readDouble _)) <|
    .ite steps_plainScalar steps_refuse

private theorem steps_next : Steps next := by
  unfold next
  refine Keeps.get.bind fun _ => (steps_passGaps _).bind fun _ => steps_dropStale.bind fun _ =>
    Keeps.get.bind fun _ => (steps_unwind _).bind fun _ => Keeps.get.bind fun s => ?_
  split
  · exact (steps_unwind _).bind fun _ => steps_dropStart.bind fun _ =>
      (steps_emit .done rfl).bind fun _ => .pure true
  · exact (steps_token s _ _).bind fun _ => .pure false

private theorem unbroken_tokens (s : State) (h : AreUnbroken s.places) : Unbroken s.tokens := by
  intro token hmem
  obtain ⟨tokens, htokens, hmem⟩ := List.mem_flatten.mp hmem
  exact h tokens (Array.mem_toList_iff.mp htokens) token hmem

/-- The settled tokens are among all of them. -/
theorem State.settled_subset (s : State) : s.settled ⊆ s.tokens := by
  intro token hmem
  obtain ⟨tokens, htokens, hmem⟩ := List.mem_flatten.mp hmem
  exact List.mem_flatten.mpr ⟨tokens, List.mem_of_mem_take htokens, hmem⟩

private theorem unbroken_settled (s : State) (h : AreUnbroken s.places) : Unbroken s.settled :=
  fun token hmem => unbroken_tokens s h token (s.settled_subset hmem)

private theorem readOn_broken (fuel : Nat) (s : State) (hs : AreUnbroken s.places) (fault : Fault)
    (h : .broken fault ∈ readOn fuel s) : fault.IsLexical := by
  induction fuel generalizing s with
  | zero =>
    rcases List.mem_append.mp h with hmem | hmem
    · exact absurd hmem ((unbroken_settled s hs).not_mem _ fault)
    · cases List.mem_singleton.mp hmem
      exact .malformed
  | succ fuel ih =>
    have hnext := steps_next s hs
    unfold readOn at h
    split at h
    · next other hrun =>
      rw [hrun] at hnext
      rcases List.mem_append.mp h with hmem | hmem
      · exact absurd hmem ((unbroken_settled s hs).not_mem _ fault)
      · cases List.mem_singleton.mp hmem
        exact hnext
    · next s' hrun =>
      rw [hrun] at hnext
      exact absurd h ((unbroken_tokens s' hnext).not_mem _ fault)
    · next s' hrun =>
      rw [hrun] at hnext
      exact ih s' hnext h

end TokenReader

/-- A token of a text that cannot be read says so for a lexical fault. -/
theorem Token.ofText_broken (text : List Char) (fault : Fault)
    (h : .broken fault ∈ Token.ofText text) : fault.IsLexical :=
  TokenReader.readOn_broken _ _ (fun _ hmem => absurd hmem (Array.not_mem_empty _)) fault h

end CodeHighlight.Yaml
