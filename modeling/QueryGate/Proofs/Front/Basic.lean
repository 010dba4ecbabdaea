import QueryGate.Proofs.Result
import QueryGate.Sql.Read.DataType
/-!
# Readers take from the front

What a reader leaves is the end of what it was given, as it was. That holds of
every reader of the grammar; a reader put together from others has it because
they have it, so most of the proofs are instances.
-/

namespace QueryGate.Sql.Reader

variable {α β : Type}

theorem bind_ok {p : Reader α} {f : α → Reader β} {ts r : List Token} {b : β} :
    (p >>= f) ts = .ok (b, r) ↔ ∃ a u, p ts = .ok (a, u) ∧ f a u = .ok (b, r) := by
  refine Iff.trans (bind_eq_ok (r := p ts)) ?_
  simp only [Prod.exists]

/-- What the reader leaves is an end of what it is given. -/
class Front (p : Reader α) : Prop where
  suffix : ∀ ts a r, p ts = .ok (a, r) → r <:+ ts

namespace Front

theorem of_ok {p : Reader α} [Front p] {ts r : List Token} {a : α} (h : p ts = .ok (a, r)) :
    r <:+ ts :=
  suffix ts a r h

/-! ## Readers made of readers -/

instance pure (a : α) : Front (Pure.pure a) where
  suffix ts a r h := by cases h; exact List.suffix_refl _

instance bind (p : Reader α) (f : α → Reader β) [Front p] [∀ a, Front (f a)] :
    Front (p >>= f) where
  suffix ts b r h := by
    obtain ⟨a, u, hp, hf⟩ := bind_ok.1 h
    exact (of_ok hf).trans (of_ok hp)

/-- For what has to be split before its parts are seen. -/
theorem seq {p : Reader α} {f : α → Reader β} (hp : Front p) (hf : ∀ a, Front (f a)) :
    Front (p >>= f) :=
  inferInstance

instance ite (c : Prop) [Decidable c] (p q : Reader α) [Front p] [Front q] :
    Front (if c then p else q) := by
  split
  · assumption
  · assumption

/-- One condition at a time: `split` goes through all that are nested in it. -/
theorem either {c : Prop} [Decidable c] {p q : Reader α} (hp : Front p) (hq : Front q) :
    Front (if c then p else q) :=
  inferInstance

end Front

instance : Front (fail : Reader α) where
  suffix ts a r h := by cases h

instance : Front rest where
  suffix ts a r h := by cases h; exact List.suffix_refl _

/-- A reader that may go back to where it began. -/
theorem Front.again {f : List Token → Reader α}
    (h : ∀ ts us a r, us <:+ ts → f ts us = .ok (a, r) → r <:+ ts) : Front (rest >>= f) where
  suffix ts a r hr := by
    obtain ⟨_, us, hus, hf⟩ := bind_ok.1 hr
    cases hus
    exact h ts ts a r (List.suffix_refl _) hf

instance : Front peek where
  suffix ts a r h := by cases h; exact List.suffix_refl _

instance : Front next where
  suffix ts a r h := by
    cases ts with
    | nil => cases h
    | cons t ts => cases h; exact List.suffix_cons _ _

instance (ks : List String) : Front (accept ks) where
  suffix ts a r h := by
    unfold accept at h
    split at h <;> cases h
    · exact List.drop_suffix _ _
    · exact List.suffix_refl _

instance (ks : List String) : Front (acceptOne ks) where
  suffix ts a r h := by
    unfold acceptOne at h
    split at h
    · cases h; exact List.suffix_refl _
    · split at h <;> cases h
      · exact List.suffix_cons _ _
      · exact List.suffix_refl _

instance (ks : List String) : Front (require ks) where
  suffix ts a r h := by
    unfold require at h
    split at h <;> cases h
    exact List.drop_suffix _ _

instance (ks : List String) : Front (requireOne ks) := by
  unfold requireOne
  refine Front.seq inferInstance fun k => ?_
  split <;> infer_instance

instance (s : String) : Front (acceptSymbol s) where
  suffix ts a r h := by
    unfold acceptSymbol at h
    split at h
    · split at h <;> cases h
      · exact List.suffix_cons _ _
      · exact List.suffix_refl _
    · cases h; exact List.suffix_refl _

instance (s : String) : Front (requireSymbol s) where
  suffix ts a r h := by
    unfold requireSymbol at h
    split at h
    · split at h <;> cases h
      exact List.suffix_cons _ _
    · cases h

instance (s : String) : Front (acceptLoose s) := by unfold acceptLoose; infer_instance

instance (s : String) : Front (atSymbol s) where
  suffix ts a r h := by cases h; exact List.suffix_refl _

instance (p : Reader α) [Front p] : Front (attempt p) where
  suffix ts a r h := by
    unfold attempt at h
    split at h
    · next hp => cases h; exact Front.of_ok hp
    · cases h
    · cases h; exact List.suffix_refl _

instance (p : Reader α) [Front p] (n : Nat) : Front (separated p n) := by
  induction n with
  | zero => unfold separated; infer_instance
  | succ n ih => unfold separated; infer_instance

instance (p : Reader α) [Front p] : Front (list p) where
  suffix ts _ _ h := Front.of_ok (p := separated p ts.length) h

theorem Front.within {p : Reader α} (hp : Front p) : Front (parenthesized p) := by
  unfold parenthesized; infer_instance

instance (p : Reader α) [Front p] : Front (parenthesized p) := .within inferInstance

instance : Front ident where
  suffix ts a r h := by
    unfold ident at h
    split at h
    · cases h
    · split at h <;> cases h
      exact List.suffix_cons _ _

instance (n : Nat) : Front (nameTail n) := by
  induction n with
  | zero => unfold nameTail; infer_instance
  | succ n ih => unfold nameTail; infer_instance

instance : Front name := by unfold name; infer_instance

instance : Front textOrName := by
  unfold textOrName
  refine Front.seq inferInstance fun t => ?_
  split <;> infer_instance

instance : Front literal where
  suffix ts a r h := by
    unfold literal at h
    split at h
    · split at h <;> cases h
      exact List.suffix_cons _ _
    · cases h; exact List.suffix_cons _ _
    · split at h <;> cases h
      · exact (List.drop_suffix _ _).trans (List.suffix_cons _ _)
      · exact List.suffix_cons _ _
    · cases h; exact List.suffix_cons _ _
    · split at h
      · split at h <;> cases h
        · exact (List.suffix_cons _ _).trans (List.suffix_cons _ _)
        · exact (List.suffix_cons _ _).trans (List.suffix_cons _ _)
      · cases h
    · cases h

instance (limit : Nat) : Front (whole limit) := by
  unfold whole
  refine Front.seq inferInstance fun t => ?_
  split <;> infer_instance

instance : Front unsigned := by unfold unsigned; infer_instance

instance : Front signed := by unfold signed; infer_instance

instance : Front optionalLength := by unfold optionalLength; infer_instance

instance : Front optionalScale := by unfold optionalScale; infer_instance

instance : Front optionalPrecision := by unfold optionalPrecision; infer_instance

instance (allowed : String → Bool) : Front (label? allowed) := by
  unfold label?
  refine Front.seq inferInstance fun explicit => ⟨fun ts a r h => ?_⟩
  split at h
  · split at h <;> cases h
    · exact List.suffix_cons _ _
    · exact List.suffix_refl _
  · cases h; exact List.suffix_cons _ _
  · cases h; exact List.suffix_cons _ _
  · split at h <;> cases h
    exact List.suffix_refl _

end QueryGate.Sql.Reader

namespace QueryGate.Sql.Read

open Reader

/-! ## Types -/

instance : Front optionalCharacters := by unfold optionalCharacters; infer_instance

instance : Front optionalBytes := by unfold optionalBytes; infer_instance

instance : Front optionalUnsigned := by unfold optionalUnsigned; infer_instance

instance : Front zone := by unfold zone; infer_instance

instance (element : Reader Unit) [Front element] (shape : TypeShape) :
    Front (typeTail element shape) := by
  cases shape <;> unfold typeTail <;> infer_instance

instance (n : Nat) : Front (modifiers n) := by
  induction n with
  | zero => unfold modifiers; infer_instance
  | succ n ih =>
    unfold modifiers
    refine Front.seq inferInstance fun t => ?_
    split <;> infer_instance

instance : Front customType := by unfold customType; infer_instance

instance (n : Nat) : Front (typeWithin n) := by
  induction n with
  | zero => unfold typeWithin; infer_instance
  | succ n ih =>
    refine ⟨fun ts a r h => ?_⟩
    unfold typeWithin at h
    split at h
    · split at h
      · exact (Front.of_ok h).trans (List.suffix_cons _ _)
      · exact Front.of_ok h
    · cases h

instance : Front builtinType := by
  unfold builtinType
  refine Front.seq inferInstance fun ts => Front.seq inferInstance fun key => ?_
  split <;> infer_instance

instance : Front dataType := by unfold dataType; infer_instance

end QueryGate.Sql.Read
