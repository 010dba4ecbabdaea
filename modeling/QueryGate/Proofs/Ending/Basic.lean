import QueryGate.Proofs.Front.Basic
/-!
# How much of an ending is read

The units of `ORDER BY _distance ASC LIMIT n` stand at the end of a statement. A
reader in front of them may take the first of them for its own: for a label, a
name, an operand. `Spares` bounds how many, by rules that follow how readers are
put together. Behind a symbol, or a keyword that the ending does not have, the
whole ending is still there.
-/

namespace QueryGate.Sql

/-- The ending, with the digits of its number. -/
def ending (n : List Char) : List Token :=
  [.ofName "ORDER".toList, .ofName "BY".toList, .ofName "_distance".toList, .ofName "ASC".toList,
   .ofName "LIMIT".toList, .number n]

/-- The keys of the units of the ending. -/
def endingKeys : List String := ["ORDER", "BY", "_DISTANCE", "ASC", "LIMIT"]

/-- Of the ending at most the first `i` units have been read. -/
def Left (n : List Char) (i : Nat) (ts : List Token) : Prop :=
  ending n <:+ ts ∨ ∃ j ≤ i, ts = (ending n).drop j

namespace Left

variable {n : List Char} {i k : Nat} {t : Token} {ts r : List Token}

theorem mono (h : Left n i ts) (hk : i ≤ k) : Left n k ts := by
  obtain whole | ⟨j, hj, rfl⟩ := h
  · exact .inl whole
  · exact .inr ⟨j, by omega, rfl⟩

theorem zero_iff : Left n 0 ts ↔ ending n <:+ ts := by
  constructor
  · rintro (whole | ⟨j, hj, rfl⟩)
    · exact whole
    · obtain rfl : j = 0 := by omega
      exact List.suffix_refl _
  · exact .inl

/-- A unit that is read is one of the ending's, or the whole ending is still
there. -/
theorem cons (h : Left n i (t :: ts)) :
    Left n 0 ts ∨ (t ∈ (ending n).take (i + 1) ∧ Left n (i + 1) ts) := by
  obtain whole | ⟨j, hj, same⟩ := h
  · obtain same | later := List.suffix_cons_iff.1 whole
    · have first : t :: ts = ending n := same.symm
      cases first
      exact .inr ⟨by simp [ending], .inr ⟨1, by omega, rfl⟩⟩
    · exact .inl (zero_iff.2 later)
  · have hlt : j < (ending n).length := by
      apply Decidable.byContradiction
      intro long
      rw [List.drop_of_length_le (by omega)] at same
      cases same
    rw [List.drop_eq_getElem_cons hlt] at same
    obtain ⟨rfl, rfl⟩ := List.cons.inj same
    exact .inr ⟨List.mem_take_iff_getElem.2 ⟨j, by omega, rfl⟩, .inr ⟨j + 1, by omega, rfl⟩⟩

theorem next (h : Left n i (t :: ts)) : Left n (i + 1) ts := by
  obtain whole | ⟨-, more⟩ := h.cons
  · exact whole.mono (by omega)
  · exact more

/-- Whatever is read, it is not more than all. -/
theorem of_suffix (h : Left n i ts) (hr : r <:+ ts) : Left n 6 r := by
  have drop (j : Nat) (hj : r <:+ (ending n).drop j) : Left n 6 r := by
    obtain ⟨front, same⟩ := hj.trans (List.drop_suffix _ _)
    refine .inr ⟨front.length, ?_, by rw [← same, List.drop_left]⟩
    have length := congrArg List.length same
    rw [List.length_append] at length
    have all : (ending n).length = 6 := rfl
    omega
  obtain whole | ⟨j, -, rfl⟩ := h
  · obtain all | part := List.suffix_or_suffix_of_suffix whole hr
    · exact .inl all
    · exact drop 0 part
  · exact drop j hr

end Left

/-! ## Keywords and symbols -/

/-- Keywords that are no part of an ending of which at most `i` units have been
read: one of `first`, and `later` behind it. -/
structure Foreign (i : Nat) (first later : List String) : Prop where
  filled : first ≠ []
  first : ∀ w ∈ first, w ∉ endingKeys.take (i + 1)
  later : "ORDER" ∉ later

/-- Wherever in the ending. -/
theorem Foreign.all {i : Nat} {first later : List String}
    (h : first ≠ [] ∧ (∀ w ∈ first, w ∉ endingKeys) ∧ "ORDER" ∉ later) : Foreign i first later :=
  ⟨h.1, fun w hw read => h.2.1 w hw (List.mem_of_mem_take read), h.2.2⟩

theorem Foreign.mono {i k : Nat} {first later : List String} (h : Foreign k first later)
    (hi : i ≤ k) : Foreign i first later := by
  refine ⟨h.filled, fun w hw read => h.first w hw (List.mem_of_mem_take (i := i + 1) ?_), h.later⟩
  rwa [List.take_take, Nat.min_eq_left (by omega)]

namespace Token

def key? : Token → Option String
  | .word _ key => key
  | _ => none

theorem key?_of_isKey {t : Token} {w : String} (h : t.isKey w) : t.key? = some w := by
  unfold isKey at h
  split at h
  · exact congrArg some (by simpa using h)
  · cases h

end Token

theorem key_of_ending {n : List Char} {i : Nat} {t : Token} {w : String}
    (ht : t ∈ (ending n).take i) (hw : t.isKey w) : w ∈ endingKeys.take i := by
  have keys : (ending n).map Token.key? = endingKeys.map some ++ [none] := rfl
  have key := List.mem_map_of_mem (f := Token.key?) ht
  rw [List.map_take, keys, Token.key?_of_isKey hw, List.take_append, List.mem_append] at key
  obtain key | key := key
  · rw [← List.map_take] at key
    obtain ⟨_, hmem, same⟩ := List.mem_map.1 key
    cases same
    exact hmem
  · have := List.mem_of_mem_take key
    simp at this

theorem not_symbol_of_ending {n : List Char} {i : Nat} {s : String} :
    Token.symbol s ∉ (ending n).take i := by
  intro h
  have := List.mem_of_mem_take h
  simp [ending, Token.ofName] at this

namespace Left

variable {n : List Char} {i : Nat} {ts r : List Token}

theorem behind_key {t : Token} {w : String} (h : Left n i (t :: ts)) (hw : t.isKey w)
    (foreign : w ∉ endingKeys.take (i + 1)) : Left n 0 ts := by
  obtain whole | ⟨read, -⟩ := h.cons
  · exact whole
  · exact absurd (key_of_ending read hw) foreign

theorem behind_symbol {s : String} (h : Left n i (.symbol s :: ts)) : Left n 0 ts := by
  obtain whole | ⟨read, -⟩ := h.cons
  · exact whole
  · exact absurd read not_symbol_of_ending

theorem behind_keys {ks : List String} (h : Left n i ts)
    (foreign : Foreign i (ks.take 1) (ks.drop 1)) (hk : Reader.areKeys ks ts) :
    Left n 0 (ts.drop ks.length) := by
  induction ks generalizing i ts with
  | nil => exact absurd rfl foreign.filled
  | cons w ks ih =>
    cases ts with
    | nil => cases hk
    | cons t ts =>
      obtain ⟨hw, hks⟩ := Bool.and_eq_true_iff.1 hk
      have whole := h.behind_key hw (foreign.first w (by simp))
      cases ks with
      | nil => exact whole
      | cons w' ks =>
        -- With the whole ending left, the next key can only be its `ORDER`.
        have later : "ORDER" ∉ w' :: ks := foreign.later
        obtain ⟨first, others⟩ := List.ne_and_not_mem_of_not_mem_cons later
        refine ih whole ⟨List.cons_ne_nil _ _, fun w hw order => ?_, others⟩ hks
        obtain rfl := List.mem_singleton.1 hw
        exact first (List.mem_singleton.1 order).symm

end Left

namespace Reader

variable {α β : Type} {n : List Char} {i j k : Nat} {ts r : List Token}

/-! ## Rules -/

/-- Where at most `i` units of the ending have been read before `p`, at most `k`
have been read behind it. -/
class Bounded (n : List Char) (i : Nat) (p : Reader α) (k : outParam Nat) : Prop where
  left : ∀ ts a r, Left n i ts → p ts = .ok (a, r) → Left n k r

theorem Bounded.of_ok {p : Reader α} [Bounded n i p k] {a : α} (hl : Left n i ts)
    (h : p ts = .ok (a, r)) : Left n k r :=
  left (p := p) ts a r hl h

/-- The same by how the reader is put together. Where nothing is known of a part,
it may read the whole ending; what is required behind it says that it did not. -/
inductive Spares (n : List Char) : Nat → Nat → {α : Type} → Reader α → Prop where
  | done {α : Type} {i k : Nat} {a : α} (h : i ≤ k) : Spares n i k (Pure.pure a)
  | fail {α : Type} {i k : Nat} : Spares n i k (fail : Reader α)
  | accepted {α : Type} {i k : Nat} {ks : List String} {p q : Reader α}
      (foreign : Foreign i (ks.take 1) (ks.drop 1)) (h : Spares n 0 k p)
      (h' : Spares n i k q) : Spares n i k (accept ks >>= fun b => if b = true then p else q)
  | refused {α : Type} {i k : Nat} {ks : List String} {p q : Reader α}
      (foreign : Foreign i (ks.take 1) (ks.drop 1)) (h : Spares n i k p)
      (h' : Spares n 0 k q) : Spares n i k (accept ks >>= fun b => if (!b) = true then p else q)
  | passed {α : Type} {i k : Nat} {ks : List String} {f : Bool → Reader α}
      (foreign : Foreign i (ks.take 1) (ks.drop 1)) (h : ∀ b, Spares n i k (f b)) :
      Spares n i k (accept ks >>= f)
  | acceptedOne {α : Type} {i k : Nat} {ks : List String} {f : Option String → Reader α}
      (foreign : Foreign i ks []) (h : ∀ w, Spares n 0 k (f (some w)))
      (h' : Spares n i k (f none)) : Spares n i k (acceptOne ks >>= f)
  | required {α : Type} {i k : Nat} {ks : List String} {f : Unit → Reader α}
      (foreign : Foreign i (ks.take 1) (ks.drop 1)) (h : Spares n 0 k (f ())) :
      Spares n i k (require ks >>= f)
  | requiredOne {α : Type} {i k : Nat} {ks : List String} {f : String → Reader α}
      (foreign : Foreign i ks []) (h : ∀ w, Spares n 0 k (f w)) :
      Spares n i k (requireOne ks >>= f)
  | requires {i k : Nat} {ks : List String} (foreign : Foreign i (ks.take 1) (ks.drop 1)) :
      Spares n i k (require ks)
  | requiresOne {i k : Nat} {ks : List String} (foreign : Foreign i ks []) :
      Spares n i k (requireOne ks)
  | symbol {α : Type} {i k : Nat} {s : String} {p q : Reader α} (h : Spares n 0 k p)
      (h' : Spares n i k q) : Spares n i k (acceptSymbol s >>= fun b => if b = true then p else q)
  | noSymbol {α : Type} {i k : Nat} {s : String} {p q : Reader α} (h : Spares n i k p)
      (h' : Spares n 0 k q) :
      Spares n i k (acceptSymbol s >>= fun b => if (!b) = true then p else q)
  | attempted {α β : Type} {i j k : Nat} {p : Reader α} {f : Option α → Reader β}
      [Bounded n i p j] (h : ∀ a, Spares n j k (f (some a))) (h' : Spares n i k (f none)) :
      Spares n i k (attempt p >>= f)
  | seq {α β : Type} {i j k : Nat} {p : Reader α} {f : α → Reader β} [Bounded n i p j]
      (h : ∀ a, Spares n j k (f a)) : Spares n i k (p >>= f)
  | front {α β : Type} {i k : Nat} {p : Reader α} {f : α → Reader β} [Front p]
      (h : ∀ a, Spares n 6 k (f a)) : Spares n i k (p >>= f)
  | last {α : Type} {i j k : Nat} {p : Reader α} [Bounded n i p j] (h : j ≤ k) : Spares n i k p
  | ite {α : Type} {i k : Nat} {c : Prop} [Decidable c] {p q : Reader α} (h : Spares n i k p)
      (h' : Spares n i k q) : Spares n i k (if c then p else q)
  | known {α : Type} {i k : Nat} {ks : List String} {f : Bool → Reader α}
      (foreign : Foreign i (ks.take 1) (ks.drop 1)) (h : Spares n 0 k (f true))
      (h' : Spares n i k (f false)) : Spares n i k (accept ks >>= f)
  | tested {α : Type} {i k : Nat} {t : Reader Bool} {p q : Reader α}
      (found : ∀ ts b r, Left n i ts → t ts = .ok (b, r) → Left n 0 r ∨ b = false ∧ Left n i r)
      (h : Spares n 0 k p) (h' : Spares n i k q) :
      Spares n i k (t >>= fun b => if b = true then p else q)

theorem left_of_accept {ks : List String} (hl : Left n i ts)
    (foreign : Foreign i (ks.take 1) (ks.drop 1)) {b : Bool}
    (h : accept ks ts = .ok (b, r)) : (b = true ∧ Left n 0 r) ∨ (b = false ∧ Left n i r) := by
  unfold accept at h
  split at h
  · next hk =>
    cases h
    exact .inl ⟨rfl, hl.behind_keys foreign hk⟩
  · cases h
    exact .inr ⟨rfl, hl⟩

theorem left_of_acceptOne {ks : List String} (hl : Left n i ts) (foreign : Foreign i ks [])
    {o : Option String} (h : acceptOne ks ts = .ok (o, r)) :
    (∃ w, o = some w ∧ Left n 0 r) ∨ (o = none ∧ Left n i r) := by
  unfold acceptOne at h
  split at h
  · cases h; exact .inr ⟨rfl, hl⟩
  · split at h
    · next w found =>
      cases h
      have known := List.mem_of_find?_eq_some found
      have key : Token.isKey _ w := List.find?_some found
      exact .inl ⟨w, rfl, hl.behind_key key (foreign.first w known)⟩
    · cases h; exact .inr ⟨rfl, hl⟩

theorem left_of_acceptSymbol {s : String} (hl : Left n i ts) {b : Bool}
    (h : acceptSymbol s ts = .ok (b, r)) : (b = true ∧ Left n 0 r) ∨ (b = false ∧ Left n i r) := by
  unfold acceptSymbol at h
  split at h
  · split at h
    · cases h; exact .inl ⟨rfl, hl.behind_symbol⟩
    · cases h; exact .inr ⟨rfl, hl⟩
  · cases h; exact .inr ⟨rfl, hl⟩

theorem left_of_require {ks : List String} (hl : Left n i ts)
    (foreign : Foreign i (ks.take 1) (ks.drop 1))
    (h : require ks ts = .ok ((), r)) : Left n 0 r := by
  unfold require at h
  split at h
  · next hk => cases h; exact hl.behind_keys foreign hk
  · cases h

theorem left_of_requireOne {ks : List String} (hl : Left n i ts) (foreign : Foreign i ks [])
    {w : String} (h : requireOne ks ts = .ok (w, r)) : Left n 0 r := by
  obtain ⟨o, u, ho, h⟩ := bind_ok.1 h
  obtain ⟨w, rfl, hu⟩ | ⟨rfl, -⟩ := left_of_acceptOne hl foreign ho
  · cases h; exact hu
  · cases h

theorem attempt_eq_ok {p : Reader α} {o : Option α} (h : attempt p ts = .ok (o, r)) :
    (∃ a, o = some a ∧ p ts = .ok (a, r)) ∨ (o = none ∧ r = ts) := by
  unfold attempt at h
  split at h
  · next hp => cases h; exact .inl ⟨_, rfl, hp⟩
  · cases h
  · cases h; exact .inr ⟨rfl, rfl⟩

theorem Spares.left {p : Reader α} (h : Spares n i k p) {a : α} (hl : Left n i ts)
    (hp : p ts = .ok (a, r)) : Left n k r := by
  induction h generalizing ts r with
  | done hk => cases hp; exact hl.mono hk
  | fail => cases hp
  | accepted foreign _ _ ih ih' =>
    obtain ⟨b, u, hb, hp⟩ := bind_ok.1 hp
    obtain ⟨rfl, hu⟩ | ⟨rfl, hu⟩ := left_of_accept hl foreign hb
    · exact ih hu hp
    · exact ih' hu hp
  | refused foreign _ _ ih ih' =>
    obtain ⟨b, u, hb, hp⟩ := bind_ok.1 hp
    obtain ⟨rfl, hu⟩ | ⟨rfl, hu⟩ := left_of_accept hl foreign hb
    · exact ih' hu hp
    · exact ih hu hp
  | passed foreign _ ih =>
    obtain ⟨b, u, hb, hp⟩ := bind_ok.1 hp
    obtain ⟨-, hu⟩ | ⟨-, hu⟩ := left_of_accept hl foreign hb
    · exact ih b (hu.mono (Nat.zero_le _)) hp
    · exact ih b hu hp
  | acceptedOne foreign _ _ ih ih' =>
    obtain ⟨o, u, ho, hp⟩ := bind_ok.1 hp
    obtain ⟨w, rfl, hu⟩ | ⟨rfl, hu⟩ := left_of_acceptOne hl foreign ho
    · exact ih w hu hp
    · exact ih' hu hp
  | required foreign _ ih =>
    obtain ⟨_, u, hu, hp⟩ := bind_ok.1 hp
    exact ih (left_of_require hl foreign hu) hp
  | requiredOne foreign _ ih =>
    obtain ⟨w, u, hu, hp⟩ := bind_ok.1 hp
    exact ih w (left_of_requireOne hl foreign hu) hp
  | requires foreign => exact (left_of_require hl foreign hp).mono (Nat.zero_le _)
  | requiresOne foreign => exact (left_of_requireOne hl foreign hp).mono (Nat.zero_le _)
  | symbol _ _ ih ih' =>
    obtain ⟨b, u, hb, hp⟩ := bind_ok.1 hp
    obtain ⟨rfl, hu⟩ | ⟨rfl, hu⟩ := left_of_acceptSymbol hl hb
    · exact ih hu hp
    · exact ih' hu hp
  | noSymbol _ _ ih ih' =>
    obtain ⟨b, u, hb, hp⟩ := bind_ok.1 hp
    obtain ⟨rfl, hu⟩ | ⟨rfl, hu⟩ := left_of_acceptSymbol hl hb
    · exact ih' hu hp
    · exact ih hu hp
  | known foreign _ _ ih ih' =>
    obtain ⟨b, u, hb, hp⟩ := bind_ok.1 hp
    obtain ⟨rfl, hu⟩ | ⟨rfl, hu⟩ := left_of_accept hl foreign hb
    · exact ih hu hp
    · exact ih' hu hp
  | tested found _ _ ih ih' =>
    obtain ⟨b, u, hb, hp⟩ := bind_ok.1 hp
    obtain hu | ⟨rfl, hu⟩ := found _ _ _ hl hb
    · cases b with
      | true => exact ih hu hp
      | false => exact ih' (hu.mono (Nat.zero_le _)) hp
    · exact ih' hu hp
  | attempted _ _ ih ih' =>
    obtain ⟨o, u, ho, hp⟩ := bind_ok.1 hp
    obtain ⟨a, rfl, ha⟩ | ⟨rfl, same⟩ := attempt_eq_ok ho
    · exact ih a (Bounded.of_ok hl ha) hp
    · exact ih' (same ▸ hl) hp
  | seq _ ih =>
    obtain ⟨a, u, ha, hp⟩ := bind_ok.1 hp
    exact ih a (Bounded.of_ok hl ha) hp
  | front _ ih =>
    obtain ⟨a, u, ha, hp⟩ := bind_ok.1 hp
    exact ih a (hl.of_suffix (Front.of_ok ha)) hp
  | last hk => exact (Bounded.of_ok hl hp).mono hk
  | ite _ _ ih ih' =>
    split at hp
    · exact ih hl hp
    · exact ih' hl hp

theorem Spares.bounded {p : Reader α} (h : Spares n i k p) : Bounded n i p k :=
  ⟨fun _ _ _ hl hp => h.left hl hp⟩

/-! ## Small readers -/

instance (a : α) : Bounded n i (Pure.pure a) i := ⟨fun _ _ _ hl h => by cases h; exact hl⟩

instance : Bounded n i (fail : Reader α) 0 := ⟨fun _ _ _ _ h => by cases h⟩

instance : Bounded n i rest i := ⟨fun _ _ _ hl h => by cases h; exact hl⟩

instance : Bounded n i peek i := ⟨fun _ _ _ hl h => by cases h; exact hl⟩

instance (s : String) : Bounded n i (atSymbol s) i := ⟨fun _ _ _ hl h => by cases h; exact hl⟩

instance : Bounded n i next (i + 1) where
  left ts t r hl h := by
    cases ts with
    | nil => cases h
    | cons t ts => cases h; exact hl.next

instance (s : String) : Bounded n i (requireSymbol s) 0 where
  left ts a r hl h := by
    unfold requireSymbol at h
    split at h
    · split at h
      · cases h; exact hl.behind_symbol
      · cases h
    · cases h

instance : Bounded n i ident (i + 1) where
  left ts a r hl h := by
    unfold ident at h
    split at h
    · cases h
    · split at h <;> cases h
      exact hl.next

instance (m : Nat) : Bounded n i (nameTail m) (max i 1) := by
  refine Spares.bounded ?_
  induction m generalizing i with
  | zero => exact .done (by omega)
  | succ m ih =>
    have := (ih (i := 0)).bounded
    have := (ih (i := 1)).bounded
    unfold nameTail
    repeat' first | omega | with_reducible constructor | intro _

instance : Bounded n i name (i + 1) := by
  refine Spares.bounded ?_
  unfold name
  repeat' first | omega | with_reducible constructor | intro _

theorem left_of_text {form : TextForm} {content : List Char}
    (h : Left n i (.text form content :: ts)) : Left n 0 ts := by
  obtain whole | ⟨read, -⟩ := h.cons
  · exact whole
  · have := List.mem_of_mem_take read
    simp [ending, Token.ofName] at this

theorem left_of_adjacentTexts (hl : Left n i ts) :
    Left n i (ts.drop (adjacentTexts ts).length) := by
  induction ts generalizing i with
  | nil => exact hl
  | cons t ts ih =>
    unfold adjacentTexts
    split
    · next same =>
      cases same
      split
      · exact (ih (left_of_text hl)).mono (Nat.zero_le _)
      · exact hl
    · exact hl

instance : Bounded n i literal (i + 1) where
  left ts a r hl h := by
    unfold literal at h
    split at h
    · split at h <;> cases h
      exact hl.next
    · cases h; exact hl.next
    · split at h <;> cases h
      · exact (left_of_adjacentTexts (left_of_text hl)).mono (by omega)
      · exact hl.next
    · cases h; exact hl.next
    · split at h
      · split at h <;> cases h
        · exact hl.behind_symbol.next.mono (by omega)
        · exact hl.behind_symbol.next.mono (by omega)
      · cases h
    · cases h

/-- The ending does not begin with a number. -/
instance (limit : Nat) : Bounded n 0 (whole limit) 0 where
  left ts a r hl h := by
    obtain ⟨t, u, ht, h'⟩ := bind_ok.1 h
    cases ts with
    | nil => cases ht
    | cons t ts =>
      cases ht
      obtain whole | ⟨read, -⟩ := hl.cons
      · split at h'
        · split at h' <;> cases h'
          exact whole
        · cases h'
      · obtain rfl : t = .ofName "ORDER".toList := List.mem_singleton.1 read
        cases h'

instance : Bounded n 0 unsigned 0 := by unfold unsigned; infer_instance

instance (p : Reader α) [Front p] : Bounded n i (parenthesized p) 0 := by
  refine Spares.bounded ?_
  unfold parenthesized
  repeat' first | omega | with_reducible constructor | intro _

instance (p : Reader α) [Bounded n 0 p k] (m : Nat) : Bounded n 0 (separated p m) k := by
  refine Spares.bounded ?_
  induction m with
  | zero =>
    unfold separated
    repeat' first | omega | with_reducible constructor | intro _
  | succ m ih =>
    have := ih.bounded
    unfold separated
    repeat' first | omega | with_reducible constructor | intro _

instance (p : Reader α) [Bounded n 0 p k] : Bounded n 0 (list p) k where
  left ts _ _ hl h := Bounded.of_ok (p := separated p ts.length) hl h

instance (allowed : String → Bool) : Bounded n i (label? allowed) (i + 1) where
  left ts a r hl h := by
    obtain ⟨explicit, u, hu, h⟩ := bind_ok.1 h
    have before : Left n i u := by
      obtain ⟨-, hu⟩ | ⟨-, hu⟩ := left_of_accept hl (.all (by decide)) hu
      · exact hu.mono (Nat.zero_le _)
      · exact hu
    split at h
    · split at h <;> cases h
      · exact before.next
      · exact before.mono (by omega)
    · cases h; exact before.next
    · cases h; exact before.next
    · split at h <;> cases h
      exact before.mono (by omega)

instance : Bounded n i optionalLength i := by
  refine Spares.bounded ?_
  unfold optionalLength
  repeat' first | omega | with_reducible constructor | intro _

instance : Bounded n i optionalScale i := by
  refine Spares.bounded ?_
  unfold optionalScale
  repeat' first | omega | with_reducible constructor | intro _

instance : Bounded n i optionalPrecision i := by
  refine Spares.bounded ?_
  unfold optionalPrecision
  repeat' first | omega | with_reducible constructor | intro _

end Reader

namespace Read

open Reader

variable {n : List Char} {i : Nat}

/-! ## Types -/

instance : Bounded n i optionalCharacters i := by
  refine Spares.bounded ?_
  unfold optionalCharacters
  repeat' first | omega | exact .all (by decide) | with_reducible constructor | intro _

instance : Bounded n i optionalBytes i := by
  refine Spares.bounded ?_
  unfold optionalBytes
  repeat' first | omega | exact .all (by decide) | with_reducible constructor | intro _

instance : Bounded n i optionalUnsigned i := by
  refine Spares.bounded ?_
  unfold optionalUnsigned
  repeat' first | omega | exact .all (by decide) | with_reducible constructor | intro _

instance : Bounded n i zone i := by
  refine Spares.bounded ?_
  unfold zone
  repeat' first | omega | exact .all (by decide) | with_reducible constructor | intro _

instance (element : Reader Unit) [Front element] (shape : TypeShape) :
    Bounded n 0 (typeTail element shape) 0 := by
  refine Spares.bounded ?_
  cases shape <;> unfold typeTail <;>
    repeat' first | omega | exact .all (by decide) | with_reducible constructor | intro _

instance (m : Nat) : Bounded n i (modifiers m) 0 where
  left ts a r hl h := by
    induction m generalizing ts i with
    | zero => cases h
    | succ m ih =>
      obtain ⟨t, u, ht, h'⟩ := bind_ok.1 h
      cases ts with
      | nil => cases ht
      | cons t ts =>
        cases ht
        split at h'
        · exact ih _ hl.next h'
        · exact ih _ hl.next h'
        · exact ih _ hl.next h'
        · exact ih _ hl.next h'
        · cases h'; exact hl.behind_symbol
        · cases h'

instance : Bounded n 0 customType 1 := by
  refine Spares.bounded ?_
  unfold customType
  repeat' first | omega | with_reducible constructor | intro _

/-- No built-in type begins like the ending. -/
theorem left_of_typeWithin {m : Nat} {ts r : List Token} {o : Option String} (hl : Left n 0 ts)
    (h : typeWithin m ts = .ok (o, r)) : (o.isSome ∧ Left n 0 r) ∨ (o = none ∧ Left n 1 r) := by
  cases m with
  | zero => cases h
  | succ m =>
    unfold typeWithin at h
    split at h
    · next text key rest =>
      split at h
      · next shape known =>
        obtain ⟨_, u, hu, h'⟩ := bind_ok.1 h
        cases h'
        obtain whole | ⟨read, -⟩ := hl.cons
        · obtain ⟨k, rfl, -⟩ := Option.bind_eq_some_iff.1 known
          exact .inl ⟨rfl, Bounded.of_ok whole hu⟩
        · -- `ORDER` is the name of no built-in type.
          obtain ⟨-, rfl⟩ := Token.word.inj (List.mem_singleton.1 read)
          cases known
      · obtain ⟨_, u, hu, h'⟩ := bind_ok.1 h
        cases h'
        exact .inr ⟨rfl, Bounded.of_ok hl hu⟩
    · cases h

instance (m : Nat) : Bounded n 0 (typeWithin m) 1 where
  left ts o r hl h := by
    obtain ⟨-, hr⟩ | ⟨-, hr⟩ := left_of_typeWithin hl h
    · exact hr.mono (by omega)
    · exact hr

instance : Bounded n 0 builtinType 0 where
  left ts k r hl h := by
    obtain ⟨_, _, hrest, h'⟩ := bind_ok.1 h
    cases hrest
    obtain ⟨o, u, ho, h'⟩ := bind_ok.1 h'
    obtain ⟨-, hu⟩ | ⟨rfl, -⟩ := left_of_typeWithin hl ho
    · split at h' <;> cases h'
      exact hu
    · cases h'

instance : Bounded n 0 dataType 1 := by
  refine Spares.bounded ?_
  unfold dataType
  repeat' first | omega | with_reducible constructor | intro _

end Read

end QueryGate.Sql
