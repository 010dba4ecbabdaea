import QueryGate.Proofs.Ending.Basic
import QueryGate.Proofs.Front.Expr
/-!
# How much of an ending expressions read

At most its first two units, `ORDER` as a name and `BY` behind it.
-/

namespace QueryGate.Sql

/-- A grammar whose expressions and tables read no more than two units of an
ending. -/
class Grammar.Bounded (n : List Char) (g : Grammar) : Prop extends g.Front where
  expressions : ∀ m, Reader.Bounded n 0 (g.expr m) 2
  tables : Reader.Bounded n 0 g.table 2

attribute [instance] Grammar.Bounded.expressions Grammar.Bounded.tables

namespace Read

open Reader

set_option synthInstance.maxSize 1000000000

variable {n : List Char} {i : Nat} (g : Grammar) [g.Bounded n]

instance : Bounded n 0 g.anyExpr 2 := Grammar.Bounded.expressions 0

instance : Bounded n 0 g.exprs 2 := by unfold Grammar.exprs; infer_instance

instance : Bounded n 0 (sortKey g) 2 := by
  refine Spares.bounded ?_
  unfold sortKey
  dsimp only
  repeat' first
    | omega
    | exact .all (by decide)
    | exact ⟨by decide, by decide, by decide⟩
    | with_reducible constructor
    | intro _

instance : Bounded n 0 (sortKeys g) 2 := by unfold sortKeys; infer_instance

instance : Bounded n i parenthesizedNames 0 := by unfold parenthesizedNames; infer_instance

instance : Bounded n i atSubquery i := by
  refine Spares.bounded ?_
  unfold atSubquery
  repeat' first | omega | with_reducible constructor | intro _

instance : Bounded n 0 timeField 0 := by
  refine Spares.bounded ?_
  unfold timeField
  exact .requiresOne (.all (by decide))

instance : Bounded n 0 (interval g) 0 := by
  refine Spares.bounded ?_
  unfold interval
  dsimp only
  repeat' first | omega | exact .all (by decide) | with_reducible constructor | intro _

instance (interval : Reader Expr) [Front interval] : Bounded n 0 (window g interval) 0 := by
  refine Spares.bounded ?_
  unfold window
  dsimp only
  repeat' first
    | omega
    | with_reducible refine .symbol ?_ ?_
    | with_reducible refine .seq fun _ => ?_
    | with_reducible refine .front fun _ => ?_
    | with_reducible refine .ite ?_ ?_
    | with_reducible exact .done (by omega)

instance (m : Nat) (parts : Name) : Bounded n i (starTail m parts) (max i 1) := by
  refine Spares.bounded ?_
  induction m generalizing i parts with
  | zero => exact .fail
  | succ m ih =>
    have deeper (parts : Name) := (ih (i := 1) parts).bounded
    unfold starTail
    refine .symbol (.symbol (.done (by omega)) (.seq fun t => ?_)) (.done (by omega))
    split
    · exact .last (by omega)
    · split
      · exact .last (by omega)
      · exact .fail

theorem left_of_star {ts r : List Token} {o : Option Expr} (hl : Left n 0 ts)
    (h : star? ts = .ok (o, r)) : (o.isSome ∧ Left n 1 r) ∨ (o = none ∧ r = ts) := by
  unfold star? at h
  split at h
  · cases h
    exact .inl ⟨rfl, hl.behind_symbol.mono (by decide)⟩
  · split at h
    · cases h
      exact .inr ⟨rfl, rfl⟩
    · split at h
      · next hs =>
        cases h
        exact .inl ⟨rfl, Bounded.of_ok hl.next hs⟩
      · cases h
        exact .inr ⟨rfl, rfl⟩
      · cases h
  · cases h
    exact .inr ⟨rfl, rfl⟩

instance : Bounded n 0 (starOrExpr g) 2 where
  left ts e r hl h := by
    obtain ⟨o, u, ho, h'⟩ := bind_ok.1 h
    obtain ⟨star, hu⟩ | ⟨rfl, rfl⟩ := left_of_star hl ho
    · obtain ⟨_, rfl⟩ := Option.isSome_iff_exists.1 star
      cases h'
      exact hu.mono (by decide)
    · exact Bounded.of_ok (p := g.anyExpr) hl h'

instance : Bounded n i (arguments g) 0 := by
  refine Spares.bounded ?_
  unfold arguments
  dsimp only
  repeat' first
    | omega
    | with_reducible refine .symbol ?_ ?_
    | with_reducible refine .seq fun _ => ?_
    | with_reducible refine .front fun _ => ?_
    | with_reducible refine .ite ?_ ?_
    | with_reducible exact .done (by omega)

instance : Bounded n i optionalNulls i := by
  refine Spares.bounded ?_
  unfold optionalNulls
  repeat' first | omega | exact .all (by decide) | with_reducible constructor | intro _

instance : Bounded n i (callTail g) (max i 1) := by
  refine Spares.bounded ?_
  unfold callTail
  dsimp only
  repeat' first | omega | exact .all (by decide) | with_reducible constructor | intro _

instance (function : Name) : Bounded n i (call g function) 1 := by
  refine Spares.bounded ?_
  unfold call
  repeat' first | omega | with_reducible constructor | intro _

instance : Bounded n 0 (cases g) 0 := by
  refine Spares.bounded ?_
  unfold cases
  dsimp only
  repeat' first | omega | exact .all (by decide) | with_reducible constructor | intro _

instance : Bounded n i (convert g) 0 := by unfold convert; infer_instance

instance (keyword : String) : Bounded n i (cast g keyword) 0 := by unfold cast; infer_instance

instance (negated : Bool) : Bounded n i (exists? g negated) 0 := by unfold exists?; infer_instance

instance : Bounded n i (extract g) 0 := by unfold extract; infer_instance

instance : Bounded n i (position g) 0 := by unfold position; infer_instance

instance : Bounded n i (substring g) 0 := by unfold substring; infer_instance

instance : Bounded n i (overlay g) 0 := by unfold overlay; infer_instance

instance : Bounded n i (trimmed g) 0 := by unfold trimmed; infer_instance

instance (keyword : String) : Bounded n i (round g keyword) 0 := by
  obtain ⟨p, _, same⟩ := exists_round g keyword
  rw [same]
  infer_instance

instance : Bounded n i matchAgainst 0 := by
  refine Spares.bounded ?_
  unfold matchAgainst
  repeat' first | omega | exact .all (by decide) | with_reducible constructor | intro _

instance : Bounded n 0 (negation g) 2 := by
  refine Spares.bounded ?_
  unfold negation
  repeat' first | omega | exact .all (by decide) | with_reducible constructor | intro _

instance : Bounded n 0 (arrayItems g) 0 := by
  refine Spares.bounded ?_
  unfold arrayItems
  repeat' first | omega | with_reducible constructor | intro _

instance (w : Ident) (key : String) : Bounded n 0 (keywordExpr g w key) 2 := by
  refine Spares.bounded ?_
  unfold keywordExpr
  split
  all_goals repeat' first | omega | with_reducible constructor | intro _

instance (w : Ident) : Bounded n i (plainWord g w) (max i 1) where
  left ts e r hl h := by
    unfold plainWord at h
    split at h
    · exact (Bounded.of_ok (p := call g [w]) hl h).mono (by omega)
    · split at h <;> cases h
      · exact (left_of_text hl).mono (by omega)
      · exact hl.mono (by omega)
    · cases h; exact hl.mono (by omega)

instance (e : Expr) : Bounded n i (collated e) (max i 1) := by
  refine Spares.bounded ?_
  unfold collated
  repeat' first | omega | exact .all (by decide) | with_reducible constructor | intro _

instance (w : Ident) (key : Option String) : Bounded n 0 (wordExpr g w key) 2 where
  left ts e r hl h := by
    unfold wordExpr at h
    dsimp only at h
    split at h
    · next special =>
      split at special
      · exact Bounded.of_ok (Bounded.of_ok hl special : Left n 2 _) h
      · cases special
    · exact ((Spares.seq fun _ => .last (by omega) : Spares n 0 1 _).left hl h).mono (by omega)
    · split at h
      · cases h
      · split at h
        · next plain =>
          cases h
          exact (Bounded.of_ok (p := plainWord g w) hl plain).mono (by omega)
        · cases h

/-- No spelling begins with the first word of the ending. -/
theorem left_of_order {w : Ident} {ts r : List Token} {e : Expr} (hl : Left n 1 ts)
    (h : wordExpr g w (some "ORDER") ts = .ok (e, r)) : Left n 1 r := by
  have none : keywordExpr g w "ORDER" ts = .ok (none, ts) := by unfold keywordExpr; rfl
  unfold wordExpr at h
  simp only [none] at h
  exact (Spares.seq fun _ => .last (by omega) : Spares n 1 1 _).left hl h

instance : Bounded n 0 (typedLiteral g) 2 := by
  refine Spares.bounded ?_
  unfold typedLiteral
  repeat' first | omega | with_reducible constructor | intro _

instance : Bounded n 0 (parenthesis g) 0 := by
  refine Spares.bounded ?_
  unfold parenthesis
  dsimp only
  refine .seq fun subquery => .ite ?_ (.seq fun es => ?_)
  · repeat' first | omega | with_reducible constructor | intro _
  · split
    all_goals repeat' first | omega | with_reducible constructor | intro _

instance : Bounded n 0 (braced g) 0 := by
  refine Spares.bounded ?_
  unfold braced
  dsimp only
  refine .accepted (.all (by decide)) ?_ (.seq fun t => ?_)
  · repeat' first | omega | with_reducible constructor | intro _
  · split
    all_goals repeat' first | omega | with_reducible constructor | intro _

instance (s : String) : Bounded n 0 (symbolExpr g s) 2 := by
  refine Spares.bounded ?_
  unfold symbolExpr
  split
  all_goals repeat' first | omega | with_reducible constructor | intro _

/-- An operand at the front of the ending is its first word. -/
instance : Bounded n 0 (operand g) 2 where
  left ts e r hl h := by
    obtain ⟨typed, u, ht, h'⟩ := bind_ok.1 h
    have constant {ts : List Token} (hl : Left n 0 ts)
        (h : (literal >>= collated) ts = .ok (e, r)) : Left n 2 r :=
      (Spares.seq fun _ => .last (by decide) : Spares n 0 2 _).left hl h
    obtain ⟨_, rfl, typed⟩ | ⟨rfl, rfl⟩ := attempt_eq_ok ht
    · cases h'
      exact Bounded.of_ok hl typed
    · dsimp only at h'
      split at h'
      · cases h'
      · next text key rest =>
        obtain whole | ⟨read, later⟩ := hl.cons
        · exact Bounded.of_ok whole h'
        · -- The word is the ending's `ORDER`, which is read as a name.
          obtain ⟨-, rfl⟩ := Token.word.inj (List.mem_singleton.1 read)
          exact (left_of_order g later h').mono (by decide)
      · next s rest =>
        split at h'
        · exact constant hl h'
        · exact (Spares.seq fun _ => .last (by decide) : Spares n 0 2 _).left hl.behind_symbol h'
      · exact constant hl h'

instance : Bounded n 0 (field g) 2 where
  left ts es r hl h := by
    unfold field at h
    split at h
    · cases h; exact (left_of_text hl).mono (by decide)
    · split at h
      · cases h
      · next he => cases h; exact Bounded.of_ok hl he
      · next he => cases h; exact Bounded.of_ok hl he
      · next he => cases h; exact Bounded.of_ok hl he
      · next he => cases h; exact Bounded.of_ok hl he
      · split at h
        · next hi => cases h; exact (Bounded.of_ok (p := ident) hl hi).mono (by decide)
        · cases h

instance : Bounded n i (rangeTail g) 0 := by
  refine Spares.bounded ?_
  unfold rangeTail
  repeat' first | omega | with_reducible constructor | intro _

instance : Bounded n i (element g) 0 := by
  refine Spares.bounded ?_
  unfold element
  repeat' first | omega | with_reducible constructor | intro _

theorem bounded_steps (m : Nat) : Bounded n i (steps g m) (max i 2) := by
  induction m generalizing i with
  | zero => exact (Spares.done (by omega)).bounded
  | succ m ih =>
    have first := ih (i := 0)
    have later := ih (i := 2)
    refine ⟨fun ts es r hl h => ?_⟩
    unfold steps at h
    split at h
    · cases h; exact hl.mono (by omega)
    · exact ((Spares.seq fun _ => .seq fun _ => .done (by decide) : Spares n 0 2 _).left
        hl.behind_symbol h).mono (by omega)
    · exact ((Spares.seq fun _ => .seq fun _ => .done (by decide) : Spares n 0 2 _).left
        hl.behind_symbol h).mono (by omega)
    · cases h; exact hl.mono (by omega)

instance (m : Nat) : Bounded n 2 (steps g m) 2 := bounded_steps g m

instance : Bounded n i normalized 0 := by
  refine Spares.bounded ?_
  unfold normalized
  repeat' first | omega | exact .all (by decide) | with_reducible constructor | intro _

instance (e : Expr) : Bounded n 0 (isTest g e) 2 where
  left ts t r hl h := by
    have foreign : ∀ ks ∈ isProperties,
        ks.take 1 ≠ [] ∧ (∀ w ∈ ks.take 1, w ∉ endingKeys) ∧ "ORDER" ∉ ks.drop 1 := by decide
    have tests : Spares n 0 2 (do
        if ← accept ["DISTINCT", "FROM"] then return Expr.binary "IS DISTINCT FROM" e (← g.anyExpr)
        else if ← accept ["NOT", "DISTINCT", "FROM"] then
          return Expr.binary "IS NOT DISTINCT FROM" e (← g.anyExpr)
        else return Expr.test e (← normalized)) := by
      repeat' first | omega | exact .all (by decide) | with_reducible constructor | intro _
    unfold isTest at h
    split at h
    · next ks found =>
      cases h
      have read := List.find?_some (p := (areKeys · ts)) found
      exact (hl.behind_keys (.all (foreign ks (List.mem_of_find?_eq_some found))) read).mono
        (by decide)
    · exact tests.left hl h

instance (e : Expr) (negated : Bool) : Bounded n 0 (membership g e negated) 0 := by
  refine Spares.bounded ?_
  unfold membership
  dsimp only
  refine .accepted (.all (by decide)) ?_ (.seq fun _ => .front fun q => ?_)
  · repeat' first | omega | with_reducible constructor | intro _
  · split
    all_goals repeat' first | omega | with_reducible constructor | intro _

instance (e : Expr) (negated : Bool) : Bounded n 0 (between g e negated) 2 := by
  refine Spares.bounded ?_
  unfold between
  repeat' first | omega | exact .all (by decide) | with_reducible constructor | intro _

instance : Bounded n i optionalEscape (max i 1) := by
  refine Spares.bounded ?_
  unfold optionalEscape
  repeat' first | omega | exact .all (by decide) | with_reducible constructor | intro _

instance (e : Expr) : Bounded n 0 (predicate g e) 2 := by
  refine Spares.bounded ?_
  unfold predicate
  dsimp only
  repeat' first | omega | exact .all (by decide) | with_reducible constructor | intro _

instance (e : Expr) (op : String) (strength : Nat) :
    Bounded n 0 (rightOperand g e op strength) 2 where
  left ts o r hl h := by
    obtain ⟨quantifier, u, hq, h'⟩ := bind_ok.1 h
    obtain ⟨w, rfl, hu⟩ | ⟨rfl, hu⟩ := left_of_acceptOne hl (.all (by decide)) hq
    · obtain ⟨_, _, hrest, h'⟩ := bind_ok.1 h'
      cases hrest
      obtain ⟨_, v, hv, h'⟩ := bind_ok.1 h'
      obtain ⟨subquery, _, hs, h'⟩ := bind_ok.1 h'
      cases hs
      -- A subquery is read from its parenthesis on once more.
      have fromQuantifier (right : Expr) {v : List Token} (hv : Left n 2 v)
          (h : (if comparisons.contains op then
            pure (Expr.quantified op w e right) else fail : Reader Expr) v = .ok (o, r)) :
          Left n 2 r := by
        split at h <;> cases h
        exact hv
      split at h'
      · obtain ⟨right, x, hx, h'⟩ := bind_ok.1 h'
        exact fromQuantifier right (Bounded.of_ok (p := g.expr strength) hu hx) h'
      · obtain ⟨right, x, hx, h'⟩ := bind_ok.1 h'
        obtain ⟨_, y, hy, h'⟩ := bind_ok.1 h'
        obtain ⟨_, _, hpure, h'⟩ := bind_ok.1 h'
        cases hpure
        have closed := Bounded.of_ok (p := requireSymbol ")")
          (Bounded.of_ok (p := g.expr strength) (Bounded.of_ok (p := requireSymbol "(") hu hv) hx)
          hy
        exact fromQuantifier right (closed.mono (by decide)) h'
    · exact (Spares.seq fun _ => .done (Nat.le_refl _) : Spares n 0 2 _).left hu h'

theorem whole_of_strength {ts : List Token} (hl : Left n 2 ts) (h : 0 < strength ts) :
    Left n 0 ts := by
  obtain whole | ⟨j, hj, rfl⟩ := hl
  · exact .inl whole
  · obtain rfl | rfl | rfl : j = 0 ∨ j = 1 ∨ j = 2 := by omega
    all_goals exact absurd h (Nat.lt_irrefl 0)

instance (e : Expr) (s : Nat) : Bounded n 0 (operator g e s) 2 where
  left ts o r hl h := by
    unfold operator at h
    split at h
    · cases h
    · next t rest =>
      have behind {k : String} {text : List Char} (hl : Left n 0 (.word text (some k) :: rest))
          (hk : k ≠ "ORDER") : Left n 0 rest :=
        hl.behind_key (w := k) (by simp [Token.isKey]) (by simpa [endingKeys] using hk)
      split at h
      · exact (Spares.seq fun _ => .done (by decide) : Spares n 0 2 _).left hl.behind_symbol h
      · split at h
        · exact Bounded.of_ok hl.behind_symbol h
        · cases h
      · next text key =>
        split at h
        · next div =>
          exact (Spares.seq fun _ => .done (by decide) : Spares n 0 2 _).left
            (behind hl (by simp [div])) h
        · split at h
          · next binary =>
            refine Bounded.of_ok (behind hl ?_) h
            rintro rfl
            revert binary
            decide
          · split at h
            · next is => exact Bounded.of_ok (behind hl (by simp [is])) h
            · split at h
              · next zone =>
                refine (.required (.all (by decide)) (.seq fun _ => .done (by decide)) :
                  Spares n 0 2 _).left (behind hl (by simp [zone])) h
              · split at h
                · next member =>
                  refine (.required (.all (by decide)) (.seq fun _ => .done (by decide)) :
                    Spares n 0 2 _).left (behind hl (by simp [member])) h
                · exact Bounded.of_ok hl h
      · cases h

/-- Nothing in the ending is an operator. -/
instance (least m : Nat) (e : Expr) : Bounded n 2 (operators g least m e) 2 := by
  induction m generalizing e with
  | zero => exact (Spares.done (Nat.le_refl _)).bounded
  | succ m ih =>
    refine ⟨fun ts o r hl h => ?_⟩
    unfold operators at h
    dsimp only at h
    split at h
    · cases h; exact hl
    · next stop =>
      -- A unit that binds is none of the ending's.
      have whole := whole_of_strength hl (by omega)
      exact (Spares.seq fun _ => .last (Nat.le_refl _) : Spares n 0 2 _).left whole h

instance (least : Nat) : Bounded n 0 (expr g least) 2 := by
  refine Spares.bounded ?_
  unfold expr
  dsimp only
  repeat' first | omega | with_reducible constructor | intro _

end Read

end QueryGate.Sql
