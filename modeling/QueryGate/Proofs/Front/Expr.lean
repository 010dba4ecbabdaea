import QueryGate.Proofs.Front.Basic
import QueryGate.Sql.Read.Expr
/-!
# Expressions take from the front
-/

namespace QueryGate.Sql

/-- A grammar whose readers of expressions, queries and tables take from the
front. -/
class Grammar.Front (g : Grammar) : Prop where
  expr : ∀ n, Reader.Front (g.expr n)
  query : Reader.Front g.query
  table : Reader.Front g.table

attribute [instance] Grammar.Front.expr Grammar.Front.query Grammar.Front.table

namespace Read

open Reader

set_option synthInstance.maxSize 1000000000

variable (g : Grammar) [g.Front]

instance : Front g.anyExpr := Grammar.Front.expr 0

instance : Front g.exprs := by unfold Grammar.exprs; infer_instance

instance : Front (sortKey g) := by unfold sortKey; infer_instance

instance : Front (sortKeys g) := by unfold sortKeys; infer_instance

instance : Front parenthesizedNames := by unfold parenthesizedNames; infer_instance

instance : Front atSubquery := by unfold atSubquery; infer_instance

instance (interval : Reader Expr) [Front interval] : Front (frameBound g interval) := by
  unfold frameBound
  refine Front.seq inferInstance fun current => ?_
  split
  · infer_instance
  · refine Front.seq inferInstance fun unbounded => ?_
    dsimp only
    split
    · infer_instance
    · refine Front.seq inferInstance fun t => ?_
      split <;> infer_instance

instance (interval : Reader Expr) [Front interval] : Front (window g interval) := by unfold window; infer_instance

instance : Front timeField := by unfold timeField; infer_instance

instance : Front (interval g) := by unfold interval; infer_instance

instance (n : Nat) (parts : Name) : Front (starTail n parts) := by
  induction n generalizing parts with
  | zero => unfold starTail; infer_instance
  | succ n ih =>
    unfold starTail
    refine Front.seq inferInstance fun dot => ?_
    split
    · refine Front.seq inferInstance fun star => ?_
      split
      · infer_instance
      · refine Front.seq inferInstance fun t => ?_
        split
        · exact ih _
        · split
          · exact ih _
          · infer_instance
    · infer_instance

instance : Front star? where
  suffix ts e r h := by
    unfold star? at h
    split at h
    · cases h; exact List.suffix_cons _ _
    · split at h
      · cases h; exact List.suffix_refl _
      · split at h
        · next hs => cases h; exact (Front.of_ok hs).trans (List.drop_suffix _ _)
        · cases h; exact List.suffix_refl _
        · cases h
    · cases h; exact List.suffix_refl _

instance : Front (starOrExpr g) := by
  unfold starOrExpr
  refine Front.seq inferInstance fun star => ?_
  split <;> infer_instance

instance : Front (namedArgument g) := by unfold namedArgument; infer_instance

instance : Front (argument g) := by
  unfold argument
  refine Front.seq inferInstance fun named => ?_
  split <;> infer_instance

instance : Front optionalNulls := by unfold optionalNulls; infer_instance

instance : Front jsonClauses := by unfold jsonClauses; infer_instance

instance : Front (overflowClause g) := by
  unfold overflowClause
  refine Front.seq inferInstance fun overflow => ?_
  split
  · infer_instance
  · refine Front.seq inferInstance fun error => ?_
    split
    · infer_instance
    · refine Front.seq inferInstance fun _ => Front.seq inferInstance fun t => ?_
      dsimp only
      split <;> infer_instance

instance : Front (arguments g) := by unfold arguments; infer_instance

instance : Front (callTail g) := by unfold callTail; infer_instance

instance (function : Name) : Front (call g function) := by unfold call; infer_instance

instance (n : Nat) : Front (whens g n) := by
  induction n with
  | zero => unfold whens; infer_instance
  | succ n ih => unfold whens; infer_instance

instance : Front (cases g) := by unfold cases; infer_instance

instance : Front (convert g) := by unfold convert; infer_instance

instance (keyword : String) : Front (cast g keyword) := by unfold cast; infer_instance

instance (negated : Bool) : Front (exists? g negated) := by unfold exists?; infer_instance

instance : Front (extract g) := by unfold extract; infer_instance

/-- What it reads stands between parentheses. -/
theorem exists_round (keyword : String) : ∃ p, Front p ∧ round g keyword = parenthesized p := by
  refine ⟨_, .seq inferInstance fun e => .seq inferInstance fun unit => ?_, rfl⟩
  dsimp only
  split
  · infer_instance
  · refine .seq inferInstance fun scale => ?_
    split
    · refine .seq inferInstance fun t => ?_
      split <;> infer_instance
    · infer_instance

instance (keyword : String) : Front (round g keyword) := by
  obtain ⟨p, _, same⟩ := exists_round g keyword
  rw [same]
  infer_instance

instance : Front (position g) := by unfold position; infer_instance

instance : Front (substring g) := by unfold substring; infer_instance

instance : Front (overlay g) := by unfold overlay; infer_instance

instance : Front (trimmed g) := by unfold trimmed; infer_instance

instance : Front matchAgainst := by unfold matchAgainst; infer_instance

instance : Front (negation g) := by unfold negation; infer_instance

instance : Front (arrayItems g) := by unfold arrayItems; infer_instance

instance (w : Ident) (key : String) : Front (keywordExpr g w key) := by
  unfold keywordExpr
  split <;> try infer_instance
  refine .seq inferInstance fun called => ?_
  split
  · refine .seq inferInstance fun e => ?_
    split <;> infer_instance
  · infer_instance

instance (w : Ident) : Front (plainWord g w) where
  suffix ts e r h := by
    unfold plainWord at h
    split at h
    · exact Front.of_ok h
    · split at h <;> cases h
      · exact List.suffix_cons _ _
      · exact List.suffix_refl _
    · cases h; exact List.suffix_refl _

instance (e : Expr) : Front (collated e) := by unfold collated; infer_instance

instance (w : Ident) (key : Option String) : Front (wordExpr g w key) where
  suffix ts e r h := by
    unfold wordExpr at h
    dsimp only at h
    split at h
    · next special =>
      refine (Front.of_ok h).trans ?_
      split at special
      · exact Front.of_ok special
      · cases special
    · exact Front.of_ok h
    · split at h
      · cases h
      · split at h
        · next plain => cases h; exact Front.of_ok plain
        · cases h

instance : Front (typedLiteral g) := by unfold typedLiteral; infer_instance

instance : Front (parenthesis g) := by
  unfold parenthesis
  refine .seq inferInstance fun subquery => ?_
  dsimp only
  split
  · infer_instance
  · refine .seq inferInstance fun es => ?_
    split <;> infer_instance

instance : Front (braced g) := by
  unfold braced
  refine .seq inferInstance fun function => ?_
  dsimp only
  split
  · infer_instance
  · refine .seq inferInstance fun t => ?_
    split <;> infer_instance

instance (s : String) : Front (symbolExpr g s) := by
  unfold symbolExpr
  split <;> infer_instance

instance : Front (operand g) := by
  unfold operand
  refine .seq inferInstance fun typed => ?_
  split
  · infer_instance
  · refine ⟨fun ts e r h => ?_⟩
    split at h
    · cases h
    · exact (Front.of_ok h).trans (List.suffix_cons _ _)
    · split at h
      · exact Front.of_ok h
      · exact (Front.of_ok h).trans (List.suffix_cons _ _)
    · exact Front.of_ok h

instance : Front (field g) where
  suffix ts es r h := by
    unfold field at h
    split at h
    · cases h; exact List.suffix_cons _ _
    · split at h
      · cases h
      · next he => cases h; exact Front.of_ok he
      · next he => cases h; exact Front.of_ok he
      · next he => cases h; exact Front.of_ok he
      · next he => cases h; exact Front.of_ok he
      · split at h
        · next hi => cases h; exact Front.of_ok hi
        · cases h

instance : Front (rangeTail g) := by unfold rangeTail; infer_instance

instance : Front (element g) := by unfold element; infer_instance

instance (n : Nat) : Front (steps g n) := by
  induction n with
  | zero => unfold steps; infer_instance
  | succ n ih =>
    refine ⟨fun ts es r h => ?_⟩
    unfold steps at h
    split at h
    · cases h; exact List.suffix_refl _
    · exact (Front.of_ok h).trans (List.suffix_cons _ _)
    · exact (Front.of_ok h).trans (List.suffix_cons _ _)
    · cases h; exact List.suffix_refl _

instance : Front normalized := by unfold normalized; infer_instance

instance (e : Expr) : Front (isTest g e) where
  suffix ts t r h := by
    unfold isTest at h
    split at h
    · cases h; exact List.drop_suffix _ _
    · exact Front.of_ok h

instance (e : Expr) (negated : Bool) : Front (membership g e negated) := by
  unfold membership
  refine .seq inferInstance fun unnest => ?_
  dsimp only
  split
  · infer_instance
  · refine .seq inferInstance fun _ => .seq inferInstance fun q => ?_
    split <;> infer_instance

instance (e : Expr) (negated : Bool) : Front (between g e negated) := by unfold between; infer_instance

instance : Front optionalEscape := by unfold optionalEscape; infer_instance

instance (e : Expr) : Front (predicate g e) := by
  unfold predicate
  refine .seq inferInstance fun negated => .seq inferInstance fun regexp => ?_
  refine .seq inferInstance fun rlike => .seq inferInstance fun null => ?_
  split
  · infer_instance
  · split
    · infer_instance
    · refine .seq inferInstance fun member => ?_
      split
      · infer_instance
      · refine .seq inferInstance fun range => ?_
        split
        · infer_instance
        · refine .seq inferInstance fun like => ?_
          split <;> infer_instance

instance (e : Expr) (op : String) (strength : Nat) : Front (rightOperand g e op strength) := by
  unfold rightOperand
  refine .seq inferInstance fun quantifier => ?_
  split
  · infer_instance
  · refine .again fun ts us e r hu h => ?_
    obtain ⟨_, u, hsymbol, h⟩ := bind_ok.1 h
    obtain ⟨subquery, v, hsub, h⟩ := bind_ok.1 h
    have hv : v <:+ ts := ((Front.of_ok hsub).trans (Front.of_ok hsymbol)).trans hu
    dsimp only at h
    split at h
    · obtain ⟨right, w, hright, h⟩ := bind_ok.1 h
      exact (Front.of_ok h).trans (Front.of_ok (p := g.expr strength) hright)
    · exact (Front.of_ok h).trans hv

instance (e : Expr) (strength : Nat) : Front (operator g e strength) where
  suffix ts o r h := by
    unfold operator at h
    split at h
    · cases h
    · next t rest =>
      have whole : rest <:+ t :: rest := List.suffix_cons _ _
      split at h
      · exact (Front.of_ok h).trans whole
      · split at h
        · exact (Front.of_ok h).trans whole
        · cases h
      · split at h
        · exact (Front.of_ok h).trans whole
        · split at h
          · exact (Front.of_ok h).trans whole
          · split at h
            · exact (Front.of_ok h).trans whole
            · split at h
              · exact (Front.of_ok h).trans whole
              · split at h
                · exact (Front.of_ok h).trans whole
                · exact Front.of_ok h
      · cases h

instance (least n : Nat) (e : Expr) : Front (operators g least n e) := by
  induction n generalizing e with
  | zero => unfold operators; infer_instance
  | succ n ih =>
    refine ⟨fun ts o r h => ?_⟩
    unfold operators at h
    dsimp only at h
    split at h
    · cases h; exact List.suffix_refl _
    · exact Front.of_ok h

instance (least : Nat) : Front (expr g least) := by unfold expr; infer_instance

end Read

end QueryGate.Sql
