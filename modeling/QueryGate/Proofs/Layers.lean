import QueryGate.Proofs.Walk
/-!
# The two layers

What each layer of the gate has to say for a text to pass, and which errors are
whose.
-/

namespace QueryGate.Gate

open QueryGate.Sql

/-- What the grammar cannot read is an error of its own, unless the lexical layer
has a reason. -/
theorem check_of_unparsable {text : List Char} {detail : String}
    (h : checkParsed text = .error (.unparsable detail)) (hl : Lexical.check text = .ok ()) :
    check text = .error (.unparsable detail) := by
  rw [check, h]
  dsimp only
  rw [hl]
  rfl

/-! ## Objections -/

/-- What may be wrong with a statement that was read. -/
inductive Objection : Error → Prop where
  | kind (name : String) : Objection (.disallowedKind name)
  | function (name : String) : Objection (.dangerousFunction name)
  | schema (name : String) : Objection (.forbiddenSchema name)

theorem objection_of_shape {b : Body} {e : Error} (h : shape b = .error e) : Objection e := by
  fun_induction shape b with
  | case1 => cases h; exact .kind _
  | case2 => cases h
  | case3 ctes body orderBy limit ih =>
    obtain inner | ⟨_, -, none⟩ := bind_eq_error.1 h
    · exact ih inner
    · cases none
  | case4 left right ihl ihr =>
    obtain hl | ⟨_, -, h⟩ := bind_eq_error.1 h
    · exact ihl hl
    obtain hr | ⟨_, -, none⟩ := bind_eq_error.1 h
    · exact ihr hr
    · cases none
  | case5 | case6 | case7 | case8 => cases h; exact .kind _

theorem objection_of_checkNode {n : Node} {e : Error} (h : checkNode n = .error e) :
    Objection e := by
  cases n with
  | query body =>
    obtain inner | ⟨_, -, none⟩ := bind_eq_error.1 h
    · exact objection_of_shape inner
    · cases none
  | relation | call =>
    dsimp only [checkNode] at h
    split at h
    · cases h; constructor
    · cases h

theorem objection_of_checkStatement {s : Statement} {e : Error} (h : checkStatement s = .error e) :
    Objection e := by
  induction s generalizing e with
  | query q =>
    obtain outer | ⟨_, -, h⟩ := bind_eq_error.1 h
    · exact objection_of_shape outer
    obtain inner | ⟨_, -, none⟩ := bind_eq_error.1 h
    · obtain ⟨n, -, hn⟩ := error_of_forM inner
      exact objection_of_checkNode hn
    · cases none
  | explain analyze s ih =>
    cases analyze with
    | true => cases h; exact .kind _
    | false =>
      obtain inner | ⟨_, -, none⟩ := bind_eq_error.1 h
      · exact ih inner
      · cases none
  | other => cases h; exact .kind _
  | «show» | describe | use => cases h

/-- Several statements are found on the units or on what is left of the text
without its literals. -/
theorem multiple_of_check {text : List Char} (h : check text = .error .multipleStatements) :
    readStatement text = .error .multipleStatements ∨
      ¬ Lexical.isSingle (stripLiterals (Text.trim text)) := by
  unfold check at h
  split at h
  · obtain lexical | ⟨_, -, none⟩ := bind_eq_error.1 h
    · exact .inr (Lexical.not_isSingle_of_check lexical)
    · cases none
  · obtain lexical | ⟨_, -, none⟩ := bind_eq_error.1 h
    · exact .inr (Lexical.not_isSingle_of_check lexical)
    · cases none
  · next e _ parsed =>
    cases h
    obtain unread | ⟨_, -, objected⟩ := bind_eq_error.1 parsed
    · exact .inl unread
    · cases objection_of_checkStatement objected

end QueryGate.Gate
