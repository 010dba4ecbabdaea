import QueryGate.Proofs.Digits
import QueryGate.Proofs.Identifier
import QueryGate.Proofs.Mediation
import QueryGate.Proofs.Standing
import QueryGate.Proofs.Text.Cut
import QueryGate.Vector.Search
/-!
# The parts of a search

Names are quoted, a select list is made of quoted names, and a vector is written
with digits, signs and points. So the statement up to its filter closes every
literal it opens, whatever the caller gave.
-/

namespace QueryGate

open Sql (Quote Settled Unmarked)

/-! ## Names -/

namespace Sql.Identifier

theorem content_of_check {name : List Char} (h : check name = .ok ()) :
    ∀ c ∈ name, c ≠ Quote.backtick.char ∧ c ≠ '\\' := by
  have plain := (check_eq_ok_iff.1 h).plain
  refine fun c hc => ⟨?_, ?_⟩
  · rintro rfl
    exact plain _ hc (by simp [Quote.char])
  · rintro rfl
    exact plain _ hc (by simp)

theorem settled_of_quoted {name quoted : List Char} (h : Quoted name quoted) : Settled quoted := by
  obtain ⟨hc, rfl⟩ := h
  exact .quoted .backtick (content_of_check hc)

theorem settled_of_quote {name text : List Char} (h : quote name = .ok text) : Settled text :=
  settled_of_quoted (quoted_of_quote h)

theorem settled_of_quoteQualified {database table text : List Char}
    (h : quoteQualified database table = .ok text) : Settled text := by
  obtain ⟨d, hd, h⟩ := bind_eq_ok.1 h
  obtain ⟨t, ht, h⟩ := bind_eq_ok.1 h
  obtain rfl := pure_eq_ok.1 h
  exact (settled_of_quote hd).join (b := ['.']) (by decide) (by decide) (settled_of_quote ht)

end Sql.Identifier

/-! ## Select lists -/

namespace Gate.Fragment

open Sql.Identifier (settled_of_quote)

theorem settled_of_quoteReference {reference text : List Char}
    (h : quoteReference reference = .ok text) : Settled text := by
  unfold quoteReference at h
  split at h
  · cases h
  split at h
  · obtain ⟨table, ht, h⟩ := bind_eq_ok.1 h
    obtain rfl := pure_eq_ok.1 h
    exact (settled_of_quote ht).append (by decide) (by decide)
  · obtain ⟨table, ht, h⟩ := bind_eq_ok.1 h
    obtain ⟨column, hc, h⟩ := bind_eq_ok.1 h
    obtain rfl := pure_eq_ok.1 h
    exact (settled_of_quote ht).join (b := ['.']) (by decide) (by decide)
      (settled_of_quote hc)
  · exact settled_of_quote h

theorem settled_of_quoteItem {item text : List Char} (h : quoteItem item = .ok text) :
    Settled text := by
  unfold quoteItem at h
  dsimp only at h
  split at h
  · next all =>
    cases h
    exact all ▸ .of_unmarked (by decide)
  split at h
  · obtain ⟨name, hn, h⟩ := bind_eq_ok.1 h
    obtain ⟨label, hl, h⟩ := bind_eq_ok.1 h
    obtain rfl := pure_eq_ok.1 h
    rw [List.append_assoc]
    exact (settled_of_quoteReference hn).join (by decide) (by decide) (settled_of_quote hl)
  · exact settled_of_quoteReference h

theorem settled_joinWith {parts : List (List Char)} (h : ∀ part ∈ parts, Settled part) :
    Settled (Text.joinWith ", ".toList parts) := by
  refine Text.joinWith_of_parts (.of_unmarked (by decide)) (fun a b ha hb => ?_) h
  exact ha.join (by decide) (by decide) hb

theorem settled_of_selectList {text items : List Char} (h : selectList text = .ok items) :
    Settled items := by
  unfold selectList at h
  dsimp only at h
  split at h
  · cases h
    exact .of_unmarked (by decide)
  split at h
  · cases h
  · obtain ⟨parts, hp, h⟩ := bind_eq_ok.1 h
    obtain rfl := pure_eq_ok.1 h
    refine settled_joinWith fun part hmem => ?_
    obtain ⟨item, -, made⟩ := of_mapM hp hmem
    exact settled_of_quoteItem made

end Gate.Fragment

/-! ## Vectors -/

namespace Number

/-- A finite number is written with digits, a sign and a point. -/
theorem mem_singleText {x : Binary} (hx : x.isFinite) {c : Char} (hc : c ∈ singleText x) :
    c.isDigit ∨ c = '-' ∨ c = '.' := by
  cases x with
  | infinite | nan => cases hx
  | finite negative m q =>
    obtain sign | number := List.mem_append.1 hc
    · unfold signText at sign
      split at sign
      · exact .inr (.inl (List.mem_singleton.1 sign))
      · cases sign
    · obtain digit | point | none := mem_positional number
      · exact .inl digit
      · exact .inr (.inr point)
      · cases none

end Number

namespace Vector

/-- A vector has nothing in it that a quoted text could not have. -/
theorem content_of_literal {components : List Number.Binary} {text : List Char}
    (h : literal components = .ok text) : ∀ c ∈ text, c ≠ '\'' ∧ c ≠ '\\' := by
  unfold literal at h
  split at h
  · cases h
  split at h
  · cases h
  · next finite =>
    cases h
    intro c hc
    have known : c ∈ ['[', ',', ']'] ∨ c.isDigit ∨ c = '-' ∨ c = '.' := by
      rw [List.cons_append, List.mem_cons, List.mem_append, List.mem_singleton] at hc
      obtain rfl | components | rfl := hc
      · simp
      · obtain separator | ⟨part, hpart, hmem⟩ := Text.mem_joinWith components
        · simp [List.mem_singleton.1 separator]
        · obtain ⟨x, hx, rfl⟩ := List.mem_map.1 hpart
          have := List.findIdx?_eq_none_iff.1 finite x hx
          exact .inr (Number.mem_singleText (by simpa using this) hmem)
      · simp
    obtain known | digit | rfl | rfl := known
    · revert known
      simp only [List.mem_cons, List.not_mem_nil, or_false]
      rintro (rfl | rfl | rfl) <;> decide
    · constructor <;> rintro rfl <;> cases digit
    · decide
    · decide

/-! ## The statement up to its filter -/

theorem settled_selection {items column vector target : List Char} (distance : Distance)
    (hi : Settled items) (hc : Settled column) (hv : ∀ c ∈ vector, c ≠ '\'' ∧ c ≠ '\\')
    (ht : Settled target) : Settled (selection items column vector distance target) := by
  have function : ∀ c ∈ distance.text.toList, c ≠ '\'' ∧ c ≠ '\\' := by
    cases distance <;> simp [Distance.text]
  -- The quotes of the template belong to what they enclose.
  have opening : ", STRING_TO_VECTOR('".toList = ", STRING_TO_VECTOR(".toList ++ ['\''] := rfl
  have between : "'), '".toList = '\'' :: ("), ".toList ++ ['\'']) := rfl
  have closing : "') AS ".toList = '\'' :: ") AS ".toList := rfl
  have parts : selection items column vector distance target =
      "SELECT ".toList ++ (items ++ (", DISTANCE(".toList ++ (column ++
        (", STRING_TO_VECTOR(".toList ++ (('\'' :: vector ++ ['\'']) ++ ("), ".toList ++
          (('\'' :: distance.text.toList ++ ['\'']) ++
            ((") AS ".toList ++ distanceColumn ++ " FROM ".toList) ++ target)))))))) := by
    unfold selection
    rw [opening, between, closing]
    simp only [List.append_assoc, List.cons_append, List.nil_append]
  rw [parts]
  have named : Settled (('\'' :: distance.text.toList ++ ['\'']) ++
      ((") AS ".toList ++ distanceColumn ++ " FROM ".toList) ++ target)) :=
    (Settled.quoted .single function).join (by decide) (by decide) ht
  have compared :=
    (Settled.quoted .single hv).join (b := "), ".toList) (by decide) (by decide) named
  have measured :=
    hc.join (b := ", STRING_TO_VECTOR(".toList) (by decide) (by decide) compared
  exact .lead (by decide) (hi.join (by decide) (by decide) measured)

end Vector

end QueryGate
