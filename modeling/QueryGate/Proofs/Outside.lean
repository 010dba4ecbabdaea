import QueryGate.Proofs.Seam
/-!
# What is outside the literals

The live characters of a text and the marks of its literals, without what stands
between the marks. Stripping leaves blanks there, as many as there were bytes;
here nothing is left, so texts that differ in what their literals contain are the
same outside them.
-/

namespace QueryGate.Sql

variable {q : Quote} {c : Char} {s t inner : List Char}

/-- The characters of a text that are not hidden. -/
def unhidden (hidden : List Bool) (s : List Char) : List Char :=
  (hidden.zip s).flatMap fun (h, c) => if h then [] else [c]

def outside (s : List Char) : List Char := unhidden (blanked .live s) s

theorem unhidden_append {hs : List Bool} (h : hs.length = s.length) (more : List Bool)
    (t : List Char) : unhidden (hs ++ more) (s ++ t) = unhidden hs s ++ unhidden more t := by
  rw [unhidden, List.zip_append h, List.flatMap_append]
  rfl

theorem unhidden_true (s : List Char) : unhidden (List.replicate s.length true) s = [] := by
  induction s with
  | nil => rfl
  | cons c s ih => simpa [unhidden, List.replicate_succ] using ih

theorem outside_live (h : ∀ q : Quote, c ≠ q.char) (s : List Char) :
    outside (c :: s) = c :: outside s := by
  rw [outside, blanked, Quote.ofChar?_eq_none h]
  rfl

theorem outside_closed (content : Content q inner) (next : s.head? ≠ some q.char) :
    outside (q.char :: inner ++ q.char :: s) = q.char :: q.char :: outside s := by
  have hidden : blanked .live (q.char :: inner ++ q.char :: s) =
      [false] ++ (List.replicate inner.length true ++ ([false] ++ blanked .live s)) := by
    rw [List.cons_append, blanked_opening, blanked_inside_content content, blanked_mark next]
    rfl
  have whole : q.char :: inner ++ q.char :: s = [q.char] ++ (inner ++ ([q.char] ++ s)) := rfl
  rw [outside, hidden, whole, unhidden_append rfl, unhidden_append (by simp), unhidden_true,
    unhidden_append rfl]
  rfl

theorem outside_unclosed (h : Unclosed q inner) : outside (q.char :: inner) = [q.char] := by
  obtain ⟨n, closes, -⟩ | ⟨-, hidden⟩ := blanked_inside q inner
  · rw [closing_of_unclosed h] at closes
    cases closes
  · have whole : q.char :: inner = [q.char] ++ inner := rfl
    rw [outside, blanked_opening, hidden, whole, ← List.singleton_append, unhidden_append rfl,
      unhidden_true]
    rfl

end QueryGate.Sql
