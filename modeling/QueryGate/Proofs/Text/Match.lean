import QueryGate.Proofs.Text.Trim
import QueryGate.Proofs.Text.Words
/-!
# Matches and what stands behind a text

A pattern that takes nothing of what stands behind a text matches with it as
without it. `Blind` says of which patterns and tails this holds. A tail that
begins with a character no piece takes is one; a blank tail is another, for a
pattern whose last character is no blank.
-/

namespace QueryGate.Text

/-- The same spot with more text behind it. -/
def Spot.more (t : List Char) (s : Spot) : Spot := ⟨s.before, s.rest ++ t⟩

/-- What stands before a text comes before its first character only. -/
theorem last_cons (before : Option Char) (c : Char) (s : List Char) :
    (c :: s).getLast?.or before = s.getLast?.or (some c) := by
  rw [List.getLast?_cons]
  cases s.getLast? <;> rfl

namespace Piece

/-- Whether a match of the piece can take the character. -/
def takes : Piece → Char → Bool
  | char a, c => sameLetter a c
  | blank, c | blanks, c => isBlank c
  | edge, _ => false
  | hexDigit, c => isHexDigit c

/-- Whether the piece takes a character, and none that is blank. -/
def visible : Piece → Bool
  | char a => !isBlank a
  | hexDigit => true
  | _ => false

/-! ## Steps into what stands behind -/

theorem one_cons (test : Char → Bool) (before : Option Char) (c : Char) (r : List Char) :
    one test ⟨before, c :: r⟩ = if test c then [⟨some c, r⟩] else [] := rfl

theorem one_append (test : Char → Bool) (before : Option Char) (rest t : List Char) :
    ∃ extra, one test ⟨before, rest ++ t⟩ = (one test ⟨before, rest⟩).map (Spot.more t) ++ extra ∧
      ∀ s ∈ extra, ∃ c u, t = c :: u ∧ test c ∧ s.rest <:+ u := by
  cases rest with
  | nil =>
    refine ⟨one test ⟨before, t⟩, rfl, fun s hs => ?_⟩
    cases t with
    | nil => cases hs
    | cons c u =>
      rw [one_cons] at hs
      split at hs
      · next taken =>
        rw [List.mem_singleton.1 hs]
        exact ⟨c, u, rfl, taken, List.suffix_rfl⟩
      · cases hs
  | cons c r =>
    refine ⟨[], ?_, by simp⟩
    rw [List.cons_append, one_cons, one_cons]
    split <;> rfl

theorem suffix_of_mem_blankRuns {before : Option Char} {rest : List Char} {s : Spot}
    (h : s ∈ blankRuns before rest) : s.rest <:+ rest := by
  fun_induction blankRuns before rest with
  | case1 => exact List.mem_singleton.1 h ▸ List.suffix_rfl
  | case2 before c r ih =>
    obtain rfl | later := List.mem_cons.1 h
    · exact List.suffix_rfl
    · split at later
      · exact (ih later).trans (List.suffix_cons c r)
      · cases later

theorem blankRuns_append (before : Option Char) (rest t : List Char) :
    ∃ extra,
      blankRuns before (rest ++ t) = (blankRuns before rest).map (Spot.more t) ++ extra ∧
      ∀ s ∈ extra, ∃ c u, t = c :: u ∧ isBlank c ∧ s.rest <:+ u := by
  induction rest generalizing before with
  | nil =>
    cases t with
    | nil => exact ⟨[], rfl, by simp⟩
    | cons c u =>
      refine ⟨if isBlank c then blankRuns (some c) u else [], rfl, fun s hs => ?_⟩
      split at hs
      · next blank => exact ⟨c, u, rfl, blank, suffix_of_mem_blankRuns hs⟩
      · cases hs
  | cons c r ih =>
    by_cases blank : isBlank c
    · obtain ⟨extra, same, within⟩ := ih (some c)
      refine ⟨extra, ?_, within⟩
      rw [List.cons_append, blankRuns, blankRuns, if_pos blank, if_pos blank, same]
      rfl
    · refine ⟨[], ?_, by simp⟩
      rw [List.cons_append, blankRuns, blankRuns, if_neg blank, if_neg blank]
      rfl

/-- A piece ends where it would without the tail, and where it takes the first
character of the tail. -/
theorem ends_append (piece : Piece) {t : List Char} (ht : t.head?.any isWordChar = false)
    (before : Option Char) (rest : List Char) :
    ∃ extra, piece.ends ⟨before, rest ++ t⟩ =
        (piece.ends ⟨before, rest⟩).map (Spot.more t) ++ extra ∧
      ∀ s ∈ extra, ∃ c u, t = c :: u ∧ piece.takes c ∧ s.rest <:+ u := by
  cases piece with
  | char a => exact one_append (sameLetter a) before rest t
  | blank => exact one_append isBlank before rest t
  | blanks => exact blankRuns_append before rest t
  | hexDigit => exact one_append isHexDigit before rest t
  | edge =>
    have same : (rest ++ t).head?.any isWordChar = rest.head?.any isWordChar := by
      cases rest with
      | nil => exact ht
      | cons c r => rfl
    refine ⟨[], ?_, by simp⟩
    simp only [ends, same]
    split <;> rfl

theorem suffix_of_mem_ends {piece : Piece} {s s' : Spot} (h : s' ∈ piece.ends s) :
    s'.rest <:+ s.rest := by
  have one_suffix {test : Char → Bool} (h : s' ∈ one test s) : s'.rest <:+ s.rest := by
    unfold one at h
    split at h
    · cases h
    · next c r same =>
      split at h
      · rw [List.mem_singleton.1 h, same]
        exact List.suffix_cons c r
      · cases h
  cases piece with
  | char | blank | hexDigit => exact one_suffix h
  | blanks => exact suffix_of_mem_blankRuns h
  | edge =>
    simp only [ends] at h
    split at h
    · exact List.mem_singleton.1 h ▸ List.suffix_rfl
    · cases h

/-- A piece that takes a character takes just one, unless it takes blanks. -/
theorem ends_first {piece : Piece} (edge : piece = .edge → False) (blanks : piece = .blanks → False)
    (before : Option Char) (c : Char) (r : List Char) :
    piece.ends ⟨before, c :: r⟩ = if piece.takes c then [⟨some c, r⟩] else [] := by
  cases piece with
  | char | blank | hexDigit => rfl
  | edge => exact (edge rfl).elim
  | blanks => exact (blanks rfl).elim

/-! ## Blanks -/

/-- The blanks outside ASCII, as ranges. -/
def wideBlanks : List (Nat × Nat) :=
  [(0x85, 0x85), (0xA0, 0xA0), (0x1680, 0x1680), (0x2000, 0x200A), (0x2028, 0x2029),
    (0x202F, 0x202F), (0x205F, 0x205F), (0x3000, 0x3000)]

theorem wide_blank {c : Char} (h : isBlank c) (wide : ¬ c.toNat < 128) :
    ∃ r ∈ wideBlanks, r.1 ≤ c.toNat ∧ c.toNat ≤ r.2 := by
  simp only [isBlank, Bool.or_eq_true, Bool.and_eq_true, decide_eq_true_eq, beq_iff_eq] at h
  simp only [wideBlanks, List.mem_cons, List.not_mem_nil, or_false, exists_eq_or_imp,
    exists_eq_left]
  omega

/-- No range of word characters meets one of blanks. -/
theorem wordRanges_apart :
    (wordRanges.all fun r => wideBlanks.all fun b => b.2.blt r.1 || r.2.blt b.1) = true := by
  decide +kernel

theorem not_isWordChar_blank {c : Char} (h : isBlank c) : isWordChar c = false := by
  by_cases ascii : c.toNat < 128
  · obtain ⟨n, rfl⟩ := exists_ofNat ascii
    revert n
    decide
  · obtain ⟨b, hb, low, high⟩ := wide_blank h ascii
    rw [isWordChar, if_neg ascii, List.any_eq_false]
    intro r hr
    have apart := List.all_eq_true.1 (List.all_eq_true.1 wordRanges_apart r hr) b hb
    simp only [Bool.or_eq_true, Nat.blt_eq] at apart
    simp only [Bool.and_eq_true, decide_eq_true_eq]
    omega

theorem toLower_wide {c : Char} (h : ¬ c.toNat < 128) : c.toLower = c := by
  refine dif_neg ?_
  rintro ⟨-, low⟩
  have : c.toNat ≤ 90 := low
  omega

theorem toLower_blank {c : Char} (h : isBlank c) : c.toLower = c := by
  by_cases ascii : c.toNat < 128
  · obtain ⟨n, rfl⟩ := exists_ofNat ascii
    revert n
    decide
  · exact toLower_wide ascii

theorem blank_of_toLower {a : Char} (h : isBlank a.toLower) : isBlank a := by
  by_cases ascii : a.toNat < 128
  · obtain ⟨n, rfl⟩ := exists_ofNat ascii
    revert n
    decide
  · rwa [toLower_wide ascii] at h

theorem blank_of_sameLetter {a c : Char} (h : sameLetter a c) (hc : isBlank c) : isBlank a := by
  have long : isBlank 'ſ' = false := by decide
  have kelvin : isBlank '\u212A' = false := by decide
  simp only [sameLetter, Bool.or_eq_true, Bool.and_eq_true, beq_iff_eq] at h
  obtain (same | ⟨-, rfl⟩) | ⟨-, rfl⟩ := h
  · rw [toLower_blank hc] at same
    exact blank_of_toLower (same ▸ hc)
  · simp [long] at hc
  · simp [kelvin] at hc

theorem not_isHexDigit_blank {c : Char} (h : isBlank c) : isHexDigit c = false := by
  by_cases ascii : c.toNat < 128
  · obtain ⟨n, rfl⟩ := exists_ofNat ascii
    revert n
    decide
  · have high (d : Char) (hd : d.toNat < 128) : ¬ c ≤ d := by
      intro le
      have : c.toNat ≤ d.toNat := le
      omega
    have digit : c.isDigit = false := by
      have none : ¬ c.val ≤ '9'.val := high '9' (by decide)
      rw [Char.isDigit, decide_eq_false none, Bool.and_false]
    simp [isHexDigit, digit, high]

theorem takes_blank {piece : Piece} (hp : piece.visible) {c : Char} (hc : isBlank c) :
    piece.takes c = false := by
  cases piece with
  | char a =>
    have other : isBlank a = false := Bool.not_eq_true' _ ▸ hp
    cases taken : sameLetter a c with
    | false => exact taken
    | true =>
      rw [blank_of_sameLetter taken hc] at other
      cases other
  | hexDigit => exact not_isHexDigit_blank hc
  | blank | blanks | edge => cases hp

/-- A piece that takes no blank has no end in blank text. -/
theorem ends_blank {piece : Piece} (hp : piece.visible) {s : Spot} (hs : allBlank s.rest) :
    piece.ends s = [] := by
  obtain ⟨before, rest⟩ := s
  have none {test : Char → Bool} (h : ∀ c, isBlank c → test c = false) :
      one test ⟨before, rest⟩ = [] := by
    cases rest with
    | nil => rfl
    | cons c r => rw [one_cons, h c (allBlank_iff.1 hs c (by simp))]; rfl
  cases piece with
  | char a => exact none fun c hc => takes_blank hp hc
  | hexDigit => exact none fun c hc => takes_blank hp hc
  | blank | blanks | edge => cases hp

end Piece

namespace Pattern

theorem foldl_ends (p : Pattern) (spots : List Spot) :
    p.foldl (fun spots piece => spots.flatMap piece.ends) spots = spots.flatMap p.ends := by
  induction p generalizing spots with
  | nil => exact (List.flatMap_singleton' spots).symm
  | cons piece p ih =>
    have first : ends (piece :: p) = fun s => (piece.ends s).flatMap (ends p) := by
      funext s
      rw [ends, List.foldl_cons, List.flatMap_singleton, ih]
    rw [List.foldl_cons, ih, List.flatMap_assoc, first]

theorem ends_cons (piece : Piece) (p : Pattern) (s : Spot) :
    ends (piece :: p) s = (piece.ends s).flatMap (ends p) := by
  rw [ends, List.foldl_cons, List.flatMap_singleton, foldl_ends]

/-! ## Blind patterns -/

/-- A match in a text before `t` does not come to an end within `t`. -/
inductive Blind (t : List Char) : Pattern → Prop where
  | nil : Blind t []
  | cons {piece : Piece} {p : Pattern} :
      (∀ c u, t = c :: u → piece.takes c → ∀ s : Spot, s.rest <:+ u → ends p s = []) →
      Blind t p → Blind t (piece :: p)

theorem Blind.ends_append {t : List Char} {p : Pattern} (h : Blind t p)
    (ht : t.head?.any isWordChar = false) (before : Option Char) (rest : List Char) :
    p.ends ⟨before, rest ++ t⟩ = (p.ends ⟨before, rest⟩).map (Spot.more t) := by
  induction h generalizing before rest with
  | nil => rfl
  | @cons piece p dead _ ih =>
    obtain ⟨extra, same, within⟩ := piece.ends_append ht before rest
    have gone : extra.flatMap p.ends = [] := by
      refine List.flatMap_eq_nil_iff.2 fun s hs => ?_
      obtain ⟨c, u, tail, taken, suffix⟩ := within s hs
      exact dead c u tail taken s suffix
    have each (s : Spot) : p.ends (s.more t) = (p.ends s).map (Spot.more t) := ih s.before s.rest
    rw [ends_cons, ends_cons, same, List.flatMap_append, gone, List.append_nil, List.flatMap_map,
      List.map_flatMap]
    simp only [each]

theorem Blind.matchesStart {t : List Char} {p : Pattern} (h : Blind t p)
    (ht : t.head?.any isWordChar = false) (s : List Char) :
    p.matchesStart (s ++ t) = p.matchesStart s := by
  rw [Pattern.matchesStart, h.ends_append ht, Pattern.matchesStart, List.isEmpty_map]

/-- No piece goes past a character that none takes. -/
theorem blind_of_takes {p : Pattern} {c : Char} (h : ∀ piece ∈ p, piece.takes c = false)
    (t : List Char) : Blind (c :: t) p := by
  induction p with
  | nil => exact .nil
  | cons piece p ih =>
    obtain ⟨first, others⟩ := List.forall_mem_cons.1 h
    refine .cons (fun d u same taken => ?_) (ih others)
    obtain ⟨rfl, -⟩ := List.cons.inj same
    rw [first] at taken
    cases taken

/-! ## Solid patterns -/

/-- Whether the last character of a match is no blank. -/
def solid : Pattern → Bool
  | [] => false
  | piece :: p => solid p || (piece.visible && p.all (· == .edge))

theorem ends_blank {p : Pattern} (hp : p.solid) {s : Spot} (hs : allBlank s.rest) :
    p.ends s = [] := by
  induction p generalizing s with
  | nil => cases hp
  | cons piece p ih =>
    rw [ends_cons]
    rw [solid, Bool.or_eq_true, Bool.and_eq_true] at hp
    obtain later | ⟨visible, -⟩ := hp
    · refine List.flatMap_eq_nil_iff.2 fun s' hs' => ih later ?_
      obtain ⟨front, same⟩ := Piece.suffix_of_mem_ends hs'
      rw [← same, allBlank_append] at hs
      exact hs.2
    · rw [Piece.ends_blank visible hs]
      rfl

theorem blind_of_solid {p : Pattern} (hp : p.solid) {t : List Char} (ht : allBlank t) :
    Blind t p := by
  have first {c : Char} {u : List Char} (same : t = c :: u) : isBlank c ∧ allBlank u := by
    rw [same] at ht
    simpa [allBlank] using ht
  have edges {p : Pattern} (h : p.all (· == .edge)) : Blind t p := by
    induction p with
    | nil => exact .nil
    | cons piece p ih =>
      rw [List.all_cons, Bool.and_eq_true, beq_iff_eq] at h
      obtain ⟨rfl, others⟩ := h
      exact .cons (fun c u _ taken => by cases taken) (ih others)
  induction p with
  | nil => exact .nil
  | cons piece p ih =>
    rw [solid, Bool.or_eq_true, Bool.and_eq_true] at hp
    obtain later | ⟨visible, rest⟩ := hp
    · refine .cons (fun c u same _ s suffix => ends_blank later ?_) (ih later)
      obtain ⟨front, hs⟩ := suffix
      have := (first same).2
      rw [← hs, allBlank_append] at this
      exact this.2
    · refine .cons (fun c u same taken => ?_) (edges rest)
      rw [Piece.takes_blank visible (first same).1] at taken
      cases taken

theorem splitAfter_blank {p : Pattern} (hp : p.solid) {t : List Char} (ht : allBlank t)
    (before : Option Char) : p.splitAfter before t = none := by
  induction t generalizing before with
  | nil => rw [splitAfter, ends_blank hp ht]; rfl
  | cons c t ih =>
    have behind : allBlank t := by
      rw [allBlank, List.all_cons, Bool.and_eq_true] at ht
      exact ht.2
    rw [splitAfter, ends_blank hp ht, ih behind]
    rfl

/-- Blanks at the end of a text make no difference to where a solid pattern
matches. -/
theorem occurs_append_blank {p : Pattern} (hp : p.solid) {t : List Char} (ht : allBlank t)
    (s : List Char) : p.occurs (s ++ t) = p.occurs s := by
  have word : t.head?.any isWordChar = false := by
    cases t with
    | nil => rfl
    | cons c t => exact Piece.not_isWordChar_blank (allBlank_iff.1 ht c (by simp))
  have same (before : Option Char) :
      (p.splitAfter before (s ++ t)).isSome = (p.splitAfter before s).isSome := by
    induction s generalizing before with
    | nil => rw [List.nil_append, splitAfter_blank hp ht, splitAfter_blank hp rfl]
    | cons c s ih =>
      have here := (blind_of_solid hp ht).ends_append word before (c :: s)
      rw [List.cons_append] at here
      rw [List.cons_append, splitAfter, splitAfter, here, List.head?_map]
      cases (p.ends ⟨before, c :: s⟩).head? with
      | some => rfl
      | none => simpa using ih (some c)
  exact same none

/-! ## A text in front -/

/-- Whether no match begins before `front`, whatever stands behind that. -/
def stuck : Pattern → Option Char → List Char → Bool
  | [], _, _ | _ :: _, _, [] => false
  | .edge :: p, before, c :: r =>
    if before.any isWordChar != isWordChar c then stuck p before (c :: r) else true
  | .blanks :: p, before, c :: r => if isBlank c then false else stuck p before (c :: r)
  | piece :: p, _, c :: r => if piece.takes c then stuck p (some c) r else true

/-- Whether no match begins within `front`, whatever stands behind that. -/
def barred (p : Pattern) (before : Option Char) : List Char → Bool
  | [] => true
  | c :: r => p.stuck before (c :: r) && p.barred (some c) r

theorem ends_of_stuck {p : Pattern} {before : Option Char} {front : List Char}
    (h : p.stuck before front) (more : List Char) : p.ends ⟨before, front ++ more⟩ = [] := by
  fun_induction stuck p before front with
  | case1 | case2 => cases h
  | case3 before c r p edge ih =>
    rw [ends_cons, Piece.ends, if_pos (by simpa using edge), List.flatMap_singleton]
    exact ih h
  | case4 before c r p inside =>
    rw [ends_cons, Piece.ends, if_neg (by simpa using inside)]
    rfl
  | case5 => cases h
  | case6 before c r p visible ih =>
    rw [ends_cons, List.cons_append, Piece.ends, Piece.blankRuns, if_neg visible,
      List.flatMap_singleton]
    exact ih h
  | case7 piece p before c r edge blanks taken ih =>
    rw [ends_cons, List.cons_append, Piece.ends_first edge blanks, if_pos taken,
      List.flatMap_singleton]
    exact ih h
  | case8 piece p before c r edge blanks other =>
    rw [ends_cons, List.cons_append, Piece.ends_first edge blanks, if_neg other]
    rfl

/-- What a match finds before it matters only by being part of a word or not. -/
theorem ends_before {before before' : Option Char}
    (same : before.any isWordChar = before'.any isWordChar) (p : Pattern) (s : List Char) :
    p.ends ⟨before, s⟩ = [] ↔ p.ends ⟨before', s⟩ = [] := by
  induction p with
  | nil => exact iff_of_false (List.cons_ne_nil _ _) (List.cons_ne_nil _ _)
  | cons piece p ih =>
    rw [ends_cons, ends_cons]
    cases piece with
    | char | blank | hexDigit => rfl
    | edge =>
      simp only [Piece.ends, same]
      split
      · simpa using ih
      · rfl
    | blanks =>
      cases s with
      | nil => simpa [Piece.ends, Piece.blankRuns] using ih
      | cons c r =>
        simp only [Piece.ends, Piece.blankRuns, List.flatMap_cons, List.append_eq_nil_iff, ih]

theorem splitAfter_before {before before' : Option Char}
    (same : before.any isWordChar = before'.any isWordChar) (p : Pattern) (s : List Char) :
    (p.splitAfter before s).isSome = (p.splitAfter before' s).isSome := by
  have first (s : List Char) :
      (p.ends ⟨before, s⟩).head?.isSome = (p.ends ⟨before', s⟩).head?.isSome := by
    have := ends_before same p s
    cases h : p.ends ⟨before, s⟩ <;> cases h' : p.ends ⟨before', s⟩ <;> simp_all
  cases s with
  | nil => simpa [splitAfter] using first []
  | cons c r =>
    have := first (c :: r)
    rw [splitAfter, splitAfter]
    cases h : (p.ends ⟨before, c :: r⟩).head? <;>
      cases h' : (p.ends ⟨before', c :: r⟩).head? <;> simp_all

/-- A text in front within which no match begins makes no difference. -/
theorem splitAfter_barred {p : Pattern} {before : Option Char} {front : List Char}
    (h : p.barred before front) (s : List Char) :
    (p.splitAfter before (front ++ s)).isSome =
      (p.splitAfter (front.getLast?.or before) s).isSome := by
  induction front generalizing before with
  | nil => rfl
  | cons c front ih =>
    rw [barred, Bool.and_eq_true] at h
    have none := ends_of_stuck h.1 s
    rw [List.cons_append] at none
    rw [List.cons_append, splitAfter, none]
    simpa [last_cons] using ih h.2

/-- The same for a text in front that ends with no part of a word. -/
theorem occurs_barred {p : Pattern} {front : List Char} (h : p.barred none front)
    (last : front.getLast?.any isWordChar = false) (s : List Char) :
    p.occurs (front ++ s) = p.occurs s := by
  rw [occurs, split, splitAfter_barred h, Option.or_none]
  exact splitAfter_before last p s

/-! ## Places to try -/

/-- Whether a match begins at a spot. -/
def begins : Pattern → Spot → Bool
  | [], _ => true
  | piece :: p, s => (piece.ends s).any (begins p)

theorem begins_eq (p : Pattern) (s : Spot) : p.begins s = !(p.ends s).isEmpty := by
  induction p generalizing s with
  | nil => rfl
  | cons piece p ih =>
    rw [Bool.eq_iff_iff, ends_cons]
    simp [begins, ih]

/-- The character that every match begins with, if there is one. -/
def first? : Pattern → Option Char
  | .char a :: _ | .edge :: .char a :: _ => some a
  | _ => none

theorem sameLetter_of_begins_char {a c : Char} {p : Pattern} {before : Option Char}
    {r : List Char} (h : begins (.char a :: p) ⟨before, c :: r⟩) : sameLetter a c := by
  simp only [begins, Piece.ends, Piece.one_cons] at h
  split at h
  · assumption
  · cases h

theorem begins_of_begins_edge {p : Pattern} {s : Spot} (h : begins (.edge :: p) s) :
    p.begins s := by
  obtain ⟨t, ht, more⟩ := List.any_eq_true.1 h
  simp only [Piece.ends] at ht
  split at ht
  · exact List.mem_singleton.1 ht ▸ more
  · cases ht

theorem sameLetter_of_begins {p : Pattern} {before : Option Char} {c : Char} {r : List Char}
    (h : p.begins ⟨before, c :: r⟩) : p.first?.all (sameLetter · c) := by
  unfold first?
  split
  · exact sameLetter_of_begins_char h
  · exact sameLetter_of_begins_char (begins_of_begins_edge h)
  · rfl

/-- Whether the pattern matches somewhere, tried only where its first character
stands. -/
def found (p : Pattern) (before : Option Char) : List Char → Bool
  | [] => p.begins ⟨before, []⟩
  | c :: r => (p.first?.all (sameLetter · c) && p.begins ⟨before, c :: r⟩) || p.found (some c) r

theorem found_eq (p : Pattern) (before : Option Char) (text : List Char) :
    p.found before text = (p.splitAfter before text).isSome := by
  induction text generalizing before with
  | nil =>
    rw [found, splitAfter, begins_eq]
    cases p.ends ⟨before, []⟩ <;> rfl
  | cons c r ih =>
    have tried : (p.first?.all (sameLetter · c) && p.begins ⟨before, c :: r⟩) =
        p.begins ⟨before, c :: r⟩ := by
      cases h : p.begins ⟨before, c :: r⟩ with
      | true => rw [sameLetter_of_begins h, Bool.and_self]
      | false => rw [Bool.and_false]
    rw [found, splitAfter, tried, begins_eq, ih]
    cases p.ends ⟨before, c :: r⟩ <;> simp

end Pattern
end QueryGate.Text
