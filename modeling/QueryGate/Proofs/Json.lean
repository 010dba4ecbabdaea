import Mathlib.Data.List.Nodup
import QueryGate.Json.Print
import QueryGate.Proofs.Digits
/-!
# JSON values, made and written

An object has the fields that were put into it. What is written of a value has no
control characters, so it stands on one line.
-/

namespace QueryGate

namespace Json

/-! ## Fields -/

theorem lookup_field (k key : String) (value : Json) (fields : List (String × Json)) :
    List.lookup k ((key, value) :: fields) = if k = key then some value else fields.lookup k := by
  by_cases hk : k = key
  · simp [hk]
  · have miss : (k == key) = false := by simpa using hk
    rw [List.lookup_cons, miss, if_neg hk]

theorem lookup_put (key : String) (value : Json) (fields : List (String × Json)) (k : String) :
    (put key value fields).lookup k = if k = key then some value else fields.lookup k := by
  induction fields with
  | nil => rw [put, lookup_field]
  | cons field r ih =>
    obtain ⟨k', v⟩ := field
    rw [put]
    split
    · rw [lookup_field]
    · split
      · next same =>
        subst same
        by_cases hk : k = key <;> simp [lookup_field, hk]
      · next other =>
        rw [lookup_field, lookup_field, ih]
        by_cases hk : k = k'
        · subst hk
          simp [Ne.symm other]
        · simp [hk]

theorem lookup_puts {fields o : List (String × Json)} {key : String}
    (h : key ∉ fields.map Prod.fst) :
    (fields.foldl (fun o (k, v) => put k v o) o).lookup key = o.lookup key := by
  induction fields generalizing o with
  | nil => rfl
  | cons field r ih =>
    obtain ⟨other, later⟩ := List.ne_and_not_mem_of_not_mem_cons h
    rw [List.foldl_cons, ih later, lookup_put, if_neg other]

/-- Made of fields with different keys, an object has them all. -/
theorem get?_ofFields {fields : List (String × Json)} (distinct : (fields.map Prod.fst).Nodup)
    {key : String} {value : Json} (h : (key, value) ∈ fields) :
    (ofFields fields).get? key = some value := by
  obtain ⟨front, behind, rfl⟩ := List.append_of_mem h
  rw [List.map_append, List.map_cons, List.nodup_append, List.nodup_cons] at distinct
  change List.lookup key (List.foldl _ [] _) = _
  rw [List.foldl_append, List.foldl_cons, lookup_puts distinct.2.1.1, lookup_put, if_pos rfl]

theorem keys_present (fields : List (String × Option Json)) :
    ((fields.filterMap fun (k, v) => v.map (k, ·)).map Prod.fst).Sublist
      (fields.map Prod.fst) := by
  induction fields with
  | nil => exact List.Sublist.refl _
  | cons field r ih =>
    obtain ⟨k, v⟩ := field
    cases v with
    | none => exact ih.cons _
    | some v => exact ih.cons_cons _

theorem get?_ofPresent {fields : List (String × Option Json)}
    (distinct : (fields.map Prod.fst).Nodup) {key : String} {value : Json}
    (h : (key, some value) ∈ fields) : (ofPresent fields).get? key = some value := by
  apply get?_ofFields
  · exact distinct.sublist (keys_present fields)
  · exact List.mem_filterMap.2 ⟨(key, some value), h, rfl⟩

end Json

/-! ## Texts without control characters -/

namespace Text

/-- A character that is shown, and no control character. -/
def IsShown (c : Char) : Prop := 32 ≤ c.toNat

instance (c : Char) : Decidable (IsShown c) := inferInstanceAs (Decidable (32 ≤ c.toNat))

/-- All characters are shown. -/
def Shown (s : List Char) : Prop := ∀ c ∈ s, IsShown c

instance (s : List Char) : Decidable (Shown s) := List.decidableBAll IsShown s

@[simp] theorem shown_nil : Shown [] := by simp [Shown]

@[simp] theorem shown_cons {c : Char} {s : List Char} : Shown (c :: s) ↔ IsShown c ∧ Shown s :=
  List.forall_mem_cons

@[simp] theorem shown_append {a b : List Char} : Shown (a ++ b) ↔ Shown a ∧ Shown b :=
  List.forall_mem_append

theorem shown_flatMap {α : Type} {as : List α} {f : α → List Char} :
    Shown (as.flatMap f) ↔ ∀ a ∈ as, Shown (f a) :=
  List.forall_mem_flatMap

theorem isShown_of_isDigit {c : Char} (h : c.isDigit) : IsShown c := by
  have bounds := Number.digit_bounds h
  unfold IsShown
  omega

theorem isShown_digitChar {n : Nat} (h : n < 16) : IsShown (Nat.digitChar n) := by
  have all : ∀ k < 16, IsShown (Nat.digitChar k) := by decide
  exact all n h

end Text

open Text (IsShown Shown)

namespace Number

theorem shown_digitsOf (n : Nat) : Shown (digitsOf n) := by
  intro c hc
  exact Text.isShown_of_isDigit (isDigit_of_mem_digitsOf hc)

theorem shown_text (d : Decimal) : Shown d.text := by
  intro c hc
  exact Text.isShown_of_isDigit (isDigit_of_mem_text hc)

theorem shown_signText (negative : Bool) : Shown (signText negative) := by
  cases negative <;> decide

theorem shown_intText (n : Int) : Shown (intText n) := by
  have minus : IsShown '-' := by decide
  unfold intText
  split <;> simp [minus, shown_digitsOf]

theorem shown_positional {point : List Char} (h : Shown point) (d : Decimal) :
    Shown (positional point d) := by
  intro c hc
  rcases mem_positional hc with digit | rfl | behind
  · exact Text.isShown_of_isDigit digit
  · decide
  · exact h c behind

theorem shown_scientific (d : Decimal) : Shown (scientific d) := by
  have marks : IsShown '.' ∧ IsShown 'e' := by decide
  have sign : IsShown (if d.leading < 0 then '-' else '+') := by split <;> decide
  have digits := shown_text d
  unfold scientific
  rcases text : d.text with _ | ⟨c, _ | ⟨e, r⟩⟩
  all_goals
    rw [text] at digits
    simp_all [shown_digitsOf]

theorem shown_doubleText (x : Binary) : Shown (doubleText x) := by
  cases x with
  | finite negative m q =>
    refine Text.shown_append.2 ⟨shown_signText negative, ?_⟩
    split
    · exact shown_positional (by decide) _
    · exact shown_scientific _
  | infinite negative =>
    exact Text.shown_append.2 ⟨shown_signText negative, by decide⟩
  | nan => decide

theorem shown_hundredths (x : Binary) : Shown (hundredths x) := by
  have point : IsShown '.' := by decide
  have place (n : Nat) : IsShown (Nat.digitChar (n % 10)) := Text.isShown_digitChar (by omega)
  simp [hundredths, shown_digitsOf, point, place]

end Number

namespace Json

theorem isShown_hexDigit (n : Nat) : IsShown (hexDigit n) :=
  Text.isShown_digitChar (Nat.mod_lt n (by decide))

theorem shown_escapedChar (c : Char) : Shown (escapedChar c) := by
  have lead : Shown ['\\', 'u', '0', '0'] := by decide
  unfold escapedChar
  -- What is written for a character is known, but for the digits of its code and
  -- where it stands for itself.
  repeat' split
  case isFalse.isFalse.isFalse.isFalse.isFalse.isFalse.isFalse.isTrue =>
    exact Text.shown_append.2 ⟨lead, by simp [isShown_hexDigit]⟩
  case isFalse.isFalse.isFalse.isFalse.isFalse.isFalse.isFalse.isFalse control =>
    simpa [IsShown] using control
  all_goals decide

theorem shown_quoted (s : String) : Shown (quoted s) := by
  have mark : IsShown '"' := by decide
  simp [quoted, mark, Text.shown_flatMap, shown_escapedChar]

theorem shown_separator (first : Bool) : Shown (if first then [] else [',']) := by
  cases first <;> decide

mutual

/-- What is written of a value has no control characters. -/
theorem shown_print (v : Json) : Shown v.print := by
  cases v with
  | null => decide
  | bool b => cases b <;> decide
  | int n => exact Number.shown_intText n
  | real x => exact Number.shown_doubleText x
  | text s => exact shown_quoted s
  | list items => exact Text.shown_cons.2 ⟨by decide, shown_printItems true items⟩
  | object fields => exact Text.shown_cons.2 ⟨by decide, shown_printFields true fields⟩

theorem shown_printItems (first : Bool) (items : List Json) : Shown (printItems first items) := by
  cases items with
  | nil => exact Text.shown_cons.2 ⟨by decide, Text.shown_nil⟩
  | cons v r =>
    simp only [printItems, Text.shown_append]
    exact ⟨⟨shown_separator first, shown_print v⟩, shown_printItems false r⟩

theorem shown_printFields (first : Bool) (fields : List (String × Json)) :
    Shown (printFields first fields) := by
  cases fields with
  | nil => exact Text.shown_cons.2 ⟨by decide, Text.shown_nil⟩
  | cons field r =>
    obtain ⟨k, v⟩ := field
    have colon : IsShown ':' := by decide
    simp only [printFields, Text.shown_append, Text.shown_cons]
    exact ⟨⟨⟨shown_separator first, shown_quoted k⟩, colon, shown_print v⟩,
      shown_printFields false r⟩

end

end Json

end QueryGate
