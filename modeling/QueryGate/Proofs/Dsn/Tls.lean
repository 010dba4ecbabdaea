import QueryGate.Proofs.Dsn.Mask
/-!
# Whether a TLS setting takes effect

`applyTls` looks for a mode behind the first question mark of the text, at pieces
that begin with `tls=`. `read` takes the parameters from the first question mark
behind the last slash, and a parameter may have no `=`. `takesEffect_iff` says for
which texts the two come to the same.
-/

namespace QueryGate.Dsn

open Text (cutFirst cutLast pieces)

/-- The name of the parameter that says the mode. -/
def tlsName : List Char := "tls".toList

/-! ## What is asked for -/

/-- `r'` is `r` with the mode of the setting, or `r` itself where it says its
mode. -/
structure Encrypted (ssl : List Char) (r r' : Dsn) : Prop where
  user : r'.user = r.user
  password : r'.password = r.password
  address : r'.address = r.address
  database : r'.database = r.database
  asked : r.param tlsName = none → r'.tlsMode = TlsMode.ofSetting ssl
  kept : r.param tlsName ≠ none → r'.tlsMode = r.tlsMode ∧ r'.params = r.params

/-- The text with the setting applied can be read, and the setting shows. -/
def TakesEffect (d ssl : List Char) (r : Dsn) : Prop :=
  ∃ r', read (applyTls d ssl) = .ok r' ∧ Encrypted ssl r r'

/-- A mode where `applyTls` looks for one. -/
def FindsMode (d : List Char) : Prop :=
  ∃ front query, cutFirst '?' d = some (front, query) ∧ ∃ p ∈ pieces '&' query, tlsKey <+: p

/-- What `applyTls` adds is added to the parameters: there is a question mark
behind the last slash, or none in the text. -/
def MeetsQuery (d : List Char) : Prop :=
  '?' ∉ d ∨ ∃ head tail, cutLast '/' d = some (head, tail) ∧ '?' ∈ tail

theorem ofSetting_on {ssl : List Char} (h : Text.lower (Text.trim ssl) ∉ TlsMode.offSettings) :
    TlsMode.ofSetting ssl ≠ .disabled := by
  have on : TlsMode.offSettings.contains (Text.lower (Text.trim ssl)) = false := by simpa using h
  simp only [TlsMode.ofSetting, on, Bool.false_eq_true, if_false]
  repeat' split
  all_goals nofun

@[simp] theorem ofValue_value (mode : TlsMode) : TlsMode.ofValue mode.value = mode := by
  cases mode <;> decide

theorem tlsMode_of_none {r : Dsn} (h : r.param tlsName = none) : r.tlsMode = .disabled := by
  unfold tlsMode
  rw [show r.param "tls".toList = none from h]

theorem tlsMode_of_some {r : Dsn} {v : List Char} (h : r.param tlsName = some v) :
    r.tlsMode = TlsMode.ofValue v := by
  unfold tlsMode
  rw [show r.param "tls".toList = some v from h]

/-! ## Reading the part behind the last slash -/

/-- Database and parameters, as they are written. -/
def tailParts (tail : List Char) : List Char × List Char := (cutFirst '?' tail).getD (tail, [])

theorem tailParts_query {database : List Char} (h : '?' ∉ database) (query : List Char) :
    tailParts (database ++ '?' :: query) = (database, query) := by
  rw [tailParts, Text.cutFirst_append h]
  rfl

theorem tailParts_none {tail : List Char} (h : '?' ∉ tail) : tailParts tail = (tail, []) := by
  rw [tailParts, Text.cutFirst_eq_none.2 h]
  rfl

/-- User, password and address are read from the part in front of the last
slash, whatever is behind it. -/
theorem read_behind {head tail : List Char} {r : Dsn} (ht : '/' ∉ tail)
    (h : read (head ++ '/' :: tail) = .ok r) {tail' : List Char} (ht' : '/' ∉ tail') :
    read (head ++ '/' :: tail') = .ok { r with
      database := nonEmpty (tailParts tail').1, params := readParams (tailParts tail').2 } := by
  have hp := parts_of_read h
  have hp' : parts (head ++ '/' :: tail') = .ok { r with
      database := nonEmpty (tailParts tail').1, params := readParams (tailParts tail').2 } := by
    unfold parts at hp ⊢
    rw [Text.cutLast_append head ht] at hp
    rw [Text.cutLast_append head ht']
    obtain ⟨address, ha, same⟩ := bind_eq_ok.1 hp
    cases same
    exact bind_eq_ok.2 ⟨address, ha, rfl⟩
  unfold read
  rw [hp']

theorem tail_of_read {head tail : List Char} {r : Dsn} (ht : '/' ∉ tail)
    (h : read (head ++ '/' :: tail) = .ok r) :
    r.database = nonEmpty (tailParts tail).1 ∧ r.params = readParams (tailParts tail).2 := by
  have same := Except.ok.inj (h.symm.trans (read_behind ht h ht))
  exact ⟨congrArg Dsn.database same, congrArg Dsn.params same⟩

theorem exists_slash {d : List Char} {r : Dsn} (h : read d = .ok r) :
    ∃ head tail, d = head ++ '/' :: tail ∧ '/' ∉ tail := by
  have hp := parts_of_read h
  unfold parts at hp
  split at hp
  · next head tail hd => exact ⟨head, tail, Text.cutLast_eq_some.1 hd⟩
  · cases hp

/-- A parameter is read behind a question mark. -/
theorem query_of_param {d : List Char} {r : Dsn} (h : read d = .ok r)
    (said : r.param tlsName ≠ none) :
    ∃ head tail, cutLast '/' d = some (head, tail) ∧ '?' ∈ tail := by
  obtain ⟨head, tail, rfl, ht⟩ := exists_slash h
  refine ⟨head, tail, Text.cutLast_append head ht, Decidable.byContradiction fun hm => said ?_⟩
  rw [param, (tail_of_read ht h).2, tailParts_none hm]
  rfl

/-! ## A parameter more -/

theorem readParams_append (query added : List Char) :
    readParams (query ++ '&' :: added) = readParams query ++ readParams added := by
  simp [readParams, Text.pieces_append]

/-- The separator may be there already, or not be needed. -/
theorem readParams_behind {query : List Char} (h : query = [] ∨ query.getLast? = some '&')
    (added : List Char) : readParams (query ++ added) = readParams query ++ readParams added := by
  obtain rfl | h := h
  · rfl
  · obtain ⟨front, rfl⟩ := List.getLast?_eq_some_iff.1 h
    have none : readParams (front ++ ['&']) = readParams front := by
      rw [readParams_append]
      exact List.append_nil _
    rw [List.append_assoc, List.singleton_append, readParams_append, none]

/-- A text that needs no separator ends with a part that needs none. -/
theorem ends_of_suffix {query seen : List Char} (h : query <:+ seen)
    (last : seen = [] ∨ seen.getLast? = some '&') : query = [] ∨ query.getLast? = some '&' := by
  obtain ⟨front, rfl⟩ := h
  obtain empty | last := last
  · exact .inl (List.append_eq_nil_iff.1 empty).2
  · rw [List.getLast?_append] at last
    cases hq : query.getLast? with
    | none => exact .inl (List.getLast?_eq_none_iff.1 hq)
    | some c => rw [hq] at last; exact .inr last

/-- What `applyTls` adds, behind the separator. -/
def modeText (mode : TlsMode) : List Char := tlsKey ++ mode.value

@[simp] theorem readParams_modeText (mode : TlsMode) :
    readParams (modeText mode) = [(tlsName, mode.value)] := by
  cases mode <;> decide

theorem slash_not_mem_modeText (mode : TlsMode) : '/' ∉ modeText mode := by
  cases mode <;> decide

theorem mark_not_mem_modeText (mode : TlsMode) : '?' ∉ modeText mode := by
  cases mode <;> decide

/-! ## What is applied -/

variable {d ssl : List Char}

theorem applyTls_of_finds (h : FindsMode d) : applyTls d ssl = d := by
  obtain ⟨front, query, hd, p, hp, begins⟩ := h
  have found : (pieces '&' query).any (Text.beginsWith tlsKey) = true :=
    List.any_eq_true.2 ⟨p, hp, Text.beginsWith_iff.2 begins⟩
  unfold applyTls
  split
  · rfl
  · simp only [hd, found, if_true]

theorem applyTls_of_no_mark (on : TlsMode.ofSetting ssl ≠ .disabled) (h : '?' ∉ d) :
    applyTls d ssl = d ++ '?' :: modeText (TlsMode.ofSetting ssl) := by
  unfold applyTls
  split
  · next off => exact absurd off on
  · simp [Text.cutFirst_eq_none.2 h, modeText]

/-- A separator, unless the text ends with one. -/
theorem applyTls_of_mark (on : TlsMode.ofSetting ssl ≠ .disabled) (h : ¬ FindsMode d)
    {front query : List Char} (hd : cutFirst '?' d = some (front, query)) :
    ∃ sep, applyTls d ssl = d ++ (sep ++ modeText (TlsMode.ofSetting ssl)) ∧
      (sep = ['&'] ∨ sep = [] ∧ (query = [] ∨ query.getLast? = some '&')) := by
  have none : (pieces '&' query).any (Text.beginsWith tlsKey) = false := by
    refine Bool.eq_false_iff.2 fun found => h ?_
    obtain ⟨p, hp, begins⟩ := List.any_eq_true.1 found
    exact ⟨front, query, hd, p, hp, Text.beginsWith_iff.1 begins⟩
  unfold applyTls
  split
  · next off => exact absurd off on
  · simp only [hd, none, Bool.false_eq_true, if_false, List.isEmpty_iff]
    split
    · next ends => exact ⟨[], by simp [modeText], .inr ⟨rfl, ends⟩⟩
    · exact ⟨['&'], by simp [modeText], .inl rfl⟩

/-! ## The effect -/

variable {r : Dsn}

theorem takesEffect_of_finds (h : read d = .ok r) (finds : FindsMode d)
    (said : r.param tlsName ≠ none) : TakesEffect d ssl r :=
  ⟨r, by rw [applyTls_of_finds finds]; exact h,
    { user := rfl, password := rfl, address := rfl, database := rfl
      asked := fun none => absurd none said
      kept := fun _ => ⟨rfl, rfl⟩ }⟩

theorem takesEffect_of_no_mark (on : TlsMode.ofSetting ssl ≠ .disabled) (h : read d = .ok r)
    (hm : '?' ∉ d) : TakesEffect d ssl r := by
  obtain ⟨head, tail, rfl, ht⟩ := exists_slash h
  have tail_mark : '?' ∉ tail := fun hmem => hm (by simp [hmem])
  have ht' : '/' ∉ tail ++ '?' :: modeText (TlsMode.ofSetting ssl) := by
    simp [ht, slash_not_mem_modeText]
  obtain ⟨database, params⟩ := tail_of_read ht h
  rw [tailParts_none tail_mark] at database params
  have applied := read_behind ht h ht'
  rw [tailParts_query tail_mark, readParams_modeText, ← List.cons_append, ← List.append_assoc,
    ← applyTls_of_no_mark on hm] at applied
  exact ⟨_, applied,
    { user := rfl, password := rfl, address := rfl
      database := database.symm
      asked := fun _ => (tlsMode_of_some (by simp [param])).trans (ofValue_value _)
      kept := fun said => absurd (by rw [param, params]; rfl) said }⟩

/-- With a question mark behind the last slash the parameter goes to the
others. -/
theorem read_applyTls_query (on : TlsMode.ofSetting ssl ≠ .disabled) (finds : ¬ FindsMode d)
    (h : read d = .ok r) {head tail : List Char} (hd : cutLast '/' d = some (head, tail))
    (hm : '?' ∈ tail) :
    read (applyTls d ssl) = .ok
      { r with params := r.params ++ [(tlsName, (TlsMode.ofSetting ssl).value)] } := by
  obtain ⟨rfl, ht⟩ := Text.cutLast_eq_some.1 hd
  obtain ⟨database, query, htail⟩ := Text.exists_cutFirst hm
  obtain ⟨rfl, hdb⟩ := Text.cutFirst_eq_some.1 htail
  obtain ⟨rdatabase, rparams⟩ := tail_of_read ht h
  rw [tailParts_query hdb] at rdatabase rparams
  -- The text `applyTls` looks at ends with the parameters.
  have mark : '?' ∈ head ++ '/' :: (database ++ '?' :: query) := by simp
  obtain ⟨front, seen, hfirst⟩ := Text.exists_cutFirst mark
  have ends : query <:+ seen := Text.suffix_of_cutFirst hfirst
    (by simp : _ = head ++ '/' :: database ++ '?' :: query)
  obtain ⟨sep, applied, hsep⟩ := applyTls_of_mark on finds hfirst
  have hsep' : '/' ∉ sep := by obtain rfl | ⟨rfl, -⟩ := hsep <;> decide
  have added : readParams (query ++ (sep ++ modeText (TlsMode.ofSetting ssl))) =
      readParams query ++ [(tlsName, (TlsMode.ofSetting ssl).value)] := by
    obtain rfl | ⟨rfl, last⟩ := hsep
    · rw [List.singleton_append, readParams_append, readParams_modeText]
    · rw [List.nil_append, readParams_behind (ends_of_suffix ends last), readParams_modeText]
  have ht' : '/' ∉ database ++ '?' :: (query ++ (sep ++ modeText (TlsMode.ofSetting ssl))) := by
    simp only [List.mem_append, List.mem_cons, not_or] at ht ⊢
    exact ⟨ht.1, ht.2.1, ht.2.2, hsep', slash_not_mem_modeText _⟩
  rw [applied, List.append_assoc, List.cons_append, List.append_assoc, List.cons_append,
    read_behind ht h ht', tailParts_query hdb, added, ← rdatabase, ← rparams]

/-- With a question mark in front of it only, the parameter goes into the name of
the database. -/
theorem read_applyTls_database (on : TlsMode.ofSetting ssl ≠ .disabled) (finds : ¬ FindsMode d)
    (h : read d = .ok r) (meets : ¬ MeetsQuery d) :
    ∃ r', read (applyTls d ssl) = .ok r' ∧ r'.param tlsName = none := by
  obtain ⟨head, tail, rfl, ht⟩ := exists_slash h
  have tail_mark : '?' ∉ tail := fun hm =>
    meets (.inr ⟨head, tail, Text.cutLast_append head ht, hm⟩)
  obtain ⟨front, seen, hfirst⟩ := Text.exists_cutFirst
    (Decidable.byContradiction fun none => meets (.inl none))
  obtain ⟨sep, applied, hsep⟩ := applyTls_of_mark on finds hfirst
  have plain : '/' ∉ sep ∧ '?' ∉ sep := by obtain rfl | ⟨rfl, -⟩ := hsep <;> decide
  have ht' : '/' ∉ tail ++ (sep ++ modeText (TlsMode.ofSetting ssl)) := by
    simp [ht, plain.1, slash_not_mem_modeText]
  have none : '?' ∉ tail ++ (sep ++ modeText (TlsMode.ofSetting ssl)) := by
    simp [tail_mark, plain.2, mark_not_mem_modeText]
  have read' := read_behind ht h ht'
  rw [tailParts_none none, ← List.cons_append, ← List.append_assoc, ← applied] at read'
  exact ⟨_, read', rfl⟩

/-- `applyTls` finds a mode where `read` has a parameter for it, and meets the
parameters where it has none. -/
structure Agree (d : List Char) (r : Dsn) : Prop where
  finds : FindsMode d ↔ r.param tlsName ≠ none
  meets : r.param tlsName = none → MeetsQuery d

theorem agree_of_takesEffect (on : TlsMode.ofSetting ssl ≠ .disabled) (h : read d = .ok r)
    (effect : TakesEffect d ssl r) : Agree d r := by
  obtain ⟨r', hr', effect⟩ := effect
  have asked (none : r.param tlsName = none) : r'.param tlsName ≠ .none := fun none' =>
    on ((effect.asked none).symm.trans (tlsMode_of_none none'))
  -- A mode that is found is left as it is.
  have finds_said (finds : FindsMode d) : r.param tlsName ≠ none := fun none => by
    rw [applyTls_of_finds finds, h] at hr'
    cases hr'
    exact asked none none
  refine ⟨⟨finds_said, fun said => ?_⟩, fun none => ?_⟩
  · refine Classical.byContradiction fun finds => ?_
    obtain ⟨head, tail, hd, hm⟩ := query_of_param h said
    rw [read_applyTls_query on finds h hd hm] at hr'
    cases hr'
    have same := (effect.kept said).2
    simp at same
  · refine Classical.byContradiction fun meets => ?_
    obtain ⟨other, hother, none'⟩ :=
      read_applyTls_database on (fun finds => finds_said finds none) h meets
    rw [hother] at hr'
    cases hr'
    exact asked none none'

theorem takesEffect_of_agree (on : TlsMode.ofSetting ssl ≠ .disabled) (h : read d = .ok r)
    (agree : Agree d r) : TakesEffect d ssl r := by
  by_cases none : r.param tlsName = .none
  · obtain hm | ⟨head, tail, hd, hm⟩ := agree.meets none
    · exact takesEffect_of_no_mark on h hm
    · have finds : ¬ FindsMode d := fun finds => agree.finds.1 finds none
      have added : Dsn.param { r with
          params := r.params ++ [(tlsName, (TlsMode.ofSetting ssl).value)] } tlsName =
          some (TlsMode.ofSetting ssl).value := by
        rw [param, List.lookup_append, show r.params.lookup tlsName = .none from none]
        simp
      exact ⟨_, read_applyTls_query on finds h hd hm,
        { user := rfl, password := rfl, address := rfl, database := rfl
          asked := fun _ => (tlsMode_of_some added).trans (ofValue_value _)
          kept := fun said => absurd none said }⟩
  · exact takesEffect_of_finds h (agree.finds.2 none) none

/-- A setting that is not off takes effect on a text that can be read exactly if
`applyTls` and `read` agree on its parameters. -/
theorem takesEffect_iff (h : read d = .ok r)
    (hs : Text.lower (Text.trim ssl) ∉ TlsMode.offSettings) : TakesEffect d ssl r ↔ Agree d r :=
  ⟨agree_of_takesEffect (ofSetting_on hs) h, takesEffect_of_agree (ofSetting_on hs) h⟩

theorem takesEffect_iff_shop :
    (read "app:x@tcp(db)/shop?charset=latin1".toList = .ok
        { user := some "app".toList, password := some "x".toList
          address := .tcp "db".toList 3306, database := some "shop".toList
          params := [("charset".toList, "latin1".toList)] } ∧
      Text.lower (Text.trim " Preferred".toList) ∉ TlsMode.offSettings) ∧
    TakesEffect "app:x@tcp(db)/shop?charset=latin1".toList " Preferred".toList
        { user := some "app".toList, password := some "x".toList
          address := .tcp "db".toList 3306, database := some "shop".toList
          params := [("charset".toList, "latin1".toList)] } := by
  refine ⟨⟨by decide +kernel, by decide +kernel⟩, ?_⟩
  refine (takesEffect_iff (by decide +kernel) (by decide +kernel)).2 ⟨⟨?_, ?_⟩, fun _ => ?_⟩
  · rintro ⟨front, query, hd, p, hp, begins⟩
    cases hd
    obtain rfl : p = "charset=latin1".toList := List.mem_singleton.1 hp
    exact absurd begins (by decide)
  · intro said
    exact absurd rfl said
  · exact .inr ⟨_, _, rfl, by decide⟩

/-- A question mark in the password hides the parameters: a mode found there is
none, and a mode added goes into the name of the database. A parameter without a
value is not found. -/
theorem setting_lost :
    Text.lower (Text.trim "true".toList) ∉ TlsMode.offSettings ∧
    ((read "app:x?tls=y@tcp(db)/shop".toList).map fun r => (r.param tlsName, r.database)) =
      .ok (none, some "shop".toList) ∧
    ((read (applyTls "app:x?tls=y@tcp(db)/shop".toList "true".toList)).map tlsMode) =
      .ok .disabled ∧
    ((read "app:x?y@tcp(db)/shop".toList).map fun r => (r.param tlsName, r.database)) =
      .ok (none, some "shop".toList) ∧
    ((read (applyTls "app:x?y@tcp(db)/shop".toList "true".toList)).map fun r =>
      (r.tlsMode, r.database)) = .ok (.disabled, some "shop&tls=true".toList) ∧
    ((read "app:x@tcp(db)/shop?tls".toList).map Dsn.params) = .ok [(tlsName, [])] ∧
    ((read (applyTls "app:x@tcp(db)/shop?tls".toList "true".toList)).map Dsn.params) =
      .ok [(tlsName, []), (tlsName, "true".toList)] := by
  decide +kernel

end QueryGate.Dsn
