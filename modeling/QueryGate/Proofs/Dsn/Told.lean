import QueryGate.Proofs.Dsn.Mask
/-!
# What is told of a connection text

A text that can be read is described by its address and database, and one that
cannot is shown masked, with the reason. The reason quotes parts of the text, and
these are cut at the last slash: with no slash behind the credentials, the part
it quotes may be a part of the password. `told_alike_iff` says when it is not.
-/

namespace QueryGate.Dsn

open Text (cutFirst cutLast)

/-- The description of a connection, or the text of the error. -/
def told (d : List Char) : Except String (List Char) :=
  match read d with
  | .ok r => .ok r.summary
  | .error e => .error e.message

/-- The text that says why `d` cannot be read. -/
def refusal (d : List Char) (fault : Fault) : List Char :=
  "Invalid DSN '".toList ++ mask d ++ "': ".toList ++ fault.text

theorem told_eq (d : List Char) :
    told d = match parts d with
      | .ok r => .ok r.summary
      | .error fault => .error ("Connection failed: " ++ .ofList (refusal d fault)) := by
  unfold told read
  cases parts d with
  | ok r => rfl
  | error fault => rfl

theorem ofList_behind {head : String} {s t : List Char}
    (h : head ++ String.ofList s = head ++ String.ofList t) : s = t := by
  have texts := congrArg String.toList h
  rw [String.toList_append, String.toList_append, String.toList_ofList,
    String.toList_ofList] at texts
  exact List.append_cancel_left texts

theorem text_of_refusal {d d' : List Char} {fault fault' : Fault} (hm : mask d = mask d')
    (h : refusal d fault = refusal d' fault') : fault.text = fault'.text := by
  unfold refusal at h
  rw [hm] at h
  exact List.append_cancel_left h

/-- Texts with one mask of which the same is told are refused for reasons with
the same text. -/
theorem fault_of_told {d d' : List Char} {fault : Fault} (hm : mask d = mask d')
    (hf : parts d = .error fault) (h : told d = told d') :
    ∃ fault', parts d' = .error fault' ∧ fault'.text = fault.text := by
  rw [told_eq, told_eq, hf] at h
  cases hp : parts d' with
  | ok r => rw [hp] at h; cases h
  | error fault' =>
    rw [hp] at h
    have same : refusal d fault = refusal d' fault' := ofList_behind (Except.error.inj h)
    exact ⟨fault', rfl, (text_of_refusal hm same).symm⟩

/-! ## A slash behind the credentials -/

/-- The password goes into the password of the result and nowhere else. -/
theorem parts_of_slash {u p r host tail : List Char} (hu : ':' ∉ u) (hr : '@' ∉ r)
    (h : cutLast '/' r = some (host, tail)) :
    parts (u ++ ':' :: p ++ '@' :: r) = do
      let address ← readAddress host
      let (database, query) := (cutFirst '?' tail).getD (tail, [])
      return {
        user := nonEmpty u
        password := some p
        address
        database := nonEmpty database
        params := readParams query } := by
  have slash := Text.cutLast_behind (u ++ ':' :: p ++ ['@']) h
  obtain ⟨rfl, -⟩ := Text.cutLast_eq_some.1 h
  have host_at : '@' ∉ host := fun hm => hr (by simp [hm])
  have sign : cutLast '@' (u ++ ':' :: p ++ '@' :: host) = some (u ++ ':' :: p, host) :=
    Text.cutLast_append _ host_at
  have colon : cutFirst ':' (u ++ ':' :: p) = some (u, p) := Text.cutFirst_append hu p
  simp only [List.append_assoc, List.cons_append, List.nil_append] at slash sign ⊢
  rw [parts, slash]
  simp only [sign, readCredentials, colon]
  rfl

theorem told_of_slash {u p p' r : List Char} (hu : ':' ∉ u) (hr : '@' ∉ r) (h : '/' ∈ r) :
    told (u ++ ':' :: p ++ '@' :: r) = told (u ++ ':' :: p' ++ '@' :: r) := by
  obtain ⟨host, tail, hcut⟩ := Text.exists_cutLast h
  rw [told_eq, told_eq, parts_of_slash hu hr hcut, parts_of_slash hu hr hcut]
  cases readAddress host with
  | ok address => rfl
  | error fault =>
    show Except.error ("Connection failed: " ++ .ofList (refusal _ fault)) = _
    unfold refusal
    rw [mask_password hu p p' r]
    rfl

/-! ## No slash behind the credentials -/

/-- The part in front of a slash in the password is taken for the address. -/
theorem parts_of_early_slash {u q r : List Char} (hu : '@' ∉ u) (hq : '@' ∉ q) (hr : '/' ∉ r)
    (fault : Fault) :
    parts (u ++ ':' :: (q ++ ['/']) ++ '@' :: r) = .error fault ↔
      readAddress (u ++ ':' :: q) = .error fault := by
  have slash : cutLast '/' (u ++ ':' :: (q ++ ['/']) ++ '@' :: r) =
      some (u ++ ':' :: q, '@' :: r) := by
    rw [show u ++ ':' :: (q ++ ['/']) ++ '@' :: r = u ++ ':' :: q ++ '/' :: '@' :: r by simp]
    exact Text.cutLast_append _ (by simp [hr])
  have sign : cutLast '@' (u ++ ':' :: q) = none := Text.cutLast_eq_none.2 (by simp [hu, hq])
  rw [parts, slash]
  simp only [sign]
  cases readAddress (u ++ ':' :: q) with
  | ok address => constructor <;> intro h <;> cases h
  | error other => exact ⟨fun h => by cases h; rfl, fun h => by cases h; rfl⟩

theorem readAddress_unsupported {net : List Char} (open_ : '(' ∉ net) (colon : ':' ∈ net) :
    readAddress net = .error (.unsupportedNetwork net) := by
  have none : cutFirst '(' net = none := Text.cutFirst_eq_none.2 open_
  have other : net ≠ "tcp".toList ∧ net ≠ [] ∧ net ≠ "unix".toList := by
    refine ⟨?_, ?_, ?_⟩ <;> rintro rfl <;> revert colon <;> decide
  obtain ⟨tcp, empty, unix⟩ := other
  simp only [readAddress, networkParts, none, bind, Except.bind, List.isEmpty_iff, tcp, empty, unix,
    or_self, if_false]

/-- A network with an opening parenthesis behind which the text does not close. -/
theorem networkParts_open {net : List Char} (open_ : '(' ∈ net) (colon : net.getLast? = some ':') :
    networkParts net = .error .openAddress := by
  unfold networkParts
  obtain ⟨network, rest, hc⟩ := Text.exists_cutFirst open_
  rw [hc]
  obtain ⟨rfl, -⟩ := Text.cutFirst_eq_some.1 hc
  cases hb : Text.before? [')'] rest with
  | none => simp only [hb]
  | some address =>
    obtain rfl := Text.before?_eq_some.1 hb
    rw [show network ++ '(' :: (address ++ [')']) = network ++ '(' :: address ++ [')'] by simp,
      List.getLast?_append] at colon
    cases colon

theorem networkParts_closed {net : List Char} (open_ : '(' ∈ net) :
    ∃ network address, networkParts (net ++ [')']) = .ok (network, address) := by
  obtain ⟨network, rest, hc⟩ := Text.exists_cutFirst open_
  obtain ⟨rfl, hn⟩ := Text.cutFirst_eq_some.1 hc
  refine ⟨network, rest, ?_⟩
  rw [networkParts, List.append_assoc, List.cons_append, Text.cutFirst_append hn]
  simp [Text.before?_eq_some.2 (rfl : rest ++ [')'] = rest ++ [')'])]

theorem readPort_ne {s : List Char} {fault : Fault} (h : readPort s = .error fault) :
    fault ≠ .openAddress := by
  unfold readPort at h
  split at h
  · cases h
  · cases h; nofun

theorem hostAndPort_ne {s : List Char} {fault : Fault} (h : hostAndPort s = .error fault) :
    fault ≠ .openAddress := by
  have port {host port : List Char} {fault : Fault}
      (h : (do return Address.tcp host (← readPort port) : Except Fault Address) = .error fault) :
      fault ≠ .openAddress := by
    obtain bad | ⟨_, -, none⟩ := bind_eq_error.1 h
    · exact readPort_ne bad
    · cases none
  unfold hostAndPort at h
  split at h
  · unfold bracketedHost at h
    split at h
    · cases h; nofun
    · exact port h
    · cases h
  · split at h
    · exact port h
    · cases h

/-- An address in parentheses may have other faults, but not that one. -/
theorem readAddress_ne {net network address : List Char} {fault : Fault}
    (h : networkParts net = .ok (network, address)) (hf : readAddress net = .error fault) :
    fault ≠ .openAddress := by
  unfold readAddress at hf
  rw [h] at hf
  dsimp only [bind, Except.bind] at hf
  split at hf
  · split at hf
    · cases hf
    · exact hostAndPort_ne hf
  · split at hf
    · split at hf
      · cases hf; nofun
      · cases hf
    · cases hf; nofun

/-- No other reason has that text. -/
theorem eq_openAddress {fault : Fault} (h : fault.text = Fault.openAddress.text) :
    fault = .openAddress := by
  have first : fault.text.head? = some 'a' := by rw [h]; rfl
  cases fault with
  | openAddress => rfl
  | noDatabaseSlash | noSocket | unsupportedNetwork | openHost | badPort => cases first

theorem unsupported_inj {name name' : List Char}
    (h : (Fault.unsupportedNetwork name).text = (Fault.unsupportedNetwork name').text) :
    name = name' := by
  change "unsupported network '".toList ++ name ++ ['\''] =
    "unsupported network '".toList ++ name' ++ ['\''] at h
  exact List.append_cancel_left (List.append_cancel_right h)

/-- Two passwords that are told apart. -/
theorem exists_told_ne {u r : List Char} (hu : ':' ∉ u) (hu' : '@' ∉ u) (hr : '/' ∉ r) :
    ∃ p p', '@' ∉ p ∧ '@' ∉ p' ∧
      told (u ++ ':' :: p ++ '@' :: r) ≠ told (u ++ ':' :: p' ++ '@' :: r) := by
  by_cases open_ : '(' ∈ u
  · -- One password closes the parenthesis of the user, the other does not.
    refine ⟨[] ++ ['/'], [')'] ++ ['/'], by decide, by decide, fun same => ?_⟩
    have unclosed : readAddress (u ++ ':' :: []) = .error .openAddress := by
      rw [readAddress, networkParts_open (by simp [open_]) (by simp)]
      rfl
    obtain ⟨fault, hp, text⟩ := fault_of_told (mask_password hu _ _ r)
      ((parts_of_early_slash hu' (by decide) hr _).2 unclosed) same
    have closed : readAddress (u ++ ':' :: [')']) = .error fault :=
      (parts_of_early_slash hu' (by decide) hr _).1 hp
    have opening : '(' ∈ u ++ [':'] := by simp [open_]
    obtain ⟨network, address, known⟩ := networkParts_closed opening
    rw [List.append_assoc, List.singleton_append] at known
    exact readAddress_ne known closed (eq_openAddress text)
  · -- The reason quotes all that is in front of the slash.
    refine ⟨[] ++ ['/'], ['x'] ++ ['/'], by decide, by decide, fun same => ?_⟩
    have quoted (q : List Char) (hq : '(' ∉ q) :
        readAddress (u ++ ':' :: q) = .error (.unsupportedNetwork (u ++ ':' :: q)) :=
      readAddress_unsupported (by simp [open_, hq]) (by simp)
    obtain ⟨fault, hp, text⟩ := fault_of_told (mask_password hu _ _ r)
      ((parts_of_early_slash hu' (by decide) hr _).2 (quoted [] (by decide))) same
    have other := (parts_of_early_slash hu' (by decide) hr _).1 hp
    rw [quoted ['x'] (by decide)] at other
    cases other
    have quoted : u ++ ':' :: ['x'] = u ++ ':' :: [] := unsupported_inj text
    simp at quoted

/-- With `user:` and a password before the only at sign, what is told of a text
does not depend on the password: exactly if a slash stands behind the at sign. -/
theorem told_alike_iff {u r : List Char} (hu : ':' ∉ u) (hu' : '@' ∉ u) (hr : '@' ∉ r) :
    (∀ p p' : List Char, '@' ∉ p → '@' ∉ p' →
      told (u ++ ':' :: p ++ '@' :: r) = told (u ++ ':' :: p' ++ '@' :: r)) ↔ '/' ∈ r := by
  constructor
  · intro alike
    refine Decidable.byContradiction fun none => ?_
    obtain ⟨p, p', hp, hp', apart⟩ := exists_told_ne (r := r) hu hu' none
    exact apart (alike p p' hp hp')
  · intro slash p p' _ _
    exact told_of_slash hu hr slash

theorem told_alike_iff_shop :
    (':' ∉ "app".toList ∧ '@' ∉ "app".toList ∧ '@' ∉ "tcp(db:bad)/shop".toList) ∧
      ((∀ p p' : List Char, '@' ∉ p → '@' ∉ p' →
        told ("app".toList ++ ':' :: p ++ '@' :: "tcp(db:bad)/shop".toList) =
          told ("app".toList ++ ':' :: p' ++ '@' :: "tcp(db:bad)/shop".toList)) ↔
        '/' ∈ "tcp(db:bad)/shop".toList) :=
  ⟨by decide, told_alike_iff (by decide) (by decide) (by decide)⟩

/-- What stands in front of a slash in the password is quoted as the name of a
network. -/
theorem password_quoted :
    (':' ∉ "app".toList ∧ '@' ∉ "app".toList ∧ '@' ∉ "hunter2/x".toList ∧ '@' ∉ "y".toList ∧
      '@' ∉ "tcp(db)".toList) ∧
    told ("app".toList ++ ':' :: "hunter2/x".toList ++ '@' :: "tcp(db)".toList) =
      .error ("Connection failed: Invalid DSN 'app:***@tcp(db)': " ++
        "unsupported network 'app:hunter2'") ∧
    told ("app".toList ++ ':' :: "y".toList ++ '@' :: "tcp(db)".toList) =
      .error ("Connection failed: Invalid DSN 'app:***@tcp(db)': " ++
        "missing '/' before the database name") := by
  decide +kernel

/-- A slash in the user may even put the password into the description. -/
example : told "tcp/app:hunter2@tcp(db)".toList =
    .ok "127.0.0.1:3306/app:hunter2@tcp(db)".toList := by
  decide +kernel

end QueryGate.Dsn
