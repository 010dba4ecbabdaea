import QueryGate.Proofs.Dsn.Address
/-!
# Reading back what was written

A text is written part by part, and each part may have the separators of the
others in it: the password all of them, a socket all but the at sign, the name of
a host all but the at sign. `read_text` says that reading finds the parts again.
-/

namespace QueryGate

namespace Dsn

/-! ## Writing -/

namespace Address

def network : Address → List Char
  | tcp .. => "tcp".toList
  | unix _ => "unix".toList

/-- The network, and the address in parentheses. -/
def wrapped (a : Address) : List Char := a.network ++ '(' :: (a.text ++ [')'])

end Address

/-- User and password with the at sign behind them, unless there is neither. -/
def credentialsText : Option (List Char) → Option (List Char) → List Char
  | none, none => []
  | some user, none => user ++ ['@']
  | user, some password => user.getD [] ++ ':' :: (password ++ ['@'])

def paramText (p : List Char × List Char) : List Char := p.1 ++ '=' :: p.2

def queryText (params : List (List Char × List Char)) : List Char :=
  Text.joinWith ['&'] (params.map paramText)

/-- The part behind the last slash. The question mark is there if a parameter
is. -/
def tailText (database : Option (List Char)) (params : List (List Char × List Char)) : List Char :=
  database.getD [] ++ if params.isEmpty then [] else '?' :: queryText params

/-- `[user[:password]@]network(address)/[database][?key=value&…]` -/
def text (d : Dsn) : List Char :=
  credentialsText d.user d.password ++ d.address.wrapped ++ '/' :: tailText d.database d.params

/-! ## What may be written -/

/-- An address without an at sign; a host that is not taken for one in brackets. -/
def Address.Apart : Address → Prop
  | tcp host port => '@' ∉ host ∧ host.head? ≠ some '[' ∧ port ≤ 65535
  | unix socket => socket ≠ [] ∧ '@' ∉ socket

/-- Parts without the separators that they are found by. Of the password nothing
is asked. -/
structure Apart (d : Dsn) : Prop where
  user : ∀ u ∈ d.user, u ≠ [] ∧ ':' ∉ u
  address : d.address.Apart
  database : ∀ name ∈ d.database, name ≠ [] ∧ '/' ∉ name ∧ '?' ∉ name
  keys : ∀ p ∈ d.params, '=' ∉ p.1 ∧ '&' ∉ p.1 ∧ '/' ∉ p.1
  values : ∀ p ∈ d.params, '&' ∉ p.2 ∧ '/' ∉ p.2

/-- What is not there is written as nothing. -/
theorem nonEmpty_getD {o : Option (List Char)} (h : ∀ s ∈ o, s ≠ []) : nonEmpty (o.getD []) = o := by
  cases o with
  | none => rfl
  | some s => simp [nonEmpty, h s rfl]

/-! ## The address -/

variable {a : Address}

theorem wrapped_no_at (h : a.Apart) : '@' ∉ a.wrapped := by
  cases a with
  | tcp host port =>
    have digits : '@' ∉ Number.digitsOf port := Number.not_mem_digitsOf (by decide) port
    simp [Address.wrapped, Address.network, Address.text, h.1, digits]
  | unix socket => simp [Address.wrapped, Address.network, Address.text, h.2]

theorem readAddress_wrapped (h : a.Apart) : readAddress a.wrapped = .ok a := by
  refine readAddress_eq_ok_iff.2 (.inl ?_)
  cases a with
  | tcp host port =>
    obtain ⟨-, bracket, bounded⟩ := h
    exact .tcp (.inl rfl) (.hostPort bracket ⟨.of_digits port, bounded⟩)
  | unix socket => exact .unix h.1

/-! ## In front of the address -/

theorem readCredentials_password {user : List Char} (h : ':' ∉ user) (password : List Char) :
    readCredentials (user ++ ':' :: password) = (user, some password) := by
  rw [readCredentials, Text.cutFirst_append h]

theorem readCredentials_user {user : List Char} (h : ':' ∉ user) :
    readCredentials user = (user, none) := by
  rw [readCredentials, Text.cutFirst_eq_none.2 h]

theorem headParts_credentials {user : Option (List Char)} {net : List Char}
    (hu : ∀ u ∈ user, u ≠ [] ∧ ':' ∉ u) (password : Option (List Char)) (hnet : '@' ∉ net) :
    ∃ credentials, headParts (credentialsText user password ++ net) = (credentials, net) ∧
      (credentials.bind fun (u, _) => nonEmpty u) = user ∧ credentials.bind Prod.snd = password := by
  have same : nonEmpty (user.getD []) = user := nonEmpty_getD fun u known => (hu u known).1
  have colon : ':' ∉ user.getD [] := by
    cases user with
    | none => simp
    | some u => exact (hu u rfl).2
  cases password with
  | some password =>
    refine ⟨some (user.getD [], some password), ?_, same, rfl⟩
    have text : credentialsText user (some password) ++ net =
        (user.getD [] ++ ':' :: password) ++ '@' :: net := by
      cases user <;> simp [credentialsText]
    rw [text, headParts_behind _ hnet, readCredentials_password colon]
  | none =>
    cases user with
    | none => exact ⟨none, headParts_alone hnet, rfl, rfl⟩
    | some u =>
      refine ⟨some (u, none), ?_, same, rfl⟩
      have text : credentialsText (some u) none ++ net = u ++ '@' :: net := by simp [credentialsText]
      rw [text, headParts_behind _ hnet, readCredentials_user (hu u rfl).2]

/-! ## Behind the last slash -/

theorem readParams_paramText {p : List Char × List Char} (key : '=' ∉ p.1 ∧ '&' ∉ p.1)
    (value : '&' ∉ p.2) : readParams (paramText p) = [p] := by
  have whole : '&' ∉ paramText p := by simp [paramText, key.2, value]
  have some : paramText p ≠ [] := by simp [paramText]
  have back : readParam (paramText p) = p := by
    rw [readParam, paramText, Text.cutFirst_append key.1]
    rfl
  simp [readParams, Text.pieces_of_not_mem whole, some, back]

theorem readParams_queryText {params : List (List Char × List Char)}
    (keys : ∀ p ∈ params, '=' ∉ p.1 ∧ '&' ∉ p.1) (values : ∀ p ∈ params, '&' ∉ p.2) :
    readParams (queryText params) = params := by
  induction params with
  | nil => rfl
  | cons p params ih =>
    obtain ⟨key, keys⟩ := List.forall_mem_cons.1 keys
    obtain ⟨value, values⟩ := List.forall_mem_cons.1 values
    have first := readParams_paramText key value
    cases params with
    | nil =>
      rw [queryText, List.map_singleton, Text.joinWith_singleton]
      exact first
    | cons q params =>
      have split : queryText (p :: q :: params) = paramText p ++ '&' :: queryText (q :: params) := rfl
      rw [split, readParams_append, first, ih keys values]
      rfl

theorem tailParts_tailText {database : Option (List Char)} (h : ∀ name ∈ database, '?' ∉ name)
    (params : List (List Char × List Char)) :
    tailParts (tailText database params) = (database.getD [], queryText params) := by
  have plain : '?' ∉ database.getD [] := by
    cases database with
    | none => simp
    | some name => exact h name rfl
  unfold tailText
  cases params with
  | nil =>
    rw [List.isEmpty_nil, if_pos rfl, List.append_nil]
    exact tailParts_none plain
  | cons p params => exact tailParts_query plain _

theorem tailText_no_slash {database : Option (List Char)} (h : ∀ name ∈ database, '/' ∉ name)
    {params : List (List Char × List Char)} (hp : ∀ p ∈ params, '/' ∉ p.1 ∧ '/' ∉ p.2) :
    '/' ∉ tailText database params := by
  have name : '/' ∉ database.getD [] := by
    cases database with
    | none => simp
    | some name => exact h name rfl
  have query : '/' ∉ queryText params := fun slash => by
    obtain separator | ⟨part, hpart, inside⟩ := Text.mem_joinWith slash
    · exact absurd separator (by decide)
    · obtain ⟨p, known, rfl⟩ := List.mem_map.1 hpart
      simp [paramText, hp p known] at inside
  unfold tailText
  split <;> simp [name, query]

/-! ## The whole -/

/-- Reading a text gives back the parts that it was written from: user and
password, address, database and parameters, these in their order. -/
theorem read_text {d : Dsn} (h : d.Apart) : read d.text = .ok d := by
  -- The last slash is found first, as none of the parts behind it has one; then
  -- what is on either side is read by itself.
  have slash : '/' ∉ tailText d.database d.params :=
    tailText_no_slash (fun name known => (h.database name known).2.1) fun p known =>
      ⟨(h.keys p known).2.2, (h.values p known).2⟩
  obtain ⟨credentials, head, user, password⟩ :=
    headParts_credentials h.user d.password (wrapped_no_at h.address)
  have tail := tailParts_tailText (fun name known => (h.database name known).2.2) d.params
  have database : nonEmpty (d.database.getD []) = d.database :=
    nonEmpty_getD fun name known => (h.database name known).1
  have params : readParams (queryText d.params) = d.params :=
    readParams_queryText (fun p known => ⟨(h.keys p known).1, (h.keys p known).2.1⟩) fun p known =>
      (h.values p known).1
  refine (read_slash slash).2 ⟨d.address, ?_, ?_⟩
  · rw [head]
    exact readAddress_wrapped h.address
  · simp only [ofParts, head, tail, user, password, database, params]

/-- A password with all separators in it, and a socket with most of them. -/
theorem read_text_socket :
    let d : Dsn :=
      { user := some "a@b/c".toList, password := some "p:@(?/&=)".toList
        address := .unix "/run/(x):y/?s".toList, database := some "shop".toList
        params := [("tls".toList, "a=b?".toList), ([], [])] }
    d.text = "a@b/c:p:@(?/&=)@unix(/run/(x):y/?s)/shop?tls=a=b?&=".toList ∧
      d.Apart ∧ read d.text = .ok d := by
  intro d
  have apart : d.Apart :=
    ⟨by decide, by unfold Address.Apart; decide, by decide, by decide, by decide⟩
  exact ⟨by decide +kernel, apart, read_text apart⟩

end Dsn

end QueryGate
