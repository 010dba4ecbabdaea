import QueryGate.Proofs.Digits
import QueryGate.Proofs.Dsn.Tls
/-!
# What an address is read from

The network part of a text stands in front of its last slash, behind the last at
sign there. `read_address_iff` says which network parts can be read, and what
address they come to: those that are spelled as an address is, and those with a
host in brackets that has something behind it which is no port. Nothing comes of
what stands there.
-/

namespace QueryGate.Dsn

open Text (cutFirst cutLast)

/-! ## How an address is written -/

/-- A port as it is written. -/
structure PortText (port : Nat) (text : List Char) : Prop where
  spelled : Number.Spelled port text
  bounded : port ≤ 65535

theorem PortText.no_colon {port : Nat} {text : List Char} (h : PortText port text) :
    ':' ∉ text := fun colon => by
  obtain sign | digit := h.spelled.mem ':' colon
  · cases sign
  · cases digit

namespace Address

/-- What may stand in the parentheses, and the address that it names. A host that
begins with a bracket is in brackets. -/
inductive Spelled : List Char → Address → Prop where
  | nothing : Spelled [] (.tcp "127.0.0.1".toList 3306)
  | host {host : List Char} : host ≠ [] → host.head? ≠ some '[' → ':' ∉ host →
      Spelled host (.tcp host 3306)
  | hostPort {host text : List Char} {port : Nat} : host.head? ≠ some '[' → PortText port text →
      Spelled (host ++ ':' :: text) (.tcp host port)
  | bracketed {host : List Char} : ']' ∉ host → Spelled ('[' :: (host ++ [']'])) (.tcp host 3306)
  | bracketedPort {host text : List Char} {port : Nat} : ']' ∉ host → PortText port text →
      Spelled ('[' :: (host ++ ']' :: ':' :: text)) (.tcp host port)

/-- A host in brackets with something behind it that is no port. The address has
nothing of it. -/
inductive Overhangs : List Char → Address → Prop where
  | behind {host rest : List Char} : ']' ∉ host → rest ≠ [] → rest.head? ≠ some ':' →
      Overhangs ('[' :: (host ++ ']' :: rest)) (.tcp host 3306)

/-- The names of the network that hosts are reached on. -/
def HostNetwork (network : List Char) : Prop := network = "tcp".toList ∨ network = []

/-- A network part, and the address that it names. -/
inductive Written : List Char → Address → Prop where
  | nothing : Written [] (.tcp "127.0.0.1".toList 3306)
  | name : Written "tcp".toList (.tcp "127.0.0.1".toList 3306)
  | tcp {network s : List Char} {a : Address} : HostNetwork network → Spelled s a →
      Written (network ++ '(' :: (s ++ [')'])) a
  | unix {path : List Char} : path ≠ [] →
      Written ("unix".toList ++ '(' :: (path ++ [')'])) (.unix path)

/-- A network part in which something stands behind a host in brackets. -/
inductive Overhanging : List Char → Address → Prop where
  | tcp {network s : List Char} {a : Address} : HostNetwork network → Overhangs s a →
      Overhanging (network ++ '(' :: (s ++ [')'])) a

end Address

open Address (Spelled Overhangs HostNetwork Written Overhanging)

/-! ## Hosts and ports -/

variable {s network address net : List Char} {a b : Address}

theorem readPort_eq_ok_iff {port : Nat} : readPort s = .ok port ↔ PortText port s := by
  have spelled : Number.readNat Number.word16 s = some port ↔ PortText port s := by
    rw [Number.readNat_eq_some_iff]
    exact ⟨fun h => ⟨h.1, h.2⟩, fun h => ⟨h.1, h.2⟩⟩
  rw [← spelled, readPort]
  cases Number.readNat Number.word16 s <;> simp

/-- A host with a port that can be read. -/
theorem readPort_bind_eq_ok_iff {host : List Char} :
    (do return Address.tcp host (← readPort s) : Except Fault Address) = .ok a ↔
      ∃ port, PortText port s ∧ .tcp host port = a := by
  simp only [bind_eq_ok, readPort_eq_ok_iff, pure_eq_ok]

theorem hostAndPort_plain (h : s.head? ≠ some '[') :
    hostAndPort s = match cutLast ':' s with
      | some (host, port) => do return .tcp host (← readPort port)
      | none => .ok (.tcp s defaultPort) := by
  unfold hostAndPort
  split
  · exact absurd rfl h
  · rfl

theorem bracketedHost_port {host : List Char} (h : ']' ∉ host) (text : List Char) :
    bracketedHost (host ++ ']' :: ':' :: text) = do return .tcp host (← readPort text) := by
  rw [bracketedHost, Text.cutFirst_append h]
  rfl

theorem bracketedHost_noPort {host rest : List Char} (h : ']' ∉ host) (other : rest.head? ≠ some ':') :
    bracketedHost (host ++ ']' :: rest) = .ok (.tcp host 3306) := by
  rw [bracketedHost, Text.cutFirst_append h]
  split
  · next none => cases none
  · next found => cases found; exact absurd rfl other
  · next found => cases found; rfl

theorem spelled_of_hostAndPort (some : s ≠ []) (h : hostAndPort s = .ok a) :
    Spelled s a ∨ Overhangs s a := by
  by_cases bracket : s.head? = .some '['
  · obtain ⟨r, rfl⟩ := List.head?_eq_some_iff.1 bracket
    change bracketedHost r = .ok a at h
    cases hc : cutFirst ']' r with
    | none => rw [bracketedHost, hc] at h; cases h
    | some cut =>
      obtain ⟨host, rest⟩ := cut
      obtain ⟨rfl, hhost⟩ := Text.cutFirst_eq_some.1 hc
      by_cases colon : rest.head? = .some ':'
      · obtain ⟨text, rfl⟩ := List.head?_eq_some_iff.1 colon
        rw [bracketedHost_port hhost] at h
        obtain ⟨port, written, rfl⟩ := readPort_bind_eq_ok_iff.1 h
        exact .inl (.bracketedPort hhost written)
      · rw [bracketedHost_noPort hhost colon] at h
        cases h
        by_cases last : rest = []
        · exact .inl (last ▸ .bracketed hhost)
        · exact .inr (.behind hhost last colon)
  · rw [hostAndPort_plain bracket] at h
    left
    cases hc : cutLast ':' s with
    | none =>
      rw [hc] at h
      cases h
      exact .host some bracket (Text.cutLast_eq_none.1 hc)
    | some cut =>
      obtain ⟨host, text⟩ := cut
      rw [hc] at h
      obtain ⟨rfl, -⟩ := Text.cutLast_eq_some.1 hc
      obtain ⟨port, written, rfl⟩ := readPort_bind_eq_ok_iff.1 h
      refine .hostPort (fun first => bracket ?_) written
      rw [List.head?_append, first]
      rfl

theorem hostAndPort_of_spelled (some : s ≠ []) (h : Spelled s a ∨ Overhangs s a) :
    hostAndPort s = .ok a := by
  obtain h | ⟨hhost, -, other⟩ := h
  · cases h with
    | nothing => exact absurd rfl some
    | host _ bracket colon => rw [hostAndPort_plain bracket, Text.cutLast_eq_none.2 colon]; rfl
    | @hostPort host text port bracket written =>
      have first : (host ++ ':' :: text).head? ≠ .some '[' := by
        cases host with
        | nil => simp
        | cons c host => simpa using bracket
      rw [hostAndPort_plain first, Text.cutLast_append host written.no_colon]
      exact readPort_bind_eq_ok_iff.2 ⟨port, written, rfl⟩
    | bracketed hhost => exact bracketedHost_noPort hhost nofun
    | @bracketedPort host text port hhost written =>
      change bracketedHost (host ++ ']' :: ':' :: text) = .ok (.tcp host port)
      rw [bracketedHost_port hhost]
      exact readPort_bind_eq_ok_iff.2 ⟨port, written, rfl⟩
  · exact bracketedHost_noPort hhost other

theorem Address.Spelled.of_nil (h : Spelled [] a) : a = .tcp "127.0.0.1".toList 3306 := by
  generalize same : ([] : List Char) = s at h
  cases h with
  | nothing => rfl
  | host some => exact absurd same.symm some
  | hostPort => simp at same
  | bracketed | bracketedPort => cases same

theorem overhangs_nil : ¬ Overhangs [] a := nofun

/-- What is read in the parentheses of a network that hosts are reached on. -/
theorem hostAddress_eq_ok_iff :
    (if s.isEmpty then .ok (.tcp defaultHost defaultPort) else hostAndPort s) = .ok a ↔
      Spelled s a ∨ Overhangs s a := by
  by_cases empty : s = []
  · subst empty
    constructor
    · rintro ⟨⟩
      exact .inl .nothing
    · rintro (spelled | overhangs)
      · exact spelled.of_nil ▸ rfl
      · exact absurd overhangs overhangs_nil
  · rw [if_neg (by simpa using empty)]
    exact ⟨spelled_of_hostAndPort empty, hostAndPort_of_spelled empty⟩

/-! ## Network parts -/

theorem networkParts_wrapped (h : '(' ∉ network) (address : List Char) :
    networkParts (network ++ '(' :: (address ++ [')'])) = .ok (network, address) := by
  rw [networkParts, Text.cutFirst_append h]
  dsimp only
  rw [Text.before?_eq_some.2 rfl]

theorem of_networkParts (h : networkParts net = .ok (network, address)) :
    '(' ∉ network ∧ (net = network ∧ address = [] ∨ net = network ++ '(' :: (address ++ [')'])) := by
  unfold networkParts at h
  split at h
  · next none =>
    cases h
    exact ⟨Text.cutFirst_eq_none.1 none, .inl ⟨rfl, rfl⟩⟩
  · next found =>
    obtain ⟨rfl, plain⟩ := Text.cutFirst_eq_some.1 found
    split at h
    · next closed =>
      cases h
      exact ⟨plain, .inr (by rw [Text.before?_eq_some.1 closed])⟩
    · cases h

theorem Address.HostNetwork.plain (h : HostNetwork network) : '(' ∉ network := by
  obtain rfl | rfl := h <;> decide

/-- What a network part comes to, by the network and what is in the parentheses. -/
theorem readAddress_of_parts (h : networkParts net = .ok (network, address)) :
    readAddress net = .ok a ↔
      HostNetwork network ∧ (Spelled address a ∨ Overhangs address a) ∨
        network = "unix".toList ∧ address ≠ [] ∧ .unix address = a := by
  unfold readAddress
  rw [h]
  dsimp only [bind, Except.bind]
  by_cases host : HostNetwork network
  · rw [if_pos (by simpa [HostNetwork] using host), hostAddress_eq_ok_iff]
    have other : network ≠ "unix".toList := by
      rintro rfl
      exact absurd host (by unfold HostNetwork; decide)
    simp only [host, other, true_and, false_and, or_false]
  · rw [if_neg (by simpa [HostNetwork] using host)]
    simp only [host, false_and, false_or]
    by_cases unix : network = "unix".toList
    · rw [if_pos unix]
      by_cases empty : address = [] <;> simp [unix, empty]
    · rw [if_neg unix]
      simp only [unix, false_and, reduceCtorEq]

theorem written_of_readAddress (h : readAddress net = .ok a) : Written net a ∨ Overhanging net a := by
  obtain ⟨⟨network, address⟩, hparts, -⟩ := bind_eq_ok.1 h
  obtain ⟨-, ⟨rfl, rfl⟩ | rfl⟩ := of_networkParts hparts
  · obtain ⟨rfl | rfl, spelled | overhangs⟩ | ⟨-, none, -⟩ := (readAddress_of_parts hparts).1 h
    · exact .inl (spelled.of_nil ▸ .name)
    · exact absurd overhangs overhangs_nil
    · exact .inl (spelled.of_nil ▸ .nothing)
    · exact absurd overhangs overhangs_nil
    · exact absurd rfl none
  · obtain ⟨host, spelled | overhangs⟩ | ⟨rfl, some, rfl⟩ := (readAddress_of_parts hparts).1 h
    · exact .inl (.tcp host spelled)
    · exact .inr (.tcp host overhangs)
    · exact .inl (.unix some)

theorem readAddress_eq_ok_iff : readAddress net = .ok a ↔ Written net a ∨ Overhanging net a := by
  refine ⟨written_of_readAddress, ?_⟩
  rintro (h | h)
  · cases h with
    | nothing | name => rfl
    | @tcp network s _ host spelled =>
      exact (readAddress_of_parts (networkParts_wrapped host.plain s)).2 (.inl ⟨host, .inl spelled⟩)
    | @unix path some =>
      have plain : '(' ∉ "unix".toList := by decide
      have parts := networkParts_wrapped plain path
      exact (readAddress_of_parts parts).2 (.inr ⟨rfl, some, rfl⟩)
  · cases h with
    | @tcp network s _ host overhangs =>
      exact (readAddress_of_parts (networkParts_wrapped host.plain s)).2 (.inl ⟨host, .inr overhangs⟩)

/-! ## The two do not meet -/

theorem not_spelled_of_overhangs (h : Overhangs s b) : ¬ Spelled s a := by
  intro spelled
  obtain @⟨host, rest, hhost, more, other⟩ := h
  -- A host in brackets ends in one place.
  have ends {host' rest' : List Char} (hhost' : ']' ∉ host')
      (same : '[' :: (host ++ ']' :: rest) = '[' :: (host' ++ ']' :: rest')) : rest = rest' := by
    have cut := congrArg (cutFirst ']') (List.cons.inj same).2
    rw [Text.cutFirst_append hhost, Text.cutFirst_append hhost'] at cut
    exact (Prod.mk.inj (Option.some.inj cut)).2
  generalize same : '[' :: (host ++ ']' :: rest) = t at spelled
  cases spelled with
  | nothing => cases same
  | host _ bracket => exact bracket (same ▸ rfl)
  | @hostPort host' _ _ bracket =>
    cases host' with
    | nil => cases same
    | cons c host' => exact bracket (congrArg some (List.cons.inj same).1.symm)
  | bracketed hhost' => exact more (ends hhost' same)
  | bracketedPort hhost' => exact other (ends hhost' same ▸ rfl)

theorem not_written_of_overhanging (h : Overhanging net b) : ¬ Written net a := by
  intro written
  obtain @⟨network, s, _, host, overhangs⟩ := h
  have parts := networkParts_wrapped host.plain s
  generalize same : network ++ '(' :: (s ++ [')']) = t at parts written
  cases written with
  | nothing => simp at same
  | name =>
    have opens : '(' ∈ "tcp".toList := same ▸ List.mem_append_cons_self
    exact absurd opens (by decide)
  | tcp host' spelled =>
    rw [networkParts_wrapped host'.plain] at parts
    cases parts
    exact not_spelled_of_overhangs overhangs spelled
  | unix =>
    have plain : '(' ∉ "unix".toList := by decide
    rw [networkParts_wrapped plain] at parts
    cases parts
    exact absurd host (by unfold HostNetwork; decide)

/-! ## Whole texts -/

/-- The network part of a text stands in front of the last slash, behind the last
at sign there if there is one. -/
inductive HasNetwork (net : List Char) : List Char → Prop where
  | alone {tail : List Char} : '@' ∉ net → '/' ∉ tail → HasNetwork net (net ++ '/' :: tail)
  | behind {credentials tail : List Char} : '@' ∉ net → '/' ∉ tail →
      HasNetwork net (credentials ++ '@' :: (net ++ '/' :: tail))

theorem read_eq_ok_iff {d : List Char} {r : Dsn} : read d = .ok r ↔ parts d = .ok r := by
  refine ⟨parts_of_read, fun h => ?_⟩
  rw [read, h]

/-- The parts in front of the last slash, as they are written. -/
def headParts (head : List Char) : Option (List Char × Option (List Char)) × List Char :=
  match cutLast '@' head with
  | some (credentials, net) => (some (readCredentials credentials), net)
  | none => (none, head)

theorem headParts_alone {head : List Char} (h : '@' ∉ head) : headParts head = (none, head) := by
  rw [headParts, Text.cutLast_eq_none.2 h]

theorem headParts_behind (credentials : List Char) (h : '@' ∉ net) :
    headParts (credentials ++ '@' :: net) = (some (readCredentials credentials), net) := by
  rw [headParts, Text.cutLast_append _ h]

/-- What a text comes to with the address that its network part comes to. -/
def ofParts (head tail : List Char) (address : Address) : Dsn where
  user := (headParts head).1.bind fun (user, _) => nonEmpty user
  password := (headParts head).1.bind Prod.snd
  address := address
  database := nonEmpty (tailParts tail).1
  params := readParams (tailParts tail).2

/-- Each part of a text is read from its own place. -/
theorem read_slash {head tail : List Char} (h : '/' ∉ tail) {r : Dsn} :
    read (head ++ '/' :: tail) = .ok r ↔
      ∃ address, readAddress (headParts head).2 = .ok address ∧ ofParts head tail address = r := by
  rw [read_eq_ok_iff, parts, Text.cutLast_append head h]
  change (readAddress (headParts head).2).bind (fun address => pure (ofParts head tail address)) = _ ↔ _
  exact bind_eq_ok.trans (by simp only [pure_eq_ok])

theorem read_slash_address {head tail : List Char} (h : '/' ∉ tail) :
    (∃ r, read (head ++ '/' :: tail) = .ok r ∧ r.address = a) ↔
      readAddress (headParts head).2 = .ok a := by
  simp only [read_slash h]
  constructor
  · rintro ⟨_, ⟨address, hr, rfl⟩, rfl⟩
    exact hr
  · intro hr
    exact ⟨_, ⟨a, hr, rfl⟩, rfl⟩

theorem HasNetwork.read_iff {d : List Char} (h : HasNetwork net d) :
    (∃ r, read d = .ok r ∧ r.address = a) ↔ readAddress net = .ok a := by
  cases h with
  | alone hnet htail => rw [read_slash_address htail, headParts_alone hnet]
  | behind hnet htail =>
    rw [← List.cons_append, ← List.append_assoc, read_slash_address htail, headParts_behind _ hnet]

theorem exists_hasNetwork {d : List Char} {r : Dsn} (h : read d = .ok r) : ∃ net, HasNetwork net d := by
  obtain ⟨head, tail, rfl, htail⟩ := exists_slash h
  by_cases sign : '@' ∈ head
  · obtain ⟨credentials, net, hcut⟩ := Text.exists_cutLast sign
    obtain ⟨rfl, hnet⟩ := Text.cutLast_eq_some.1 hcut
    refine ⟨net, ?_⟩
    rw [List.append_assoc, List.cons_append]
    exact .behind hnet htail
  · exact ⟨head, .alone sign htail⟩

/-- A text can be read exactly if its network part is written as that of an
address, or something that is no port stands behind a host in brackets there. The
first of the two leaves nothing of it out, and no network part is both. -/
theorem read_address_iff (d : List Char) (a : Address) :
    ((∃ r, read d = .ok r ∧ r.address = a) ↔
      ∃ net, HasNetwork net d ∧ (Written net a ∨ Overhanging net a)) ∧
    ∀ net b, Overhanging net b → ¬ Written net a := by
  refine ⟨⟨?_, ?_⟩, fun net b => not_written_of_overhanging⟩
  · rintro ⟨r, hr, ha⟩
    obtain ⟨net, hnet⟩ := exists_hasNetwork hr
    exact ⟨net, hnet, readAddress_eq_ok_iff.1 (hnet.read_iff.1 ⟨r, hr, ha⟩)⟩
  · rintro ⟨net, hnet, h⟩
    exact hnet.read_iff.2 (readAddress_eq_ok_iff.2 h)

/-- A port without its colon is passed over, and the default taken. -/
theorem overhang_passed_over :
    HasNetwork "tcp([::1]3310)".toList "u:p@tcp([::1]3310)/d".toList ∧
    (read "u:p@tcp([::1]3310)/d".toList).map Dsn.address = .ok (.tcp "::1".toList 3306) ∧
    ∀ a, ¬ Written "tcp([::1]3310)".toList a := by
  refine ⟨@HasNetwork.behind _ "u:p".toList "d".toList (by decide) (by decide), by decide +kernel,
    fun a => ?_⟩
  have overhangs : Overhangs "[::1]3310".toList (.tcp "::1".toList 3306) :=
    @Overhangs.behind "::1".toList "3310".toList (by decide) (by decide) (by decide)
  exact not_written_of_overhanging (.tcp (.inl rfl) overhangs)

end QueryGate.Dsn
