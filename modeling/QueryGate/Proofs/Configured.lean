import QueryGate.Proofs.Result
import QueryGate.Proofs.Text.Cut
import QueryGate.Proofs.Text.Trim
import QueryGate.Settings.Connections
/-!
# Configured connections

A list of connection texts is accepted if each of them is, under a name that none
before it has. One connection comes of each text then, in their order; else the
fault is that of the first text that is refused.
-/

namespace QueryGate

/-! ## Names -/

/-- An ASCII letter or digit, an underscore or a hyphen. -/
def PlainChar (c : Char) : Prop :=
  'A' ≤ c ∧ c ≤ 'Z' ∨ 'a' ≤ c ∧ c ≤ 'z' ∨ '0' ≤ c ∧ c ≤ '9' ∨ c = '_' ∨ c = '-'

/-- One or more of these. -/
structure PlainName (name : List Char) : Prop where
  filled : name ≠ []
  plain : ∀ c ∈ name, PlainChar c

theorem PlainChar.not_blank {c : Char} (h : PlainChar c) : Text.isBlank c = false := by
  have at_least {a b : Char} (h : a ≤ b) : a.toNat ≤ b.toNat := UInt32.le_iff_toNat_le.1 h
  obtain ⟨low, high⟩ | ⟨low, high⟩ | ⟨low, high⟩ | rfl | rfl := h
  case inr.inr.inr.inl | inr.inr.inr.inr => decide
  all_goals
    have low := at_least low
    have high := at_least high
    simp only [Char.reduceToNat] at low high
    simp only [Text.isBlank, Bool.or_eq_false_iff, Bool.and_eq_false_iff, decide_eq_false_iff_not,
      beq_eq_false_iff_ne]
    omega

/-- There is nothing to trim off a name. -/
theorem PlainName.trim {name : List Char} (h : PlainName name) : Text.trim name = name :=
  Text.trim_of_no_blank fun c hc => (h.plain c hc).not_blank

theorem PlainName.no_equals {name : List Char} (h : PlainName name) : '=' ∉ name := fun equals => by
  have plain : ¬ PlainChar '=' := by unfold PlainChar; decide
  exact plain (h.plain '=' equals)

namespace ConnectionSpec

theorem isAlpha_iff {c : Char} : c.isAlpha ↔ 'A' ≤ c ∧ c ≤ 'Z' ∨ 'a' ≤ c ∧ c ≤ 'z' :=
  Bool.or_eq_true_iff.trans <| or_congr decide_eq_true_iff <|
    Bool.and_eq_true_iff.trans (and_congr decide_eq_true_iff decide_eq_true_iff)

theorem isDigit_iff {c : Char} : c.isDigit ↔ '0' ≤ c ∧ c ≤ '9' :=
  Bool.and_eq_true_iff.trans (and_congr decide_eq_true_iff decide_eq_true_iff)

theorem isNameChar_iff {c : Char} : isNameChar c ↔ PlainChar c := by
  have alphanum : c.isAlphanum ↔ c.isAlpha ∨ c.isDigit := Bool.or_eq_true_iff
  simp only [isNameChar, PlainChar, Bool.or_eq_true, beq_iff_eq, alphanum, isAlpha_iff, isDigit_iff,
    or_assoc]

theorem isPlainName_iff {name : List Char} : isPlainName name ↔ PlainName name := by
  simp only [isPlainName, Bool.and_eq_true, Bool.not_eq_true', List.isEmpty_eq_false_iff,
    List.all_eq_true, isNameChar_iff]
  exact ⟨fun ⟨filled, plain⟩ => ⟨filled, plain⟩, fun ⟨filled, plain⟩ => ⟨filled, plain⟩⟩

/-! ## Specs -/

/-- What a text gives: the name before its first equals sign and what is behind
it, or all of it where no name is there. -/
inductive Gives : List Char → ConnectionSpec → Prop where
  | named {name dsn : List Char} : PlainName name → Gives (name ++ '=' :: dsn) ⟨name, dsn⟩
  | unnamed {dsn : List Char} : (∀ name rest, PlainName name → dsn ≠ name ++ '=' :: rest) →
      Gives dsn ⟨"default".toList, dsn⟩

theorem gives_split (s : List Char) : Gives s (split s) := by
  unfold split
  split
  · next name dsn cut =>
    obtain ⟨rfl, first⟩ := Text.cutFirst_eq_some.1 cut
    split
    · next plain => exact .named (isPlainName_iff.1 plain)
    · next other =>
      -- A name has no equals sign, so only what is before the first one can be it.
      refine .unnamed fun name' rest plain same => other ?_
      rw [same, Text.cutFirst_append plain.no_equals] at cut
      cases cut
      exact isPlainName_iff.2 plain
  · next none =>
    refine .unnamed fun name rest _ same => Text.cutFirst_eq_none.1 none ?_
    rw [same]
    exact List.mem_append_cons_self

variable {s text : List Char} {spec spec' : ConnectionSpec}

theorem Gives.unique (h : Gives s spec) (h' : Gives s spec') : spec = spec' := by
  cases h with
  | @named name dsn plain =>
    generalize same : name ++ '=' :: dsn = t at h'
    cases h' with
    | @named name' dsn' plain' =>
      have cut := congrArg (Text.cutFirst '=') same
      rw [Text.cutFirst_append plain.no_equals, Text.cutFirst_append plain'.no_equals] at cut
      cases cut
      rfl
    | unnamed other => exact absurd same.symm (other name dsn plain)
  | unnamed other =>
    cases h' with
    | named plain => exact absurd rfl (other _ _ plain)
    | unnamed => rfl

theorem split_eq_iff : split s = spec ↔ Gives s spec :=
  ⟨fun same => same ▸ gives_split s, (gives_split s).unique⟩

theorem Gives.plainName (h : Gives s spec) : PlainName spec.name := by
  cases h with
  | named plain => exact plain
  | unnamed =>
    have default : isPlainName "default".toList := by decide
    exact isPlainName_iff.1 default

/-- A text that can be read, and what it gives; blanks at its ends are left out. -/
structure Reads (text : List Char) (spec : ConnectionSpec) : Prop where
  gives : Gives (Text.trim text) spec
  filled : ¬ Text.allBlank spec.dsn

/-- What a text lacks that cannot be read. -/
inductive Lacks (text : List Char) : ConnectionFault → Prop where
  | all : Text.allBlank text → Lacks text .emptySpec
  | dsn {spec : ConnectionSpec} : ¬ Text.allBlank text → Gives (Text.trim text) spec →
      Text.allBlank spec.dsn → Lacks text (.emptyDsn spec.name)

variable {fault : ConnectionFault}

theorem reads_or_lacks (text : List Char) :
    (∃ spec, Reads text spec) ∨ ∃ fault, Lacks text fault := by
  by_cases blank : Text.allBlank text
  · exact .inr ⟨_, .all blank⟩
  · have gives := gives_split (Text.trim text)
    by_cases none : Text.allBlank (split (Text.trim text)).dsn
    · exact .inr ⟨_, .dsn blank gives none⟩
    · exact .inl ⟨_, gives, none⟩

theorem read_of_filled (h : ¬ Text.allBlank text) (gives : Gives (Text.trim text) spec) :
    read text = if Text.allBlank spec.dsn then .error (.emptyDsn spec.name) else .ok spec := by
  have some : ¬ (Text.trim text).isEmpty := by
    rw [List.isEmpty_iff, Text.trim_eq_nil]
    exact h
  unfold read
  dsimp only
  rw [if_neg some, split_eq_iff.2 gives]

theorem Reads.read_eq (h : Reads text spec) : read text = .ok spec := by
  have some : ¬ Text.allBlank text := fun blank => by
    have same := split_eq_iff.2 h.gives
    rw [Text.trim_eq_nil.2 blank] at same
    exact h.filled (same ▸ rfl)
  rw [read_of_filled some h.gives, if_neg h.filled]

theorem Lacks.read_eq (h : Lacks text fault) : read text = .error fault := by
  cases h with
  | all blank => rw [read, Text.trim_eq_nil.2 blank]; rfl
  | dsn some gives none => rw [read_of_filled some gives, if_pos none]

end ConnectionSpec

namespace SharedSettings

/-! ## One text -/

variable (s : SharedSettings)

/-- A connection as a text configures it. -/
inductive Configures (text : List Char) : ConnectionConfig → Prop where
  | of_spec {spec : ConnectionSpec} {d : Dsn} : ConnectionSpec.Reads text spec →
      Dsn.read (Dsn.applyTls spec.dsn s.ssl) = .ok d →
      Configures text {
        name := spec.name
        dsn := Dsn.applyTls spec.dsn s.ssl
        description := s.description.getD ("MySQL at ".toList ++ d.summary)
        readOnly := !s.allowWritable
        pool := s.pool }

/-- Why a text is refused where some names are taken. -/
inductive Refuses (taken : List (List Char)) (text : List Char) : ConnectionFault → Prop where
  | noSpec {fault : ConnectionFault} : ConnectionSpec.Lacks text fault → Refuses taken text fault
  | nameTaken {spec : ConnectionSpec} : ConnectionSpec.Reads text spec → spec.name ∈ taken →
      Refuses taken text (.duplicateName spec.name)
  | badDsn {spec : ConnectionSpec} {e : Error} : ConnectionSpec.Reads text spec →
      spec.name ∉ taken → Dsn.read (Dsn.applyTls spec.dsn s.ssl) = .error e →
      Refuses taken text (.badDsn e)

variable {s} {names taken : List (List Char)} {text : List Char} {texts : List (List Char)}
  {config : ConnectionConfig} {configs : List ConnectionConfig} {fault : ConnectionFault}

theorem Configures.plainName (h : s.Configures text config) : PlainName config.name := by
  obtain ⟨reads, -⟩ := h
  exact reads.gives.plainName

theorem Configures.readable (h : s.Configures text config) : ∃ d, Dsn.read config.dsn = .ok d := by
  obtain ⟨-, read⟩ := h
  exact ⟨_, read⟩

theorem Refuses.congr {taken' : List (List Char)} (h : s.Refuses taken text fault)
    (same : ∀ name, name ∈ taken ↔ name ∈ taken') : s.Refuses taken' text fault := by
  cases h with
  | noSpec lacks => exact .noSpec lacks
  | nameTaken reads known => exact .nameTaken reads ((same _).1 known)
  | badDsn reads new bad => exact .badDsn reads (mt (same _).2 new) bad

theorem configures_or_refuses (s : SharedSettings) (taken : List (List Char)) (text : List Char) :
    (∃ config, s.Configures text config ∧ config.name ∉ taken) ∨ ∃ fault, s.Refuses taken text fault := by
  obtain ⟨spec, reads⟩ | ⟨fault, lacks⟩ := ConnectionSpec.reads_or_lacks text
  · by_cases known : spec.name ∈ taken
    · exact .inr ⟨_, .nameTaken reads known⟩
    · cases readable : Dsn.read (Dsn.applyTls spec.dsn s.ssl) with
      | error e => exact .inr ⟨_, .badDsn reads known readable⟩
      | ok d => exact .inl ⟨_, .of_spec reads readable, known⟩
  · exact .inr ⟨fault, .noSpec lacks⟩

theorem configureAfter_of_configures (h : s.Configures text config) (new : config.name ∉ names)
    (texts : List (List Char)) :
    s.configureAfter names (text :: texts) =
      (s.configureAfter (config.name :: names) texts).map (config :: ·) := by
  obtain @⟨spec, d, reads, readable⟩ := h
  have free : names.contains spec.name = false := by simpa using new
  simp only [configureAfter, reads.read_eq, configure, readable, bind, Except.bind, free,
    Bool.false_eq_true, if_false]
  cases s.configureAfter (spec.name :: names) texts <;> rfl

theorem configureAfter_of_refuses (h : s.Refuses names text fault) (texts : List (List Char)) :
    s.configureAfter names (text :: texts) = .error fault := by
  cases h with
  | noSpec lacks => simp only [configureAfter, lacks.read_eq, bind, Except.bind]
  | nameTaken reads known =>
    have held : names.contains _ = true := List.contains_iff_mem.2 known
    simp only [configureAfter, reads.read_eq, bind, Except.bind, held, if_true]
  | @badDsn spec e reads new bad =>
    have free : names.contains spec.name = false := by simpa using new
    simp only [configureAfter, reads.read_eq, configure, bad, bind, Except.bind, free,
      Bool.false_eq_true, if_false]

/-! ## Several texts -/

/-- Texts are accepted if each configures a connection, under a name of its own. -/
theorem configureAfter_eq_ok_iff :
    s.configureAfter names texts = .ok configs ↔
      List.Forall₂ s.Configures texts configs ∧ (configs.map (·.name)).Nodup ∧
        ∀ config ∈ configs, config.name ∉ names := by
  induction texts generalizing names configs with
  | nil =>
    rw [List.forall₂_nil_left_iff]
    constructor
    · rintro ⟨⟩
      simp
    · rintro ⟨rfl, -⟩
      rfl
  | cons text texts ih =>
    constructor
    · intro h
      obtain ⟨config, configured, new⟩ | ⟨fault, refused⟩ := configures_or_refuses s names text
      · rw [configureAfter_of_configures configured new] at h
        obtain ⟨others, behind, rfl⟩ := map_eq_ok.1 h
        obtain ⟨each, distinct, free⟩ := ih.1 behind
        refine ⟨.cons configured each, ?_, ?_⟩
        · rw [List.map_cons, List.nodup_cons]
          refine ⟨fun again => ?_, distinct⟩
          obtain ⟨c, hc, same⟩ := List.mem_map.1 again
          exact free c hc (same ▸ List.mem_cons_self)
        · exact List.forall_mem_cons.2 ⟨new, fun c hc old => free c hc (List.mem_cons_of_mem _ old)⟩
      · rw [configureAfter_of_refuses refused] at h
        cases h
    · rintro ⟨each, distinct, free⟩
      obtain ⟨config, others, configured, rest, rfl⟩ := List.forall₂_cons_left_iff.1 each
      obtain ⟨new, free⟩ := List.forall_mem_cons.1 free
      rw [List.map_cons, List.nodup_cons] at distinct
      rw [configureAfter_of_configures configured new]
      refine map_eq_ok.2 ⟨others, ih.2 ⟨rest, distinct.2, fun c hc known => ?_⟩, rfl⟩
      obtain same | old := List.mem_cons.1 known
      · exact distinct.1 (List.mem_map.2 ⟨c, hc, same⟩)
      · exact free c hc old

/-- Behind texts that are accepted their names are taken too. -/
theorem configureAfter_append (front : s.configureAfter names texts = .ok configs)
    (more : List (List Char)) :
    s.configureAfter names (texts ++ more) =
      (s.configureAfter ((configs.map (·.name)).reverse ++ names) more).map (configs ++ ·) := by
  induction texts generalizing names configs with
  | nil =>
    cases front
    simp only [List.nil_append, List.map_nil, List.reverse_nil]
    cases s.configureAfter names more <;> rfl
  | cons text texts ih =>
    obtain ⟨config, configured, new⟩ | ⟨fault, refused⟩ := configures_or_refuses s names text
    · -- The first name is taken from here on, in front and behind alike.
      rw [configureAfter_of_configures configured new] at front
      obtain ⟨others, behind, rfl⟩ := map_eq_ok.1 front
      rw [List.cons_append, configureAfter_of_configures configured new, ih behind, List.map_cons,
        List.reverse_cons, List.append_assoc, List.singleton_append]
      cases s.configureAfter ((others.map (·.name)).reverse ++ config.name :: names) more <;> rfl
    · rw [configureAfter_of_refuses refused] at front
      cases front

theorem configureAfter_eq_error_iff :
    s.configureAfter names texts = .error fault ↔
      ∃ front text rest configs, texts = front ++ text :: rest ∧
        s.configureAfter names front = .ok configs ∧
        s.Refuses ((configs.map (·.name)).reverse ++ names) text fault := by
  constructor
  · intro h
    induction texts generalizing names with
    | nil => cases h
    | cons text texts ih =>
      obtain ⟨config, configured, new⟩ | ⟨fault', refused⟩ := configures_or_refuses s names text
      · rw [configureAfter_of_configures configured new] at h
        -- So the fault is that of a later text, behind one more that is accepted.
        cases behind : s.configureAfter (config.name :: names) texts with
        | ok others =>
          rw [behind] at h
          cases h
        | error fault' =>
          rw [behind] at h
          cases h
          obtain ⟨front, last, rest, configs, rfl, accepted, refused⟩ := ih behind
          refine ⟨text :: front, last, rest, config :: configs, rfl, ?_, by simpa using refused⟩
          rw [configureAfter_of_configures configured new, accepted]
          rfl
      · rw [configureAfter_of_refuses refused] at h
        cases h
        exact ⟨[], text, texts, [], rfl, rfl, refused⟩
  · rintro ⟨front, text, rest, configs, rfl, accepted, refused⟩
    rw [configureAfter_append accepted, configureAfter_of_refuses refused]
    rfl

/-! ## The texts by themselves -/

/-- What makes texts acceptable: each can be read, no two give the same name, and
each connection text can be read with the TLS mode in it. -/
structure Acceptable (s : SharedSettings) (texts : List (List Char)) (specs : List ConnectionSpec) :
    Prop where
  read : List.Forall₂ ConnectionSpec.Reads texts specs
  distinct : (specs.map (·.name)).Nodup
  readable : ∀ spec ∈ specs, ∃ d, Dsn.read (Dsn.applyTls spec.dsn s.ssl) = .ok d

variable {specs : List ConnectionSpec}

theorem exists_specs (h : List.Forall₂ s.Configures texts configs) :
    ∃ specs, List.Forall₂ ConnectionSpec.Reads texts specs ∧
      (∀ spec ∈ specs, ∃ d, Dsn.read (Dsn.applyTls spec.dsn s.ssl) = .ok d) ∧
      specs.map (·.name) = configs.map (·.name) := by
  induction h with
  | nil => exact ⟨[], .nil, by simp, rfl⟩
  | cons configured _ ih =>
    obtain ⟨specs, read, readable, same⟩ := ih
    obtain @⟨spec, d, first, dsn⟩ := configured
    exact ⟨spec :: specs, .cons first read, List.forall_mem_cons.2 ⟨⟨d, dsn⟩, readable⟩,
      congrArg (spec.name :: ·) same⟩

theorem exists_configs
    (h : List.Forall₂ ConnectionSpec.Reads texts specs)
    (readable : ∀ spec ∈ specs, ∃ d, Dsn.read (Dsn.applyTls spec.dsn s.ssl) = .ok d) :
    ∃ configs, List.Forall₂ s.Configures texts configs ∧
      configs.map (·.name) = specs.map (·.name) := by
  induction h with
  | nil => exact ⟨[], .nil, rfl⟩
  | cons first _ ih =>
    obtain ⟨⟨d, dsn⟩, readable⟩ := List.forall_mem_cons.1 readable
    obtain ⟨configs, configured, same⟩ := ih readable
    exact ⟨_ :: configs, .cons (.of_spec first dsn) configured, congrArg (_ :: ·) same⟩

theorem connections_eq_ok_iff :
    s.connections texts = .ok configs ↔
      List.Forall₂ s.Configures texts configs ∧ (configs.map (·.name)).Nodup := by
  rw [connections, configureAfter_eq_ok_iff]
  simp

/-- Whether texts are accepted, and under which names. -/
theorem exists_connections_iff :
    (∃ configs, s.connections texts = .ok configs ∧ configs.map (·.name) = names) ↔
      ∃ specs, s.Acceptable texts specs ∧ specs.map (·.name) = names := by
  constructor
  · rintro ⟨configs, accepted, rfl⟩
    obtain ⟨configured, distinct⟩ := connections_eq_ok_iff.1 accepted
    obtain ⟨specs, read, readable, same⟩ := exists_specs configured
    exact ⟨specs, ⟨read, same ▸ distinct, readable⟩, same⟩
  · rintro ⟨specs, ⟨read, distinct, readable⟩, rfl⟩
    obtain ⟨configs, configured, same⟩ := exists_configs read readable
    exact ⟨configs, connections_eq_ok_iff.2 ⟨configured, same ▸ distinct⟩, same⟩

/-- The fault is that of the first text that is refused behind those before it. -/
theorem connections_eq_error_iff :
    s.connections texts = .error fault ↔
      ∃ front text rest specs, texts = front ++ text :: rest ∧ s.Acceptable front specs ∧
        s.Refuses (specs.map (·.name)) text fault := by
  rw [connections, configureAfter_eq_error_iff]
  constructor
  · rintro ⟨front, text, rest, configs, rfl, accepted, refused⟩
    obtain ⟨specs, acceptable, same⟩ := exists_connections_iff.1 ⟨configs, accepted, rfl⟩
    exact ⟨front, text, rest, specs, rfl, acceptable, refused.congr (by simp [same])⟩
  · rintro ⟨front, text, rest, specs, rfl, acceptable, refused⟩
    obtain ⟨configs, accepted, same⟩ := exists_connections_iff.2 ⟨specs, acceptable, rfl⟩
    exact ⟨front, text, rest, configs, rfl, accepted, refused.congr (by simp [same])⟩

end SharedSettings

end QueryGate
