import Mathlib.Data.List.Forall2
import QueryGate.Proofs.Result
import QueryGate.Proofs.Text.Cut
import QueryGate.Proofs.Trace
import QueryGate.Tool.Run
/-!
# A masked text tells nothing of its password

The mask goes from the first colon to the last at sign of the whole text, and the
password is read from the first colon to the last at sign before the last slash.
So the mask covers it, and two texts that differ in it alone are masked alike,
wherever they are shown.
-/

namespace QueryGate

open Program (Runs runs_done runs_step runs_bind andThen)

namespace Dsn

open Text (cutFirst cutLast)

/-! ## One text -/

/-- The last at sign is the one behind the password or one in what follows. -/
theorem exists_cutLast_at (r : List Char) :
    ∃ address, ∀ p : List Char, ∃ before, cutLast '@' (p ++ '@' :: r) = some (before, address) := by
  by_cases h : '@' ∈ r
  · obtain ⟨before, address, hr⟩ := Text.exists_cutLast h
    refine ⟨address, fun p => ⟨p ++ '@' :: before, ?_⟩⟩
    have := Text.cutLast_behind (p ++ ['@']) hr
    simpa using this
  · exact ⟨r, fun p => ⟨p, Text.cutLast_append p h⟩⟩

/-- What a text with a password is masked to. -/
theorem mask_eq {u : List Char} (hu : ':' ∉ u) {rest before address : List Char}
    (h : cutLast '@' rest = some (before, address)) :
    mask (u ++ ':' :: rest) = u ++ ':' :: maskText ++ '@' :: address := by
  rw [mask, Text.cutFirst_append hu]
  simp only [h]

theorem mask_password {u : List Char} (hu : ':' ∉ u) (p p' r : List Char) :
    mask (u ++ ':' :: p ++ '@' :: r) = mask (u ++ ':' :: p' ++ '@' :: r) := by
  obtain ⟨address, ends⟩ := exists_cutLast_at r
  obtain ⟨_, hp⟩ := ends p
  obtain ⟨_, hp'⟩ := ends p'
  rw [List.append_assoc, List.append_assoc, List.cons_append, List.cons_append, mask_eq hu hp,
    mask_eq hu hp']

/-- Where the parts of a text stand that is read with a password. -/
structure Placed (d user password net tail : List Char) : Prop where
  whole : d = user ++ ':' :: password ++ '@' :: net ++ '/' :: tail
  user : ':' ∉ user
  net : '@' ∉ net
  tail : '/' ∉ tail

theorem parts_of_read {d : List Char} {r : Dsn} (h : read d = .ok r) : parts d = .ok r := by
  unfold read at h
  split at h
  · next hp => cases h; exact hp
  · cases h

theorem placed_of_read {d p : List Char} {r : Dsn} (h : read d = .ok r)
    (hp : r.password = some p) :
    ∃ user net tail, Placed d user p net tail ∧ r.user = nonEmpty user := by
  have hparts := parts_of_read h
  unfold parts at hparts
  split at hparts
  · next head tail hd =>
    obtain ⟨rfl, ht⟩ := Text.cutLast_eq_some.1 hd
    obtain ⟨address, -, same⟩ := bind_eq_ok.1 hparts
    cases same
    dsimp only at hp
    cases hh : cutLast '@' head with
    | none => simp [hh] at hp
    | some cut =>
      obtain ⟨credentials, net⟩ := cut
      obtain ⟨rfl, hnet⟩ := Text.cutLast_eq_some.1 hh
      simp only [hh, Option.bind_some, readCredentials] at hp ⊢
      cases hc : cutFirst ':' credentials with
      | none => simp [hc] at hp
      | some cut =>
        obtain ⟨user, password⟩ := cut
        obtain ⟨rfl, huser⟩ := Text.cutFirst_eq_some.1 hc
        obtain rfl : password = p := by simpa [hc] using hp
        exact ⟨user, net, tail, ⟨rfl, huser, hnet, ht⟩, rfl⟩
  · cases hparts

/-- The part of a text that is replaced, with what is before it and behind it. -/
structure Masked (d user span address : List Char) : Prop where
  whole : d = user ++ ':' :: span ++ '@' :: address
  shown : mask d = user ++ ':' :: maskText ++ '@' :: address

/-- The password begins where the mask begins and ends no later. -/
theorem masked_of_placed {d user p net tail : List Char} (h : Placed d user p net tail) :
    ∃ span address, Masked d user span address ∧ p <+: span := by
  obtain ⟨rfl, huser, hnet, -⟩ := h
  by_cases ht : '@' ∈ tail
  · obtain ⟨before, address, hr⟩ := Text.exists_cutLast ht
    have hr' := Text.cutLast_behind (p ++ '@' :: net ++ ['/']) hr
    obtain ⟨rfl, -⟩ := Text.cutLast_eq_some.1 hr
    refine ⟨p ++ '@' :: net ++ '/' :: before, address, ⟨by simp, ?_⟩, by simp⟩
    rw [← mask_eq huser hr']
    simp
  · have hr : cutLast '@' (p ++ '@' :: (net ++ '/' :: tail)) = some (p, net ++ '/' :: tail) :=
      Text.cutLast_append p (by simp [hnet, ht])
    refine ⟨p, net ++ '/' :: tail, ⟨by simp, ?_⟩, List.prefix_refl _⟩
    rw [← mask_eq huser hr]
    simp

/-! ## What is left as it is -/

/-- Whether a colon stands before the last at sign. -/
def HasSpan (d : List Char) : Prop :=
  ∃ front back, d = front ++ '@' :: back ∧ '@' ∉ back ∧ ':' ∈ front

theorem mask_of_not_hasSpan {d : List Char} (h : ¬ HasSpan d) : mask d = d := by
  unfold mask
  split
  · next user rest colon =>
    split
    · next span address at_sign =>
      obtain ⟨rfl, -⟩ := Text.cutFirst_eq_some.1 colon
      obtain ⟨rfl, last⟩ := Text.cutLast_eq_some.1 at_sign
      exact absurd ⟨user ++ ':' :: span, address, by simp, last, by simp⟩ h
    · rfl
  · rfl

theorem masked_of_hasSpan {d : List Char} (h : HasSpan d) :
    ∃ user span address, Masked d user span address ∧ ':' ∉ user ∧ '@' ∉ address := by
  obtain ⟨front, address, rfl, last, colon⟩ := h
  obtain ⟨user, span, cut⟩ := Text.exists_cutFirst colon
  obtain ⟨rfl, first⟩ := Text.cutFirst_eq_some.1 cut
  refine ⟨user, span, address, ⟨rfl, ?_⟩, first, last⟩
  rw [List.append_assoc, List.cons_append]
  exact mask_eq first (Text.cutLast_append span last)

/-- A text is left as it is, or what stands between its first colon and its last
at sign is replaced and nothing else. To mask it again changes nothing. -/
theorem mask_frame (d : List Char) :
    mask (mask d) = mask d ∧
      (¬ HasSpan d ∧ mask d = d ∨
        HasSpan d ∧ ∃ user span address, Masked d user span address ∧ ':' ∉ user ∧ '@' ∉ address) := by
  by_cases h : HasSpan d
  · obtain ⟨user, span, address, masked, first, last⟩ := masked_of_hasSpan h
    -- The mask has neither separator in it, so both are found where they were.
    have again : mask (user ++ ':' :: maskText ++ '@' :: address) =
        user ++ ':' :: maskText ++ '@' :: address := by
      conv_lhs => rw [List.append_assoc, List.cons_append]
      exact mask_eq first (Text.cutLast_append maskText last)
    exact ⟨by rw [masked.shown, again], .inr ⟨h, user, span, address, masked, first, last⟩⟩
  · have same := mask_of_not_hasSpan h
    exact ⟨by rw [same, same], .inl ⟨h, same⟩⟩

/-! ## Texts that differ in the password -/

/-- The same text, up to what stands between a colon that is the first one and
an at sign. -/
inductive Alike : List Char → List Char → Prop where
  | same (d : List Char) : Alike d d
  | password {u : List Char} (hu : ':' ∉ u) (p p' r : List Char) :
      Alike (u ++ ':' :: p ++ '@' :: r) (u ++ ':' :: p' ++ '@' :: r)

theorem Alike.mask {d d' : List Char} (h : Alike d d') : mask d = mask d' := by
  cases h with
  | same => rfl
  | password hu p p' r => exact mask_password hu p p' r

end Dsn

/-- The same connection, up to its password. -/
def ConnectionConfig.Alike (c c' : ConnectionConfig) : Prop :=
  Dsn.Alike c.dsn c'.dsn ∧ c' = { c with dsn := c'.dsn }

/-! ## Lists of connections -/

namespace Registry

/-- The same content, up to passwords and to what stands for the pools. -/
def Alike (r r' : Registry) : Prop :=
  List.Forall₂ (fun e e' => e.config.Alike e'.config) r.entries r'.entries ∧ r.active = r'.active

theorem summaryOf_eq {r r' : Registry} {e e' : Entry} (ha : r.active = r'.active)
    (h : e.config.Alike e'.config) : r.summaryOf e = r'.summaryOf e' := by
  obtain ⟨hd, hc⟩ := h
  simp only [summaryOf, hd.mask]
  rw [hc, ha]

theorem summaries_eq {r r' : Registry} (h : r.Alike r') : r.summaries = r'.summaries := by
  obtain ⟨he, ha⟩ := h
  rw [summaries, summaries, ← List.forall₂_eq_eq_eq, List.forall₂_map_left_iff,
    List.forall₂_map_right_iff]
  exact he.imp fun e e' hc => summaryOf_eq ha hc

end Registry

/-- What `list_connections` comes to is read off the registry. -/
theorem Environment.run_listConnections (env : Environment) (w : env.State) :
    (Tool.listConnections.run env.answer w).1 = .ok (.connections (env.registry w).summaries) := by
  have h := env.responds .summaries w ((env.registry w).summaries, env.registry w) rfl
  exact congrArg (fun s => Except.ok (Tool.Output.connections s)) (Prod.mk.inj h).1

/-! ## Events -/

/-- The events among what was done. -/
def logged (acts : List Act) : List Log.Event :=
  acts.filterMap fun a => match a.step with
    | .log e => some e
    | _ => none

/-- Every run logs only such events. -/
def Logs {α : Type} (p : Program α) (Q : Log.Event → Prop) : Prop :=
  ∀ acts a, Runs p acts a → ∀ e ∈ logged acts, Q e

namespace Logs

variable {α β : Type} {Q : Log.Event → Prop}

theorem done (a : α) : Logs (.done a) Q := by
  intro acts b h
  obtain ⟨rfl, -⟩ := runs_done.1 h
  simp [logged]

theorem step {s : Step} {next : s.Result → Program α} (hs : ∀ e, s = .log e → Q e)
    (h : ∀ r, Logs (next r) Q) : Logs (.step s next) Q := by
  intro acts a hr e he
  obtain ⟨r, rest, rfl, hrest⟩ := runs_step.1 hr
  obtain ⟨act, hact, here⟩ := List.mem_filterMap.1 he
  rcases List.mem_cons.1 hact with rfl | later
  · cases s <;> cases here
    exact hs _ rfl
  · exact h r rest a hrest e (List.mem_filterMap.2 ⟨act, later, here⟩)

theorem bind {p : Program α} {f : α → Program β} (hp : Logs p Q) (hf : ∀ a, Logs (f a) Q) :
    Logs (p.bind f) Q := by
  intro acts b hr e he
  obtain ⟨first, rest, a, rfl, hfirst, hrest⟩ := runs_bind.1 hr
  rw [logged, List.filterMap_append, List.mem_append] at he
  rcases he with he | he
  · exact hp first a hfirst e he
  · exact hf a rest b hrest e he

theorem perform {s : Step} (hs : ∀ e, s = .log e → Q e) : Logs (Program.perform s) Q :=
  step hs fun r => done r

theorem silent {s : Step} (hs : ∀ e, s ≠ .log e) : Logs (Program.perform s) Q :=
  perform fun e same => absurd same (hs e)

theorem log {level area fields message} (h : Q ⟨level, area, message, fields⟩) :
    Logs (Program.log level area fields message) Q :=
  perform fun e he => by cases he; exact h

theorem andThen {p : Program (Except Error α)} {f : α → Program (Except Error β)}
    (hp : Logs p Q) (hf : ∀ a, Logs (f a) Q) : Logs (andThen p f) Q := by
  refine bind hp fun r => ?_
  cases r with
  | ok a => exact hf a
  | error e => exact done _

theorem each {f : α → Program Unit} (hf : ∀ a, Logs (f a) Q) (as : List α) :
    Logs (Program.each f as) Q := by
  induction as with
  | nil => exact done ()
  | cons a as ih => exact bind (hf a) fun _ => ih

end Logs

/-- What an event says of a connection text, if anything. -/
def Log.Event.dsn? (e : Log.Event) : Option Log.Value := e.fields.lookup "dsn"

namespace Registry

/-- Whatever is logged of the text of a connection that is added is its mask. -/
theorem logs_add (c : ConnectionConfig) :
    Logs (add c) fun e => ∀ v ∈ e.dsn?, v = shown (Dsn.mask c.dsn) := by
  have makes : Logs (makePool c) fun e => ∀ v ∈ e.dsn?, v = shown (Dsn.mask c.dsn) := by
    unfold makePool
    split
    · exact .done _
    · refine .bind (.each (fun param => .log nofun) _) fun _ => ?_
      exact .bind (.silent (by simp)) fun _ => .done _
  have adds (pool : PoolId) :
      Logs (addPool c pool) fun e => ∀ v ∈ e.dsn?, v = shown (Dsn.mask c.dsn) := by
    refine .bind (.silent (by simp)) fun r => ?_
    cases r with
    | ok _ => exact .bind (.log nofun) fun _ => .done _
    | error e => exact .bind (.silent (by simp)) fun _ => .done _
  refine .bind (.silent (by simp)) fun taken => ?_
  cases taken with
  | true => exact .done _
  | false =>
    refine .bind (.log ?_) fun _ => .andThen makes fun pool => .bind (.silent (by simp)) fun r => ?_
    · rintro v ⟨⟩
      rfl
    · cases pingError c.pool.options.acquireTimeout r with
      | some e => exact .bind (.silent (by simp)) fun _ => .done _
      | none => exact adds pool

end Registry

/-! ## Both -/

/-- The mask of a text does not depend on what stands between its first colon and
an at sign. The password of a text that can be read begins where the part that is
replaced begins, and lies within it. So registries that differ in passwords alone
are listed alike, and what is logged of a connection's text when it is opened is
the same for any password. -/
theorem password_masked :
    (∀ u p p' r : List Char, ':' ∉ u →
      Dsn.mask (u ++ ':' :: p ++ '@' :: r) = Dsn.mask (u ++ ':' :: p' ++ '@' :: r)) ∧
    (∀ d p r, Dsn.read d = .ok r → r.password = some p →
      ∃ user net tail span address, Dsn.Placed d user p net tail ∧
        Dsn.Masked d user span address ∧ p <+: span) ∧
    (∀ (env env' : Environment) (w : env.State) (w' : env'.State),
      (env.registry w).Alike (env'.registry w') →
        (Tool.listConnections.run env.answer w).1 = (Tool.listConnections.run env'.answer w').1) ∧
    (∀ (c c' : ConnectionConfig) acts acts' r r', c.Alike c' →
      Runs (Registry.add c) acts r → Runs (Registry.add c') acts' r' →
      ∀ e ∈ logged acts, ∀ e' ∈ logged acts', ∀ v ∈ e.dsn?, ∀ v' ∈ e'.dsn?, v = v') := by
  refine ⟨fun u p p' r hu => Dsn.mask_password hu p p' r, ?_, ?_, ?_⟩
  · intro d p r hr hp
    obtain ⟨user, net, tail, placed, -⟩ := Dsn.placed_of_read hr hp
    obtain ⟨span, address, masked, within⟩ := Dsn.masked_of_placed placed
    exact ⟨user, net, tail, span, address, placed, masked, within⟩
  · intro env env' w w' alike
    rw [env.run_listConnections, env'.run_listConnections, Registry.summaries_eq alike]
  · intro c c' acts acts' r r' alike hr hr' e he e' he' v hv v' hv'
    rw [Registry.logs_add c acts r hr e he v hv, Registry.logs_add c' acts' r' hr' e' he' v' hv',
      alike.1.mask]

namespace Registry

/-- One connection to a shop, with the given password. -/
def shopConnection (password : String) : ConnectionConfig :=
  ⟨"main".toList, "app".toList ++ ':' :: password.toList ++ '@' :: "tcp(db:1)/shop".toList, [],
    true, ⟨0, 0, 0, 0, 0⟩⟩

/-- A world in which it is registered. -/
def shop (password : String) : Scripted.World :=
  { Scripted.World.start [] [] with
    registry := ⟨[⟨shopConnection password, 0⟩], some "main".toList, false⟩ }

/-- What is done to add it where no server answers. -/
def opening (password : String) : List Act :=
  (add (shopConnection password)).trace Scripted.World.answer (Scripted.World.start [] [])

end Registry

theorem password_masked_shop :
    (':' ∉ "app".toList ∧
      Dsn.mask ("app".toList ++ ':' :: "p@s/w:d".toList ++ '@' :: "tcp(db:1)/shop".toList) =
        Dsn.mask ("app".toList ++ ':' :: "x".toList ++ '@' :: "tcp(db:1)/shop".toList)) ∧
    (∃ r, Dsn.read (Registry.shopConnection "p@s/w:d").dsn = .ok r ∧
      r.password = some "p@s/w:d".toList ∧
      ∃ user net tail span address,
        Dsn.Placed (Registry.shopConnection "p@s/w:d").dsn user "p@s/w:d".toList net tail ∧
        Dsn.Masked (Registry.shopConnection "p@s/w:d").dsn user span address ∧
        "p@s/w:d".toList <+: span) ∧
    ((Tool.listConnections.run Scripted.World.answer (Registry.shop "p@s/w:d")).1 =
      (Tool.listConnections.run Scripted.World.answer (Registry.shop "x")).1) ∧
    ∃ e ∈ logged (Registry.opening "p@s/w:d"), ∃ e' ∈ logged (Registry.opening "x"),
      ∃ v ∈ e.dsn?, ∃ v' ∈ e'.dsn?, v = v' := by
  have hu : ':' ∉ "app".toList := by decide
  have alike : (Registry.shopConnection "p@s/w:d").Alike (Registry.shopConnection "x") :=
    ⟨.password hu _ _ _, rfl⟩
  have read : (Dsn.read (Registry.shopConnection "p@s/w:d").dsn).map (·.password) =
      .ok (some "p@s/w:d".toList) := by decide +kernel
  obtain ⟨r, hr, hp⟩ := map_eq_ok.1 read
  refine ⟨⟨hu, password_masked.1 _ _ _ _ hu⟩, ⟨r, hr, hp, password_masked.2.1 _ _ _ hr hp⟩,
    password_masked.2.2.1 Scripted.World.environment Scripted.World.environment _ _
      ⟨.cons alike .nil, rfl⟩, ?_⟩
  have runs (password : String) : Runs (Registry.add (Registry.shopConnection password))
      (Registry.opening password) _ := Program.runs_run _ _ _
  have told (password : String) : ∃ e ∈ logged (Registry.opening password), ∃ v, v ∈ e.dsn? :=
    ⟨_, List.mem_of_getElem? (i := 0) rfl, _, rfl⟩
  obtain ⟨e, he, v, hv⟩ := told "p@s/w:d"
  obtain ⟨e', he', v', hv'⟩ := told "x"
  exact ⟨e, he, e', he', v, hv, v', hv',
    password_masked.2.2.2 _ _ _ _ _ _ alike (runs _) (runs _) e he e' he' v hv v' hv'⟩

end QueryGate
