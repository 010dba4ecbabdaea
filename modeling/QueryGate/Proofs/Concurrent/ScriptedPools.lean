import QueryGate.Proofs.Concurrent.Pools
/-!
# Pools of scripted servers

In a world of scripted servers pools do as `Evolves` says, so what is shown of
all such environments holds there.
-/

namespace QueryGate

open Concurrent
open Sql.Identifier (Quoted)

namespace Pools

variable {ps between ps' : Pools} {a : Act}

/-- Where only the connection changes that a step is done on. -/
theorem Aside.of_frame (frame : ∀ l, a.connection? ≠ some l → ps'.connections l = ps.connections l)
    (homes : ps'.home = ps.home) (old : ∀ options limits, a.step ≠ .openPool options limits) :
    ps.Aside a ps' where
  kept l _ other used := (frame l other).trans used.1
  idled l _ other known _ := .inl ((frame l other).symm.trans known)
  made options limits _ same := absurd (congrArg Act.step same) (old options limits)
  homes pool _ := by rw [homes]

theorem Evolves.of_aside (aside : ps.Aside a ps') (none : a.connection? = none) :
    ps.Evolves a ps' where
  toAside := aside
  leased pool l same := by subst same; cases none
  retired l r k same := by subst same; cases none
  executed l sql r k same := by subst same; cases none
  fetched l sql r k same := by subst same; cases none
  released l r k same := by subst same; cases none

theorem Evolves.of_lease {pool : PoolId} {l : LeaseId} (schema : Option (List Char))
    (aside : ps.Aside ⟨.lease pool, .ok l⟩ ps')
    (taken : ps'.connections l = some ⟨pool, schema, .away⟩)
    (before : ps.connections l = some ⟨pool, schema, .idle⟩ ∨
      ps.connections l = none ∧ schema = ps'.home pool) : ps.Evolves ⟨.lease pool, .ok l⟩ ps' where
  toAside := aside
  leased := by
    rintro pool l ⟨⟩
    exact ⟨schema, taken, before⟩
  retired := by simp
  executed := by simp
  fetched := by simp
  released := by simp

/-- A connection is taken and given back at once. -/
theorem Evolves.ping {pool : PoolId} {l : LeaseId} {r : Answer Unit}
    (leases : ps.Evolves ⟨.lease pool, .ok l⟩ between)
    (releases : between.Evolves ⟨.release l, ()⟩ ps')
    (frame : ∀ l', l ≠ l' → ps'.connections l' = between.connections l') :
    ps.Evolves ⟨.ping pool, r⟩ ps' := by
  have homes (p : PoolId) : ps'.home p = between.home p := releases.homes p (by simp)
  refine .of_aside ⟨fun l' k _ used => ?_, fun l' k _ known idle => ?_, by simp,
    fun p _ => (homes p).trans (leases.homes p (by simp))⟩ rfl
  · by_cases same : l = l'
    · subst same
      exact absurd used (leases.not_inUse_of_leased rfl)
    · exact (frame l' same).trans (leases.kept l' k (by simpa [Act.connection?] using same) used)
  · rw [homes]
    by_cases same : l = l'
    · subst same
      obtain ⟨schema, taken, before⟩ := leases.leased pool l rfl
      obtain ⟨-, rfl, rfl⟩ := releases.released l () _ rfl ⟨taken, by simp⟩ k known idle
      obtain ⟨p, s, place⟩ := k
      obtain rfl : place = .idle := idle
      exact before
    · rw [frame l' same] at known
      exact leases.idled l' k (by simpa [Act.connection?] using same) known idle

end Pools

namespace Scripted

/-! ## What a server takes for a `USE` -/

theorem usedSchema?_of_quoted {name quoted : List Char} (h : Quoted name quoted) :
    usedSchema? ("USE ".toList ++ quoted) = some name := by
  obtain ⟨-, rfl⟩ := h
  have rest : Text.after? "USE \x60".toList ("USE ".toList ++ ('\x60' :: name ++ ['\x60'])) =
      some (name ++ ['\x60']) := Text.after?_eq_some.2 (by simp)
  rw [usedSchema?, rest]
  exact Text.before?_eq_some.2 rfl

theorem maySwitch_of_usedSchema? {sql d : List Char} (h : usedSchema? sql = some d) :
    MaySwitch sql := by
  obtain ⟨rest, after, before⟩ := Option.bind_eq_some_iff.1 h
  rw [Text.after?_eq_some] at after
  rw [Text.before?_eq_some] at before
  subst before after
  have whole : Text.trim ("USE \x60".toList ++ (d ++ ['\x60'])) = "USE \x60".toList ++ (d ++ ['\x60']) :=
    Text.trim_of_ends (c := 'U') (d := '\x60') (by decide) (by decide) ("SE \x60".toList ++ d)
  refine .begins ?_
  rw [whole, Text.beginsWith_iff]
  exact ⟨_, rfl⟩

theorem Reply.isSuccess_of_outcome {r : Reply} (h : r.outcome = .ok ()) : r.isSuccess := by
  cases r <;> first | rfl | cases h

end Scripted

namespace Scripted.World

variable {w : World} {l : LeaseId} {p : PoolId}

/-! ## The connections of a world -/

def idleOf (w : World) (p : PoolId) : List LeaseId := w.pools[p]?.elim [] (·.idle)

def whereabouts (w : World) (l : LeaseId) (k : Link) : Whereabouts :=
  if l ∈ w.idleOf k.pool then .idle else if k.retired then .retired else .away

def view (w : World) : Pools where
  home p := w.pools[p]?.bind (·.options.database)
  connections l := w.links[l]?.map fun k => ⟨k.pool, k.database, w.whereabouts l k⟩

/-- Idle connections are connections of their pool, each of them once. -/
structure Sound (w : World) : Prop where
  linked : ∀ p, ∀ l ∈ w.idleOf p, ∃ k, w.links[l]? = some k ∧ k.pool = p ∧ k.retired = false
  nodup : ∀ p, (w.idleOf p).Nodup
  pooled : ∀ (l : LeaseId) (k : Link), w.links[l]? = some k → k.pool < w.pools.length

theorem whereabouts_eq_idle {k : Link} : w.whereabouts l k = .idle ↔ l ∈ w.idleOf k.pool := by
  unfold whereabouts
  split
  · simp [*]
  · split <;> simp [*]

theorem view_inUse {k : Connection} : w.view.InUse l k ↔ ∃ link, w.links[l]? = some link ∧
    l ∉ w.idleOf link.pool ∧
      k = ⟨link.pool, link.database, if link.retired then .retired else .away⟩ := by
  simp only [Pools.InUse, view, Option.map_eq_some_iff]
  constructor
  · rintro ⟨⟨link, known, rfl⟩, used⟩
    have busy : l ∉ w.idleOf link.pool := fun idle => used (whereabouts_eq_idle.2 idle)
    exact ⟨link, known, busy, by simp [whereabouts, busy]⟩
  · rintro ⟨link, known, busy, rfl⟩
    refine ⟨⟨link, known, by simp [whereabouts, busy]⟩, ?_⟩
    dsimp only
    split <;> simp

/-- A connection in use is idle in no pool. -/
theorem Sound.not_idle (sound : w.Sound) {k : Connection} (used : w.view.InUse l k) (p : PoolId) :
    l ∉ w.idleOf p := by
  obtain ⟨link, known, busy, -⟩ := view_inUse.1 used
  intro idle
  obtain ⟨link', known', rfl, -⟩ := sound.linked p l idle
  rw [known] at known'
  cases known'
  exact busy idle

theorem connections_eq {w' : World} (links : w'.links[l]? = w.links[l]?)
    (idle : ∀ p, l ∈ w'.idleOf p ↔ l ∈ w.idleOf p) :
    w'.view.connections l = w.view.connections l := by
  simp only [view, links, whereabouts, idle]

/-! ## Pools that change -/

theorem idleOf_modify (w : World) (f : Pool → Pool) (id p : PoolId) :
    idleOf { w with pools := w.pools.modify id f } p =
      if id = p then w.pools[p]?.elim [] fun q => (f q).idle else w.idleOf p := by
  unfold idleOf
  rw [List.getElem?_modify]
  split
  · cases w.pools[p]? <;> rfl
  · cases w.pools[p]? <;> rfl

theorem home_modify (w : World) (f : Pool → Pool) (same : ∀ q, (f q).options = q.options)
    (id : PoolId) : (view { w with pools := w.pools.modify id f }).home = w.view.home := by
  funext p
  simp only [view, List.getElem?_modify]
  cases w.pools[p]? with
  | none => rfl
  | some q =>
    simp only [Option.map_eq_map, Option.map_some, Option.bind_some]
    split
    · rw [same]
    · rfl

/-! ## Taking and giving back -/

theorem getElem?_concat_ne {α : Type} {as : List α} {a : α} {n : Nat} (other : n ≠ as.length) :
    (as ++ [a])[n]? = as[n]? := by
  rw [List.getElem?_append]
  split
  · rfl
  · rw [List.getElem?_eq_none (by simp; omega), List.getElem?_eq_none (by omega)]

theorem set_eq_modify {α : Type} {as : List α} {n : Nat} {a : α} (found : as[n]? = some a)
    (f : α → α) : as.set n (f a) = as.modify n f := by
  refine List.ext_getElem? fun i => ?_
  rw [List.getElem?_modify]
  by_cases here : n = i
  · subst here
    rw [List.getElem?_set_self (List.getElem?_eq_some_iff.1 found).1, found]
    simp
  · rw [List.getElem?_set_ne here]
    simp [here]

/-- A connection that is taken was idle, or is new. -/
theorem lease_cases (w : World) (id : PoolId) :
    (∃ f, w.lease id = (.failed f, w)) ∨
    (∃ l rest, w.idleOf id = l :: rest ∧
      w.lease id = (.ok l, { w with pools := w.pools.modify id fun q => { q with idle := rest } })) ∨
    ∃ pool, w.pools[id]? = some pool ∧ w.lease id =
      (.ok w.links.length, { w with links := w.links ++ [⟨id, pool.options.database, false⟩] }) := by
  unfold lease
  split
  · exact .inl ⟨_, rfl⟩
  next pool found =>
  split
  · exact .inl ⟨_, rfl⟩
  split
  · unfold connect
    split
    · exact .inl ⟨_, rfl⟩
    split
    · exact .inl ⟨_, rfl⟩
    · exact .inr (.inr ⟨pool, found, rfl⟩)
  · next l rest idle =>
    refine .inr (.inl ⟨l, rest, by simp [idleOf, found, idle], ?_⟩)
    rw [set_eq_modify found fun q => { q with idle := rest }]

theorem idleOf_of_found {q : Pool} (found : w.pools[p]? = some q) : w.idleOf p = q.idle := by
  rw [idleOf, found]
  rfl

/-- What a text that is sent does to its connection. -/
theorem send_cases {link : Link} (known : w.links[l]? = some link) (sql : List Char) :
    ∃ servers database,
      (w.send l sql).2 = { w with servers, links := w.links.modify l ({ · with database }) } ∧
      (∀ d, usedSchema? sql = some d → (w.send l sql).1.isSuccess → database = some d) ∧
      (usedSchema? sql = none → database = link.database) := by
  unfold send
  dsimp only
  split
  · refine ⟨w.servers, link.database, ?_, fun d _ success => ?_, fun _ => rfl⟩
    · have same : w.links.modify l ({ · with database := link.database }) = w.links := by
        obtain ⟨bound, rfl⟩ := List.getElem?_eq_some_iff.1 known
        rw [← set_eq_modify known]
        exact List.set_getElem_self bound
      rw [same]
    · cases success
  · next link' i server found =>
    simp only [known, Option.bind_eq_bind, Option.bind_some, Option.bind_eq_some_iff] at found
    obtain ⟨pool, -, n, -, server', -, same⟩ := found
    cases same
    refine ⟨_, _, by rw [← set_eq_modify known], fun d used success => ?_, fun none => ?_⟩
    · simp [used, success]
    · simp [none]

namespace Sound

variable {id : PoolId} (sound : w.Sound)

include sound

theorem lt_length (idle : l ∈ w.idleOf p) : l < w.links.length := by
  obtain ⟨k, known, -⟩ := sound.linked p l idle
  exact (List.getElem?_eq_some_iff.1 known).1

theorem modify {f : Pool → Pool}
    (linked : ∀ q, w.pools[id]? = some q → ∀ l ∈ (f q).idle,
      ∃ k, w.links[l]? = some k ∧ k.pool = id ∧ k.retired = false)
    (nodup : ∀ q, w.pools[id]? = some q → (f q).idle.Nodup) :
    Sound { w with pools := w.pools.modify id f } := by
  refine ⟨fun p l idle => ?_, fun p => ?_, fun l k known => ?_⟩
  · rw [idleOf_modify] at idle
    split at idle
    · next here =>
      subst here
      cases found : w.pools[id]? with
      | none => simp [found] at idle
      | some q =>
        rw [found] at idle
        exact linked q found l idle
    · exact sound.linked p l idle
  · rw [idleOf_modify]
    split
    · next here =>
      subst here
      cases found : w.pools[id]? with
      | none => exact List.nodup_nil
      | some q => exact nodup q found
    · exact sound.nodup p
  · rw [List.length_modify]
    exact sound.pooled l k known

/-- A link that is not idle may change, but for its pool. -/
theorem relink {k : Connection} (used : w.view.InUse l k) (f : Link → Link)
    (stays : ∀ k, (f k).pool = k.pool) (servers : List Server) :
    Sound { w with servers, links := w.links.modify l f } := by
  refine ⟨fun p l' idle => ?_, sound.nodup, fun l' k known => ?_⟩
  · have other : l ≠ l' := by
      rintro rfl
      exact sound.not_idle used p idle
    obtain ⟨k, known, fits⟩ := sound.linked p l' idle
    exact ⟨k, (List.getElem?_modify_ne _ _ other).trans known, fits⟩
  · rw [List.getElem?_modify] at known
    obtain ⟨link, was, rfl⟩ := Option.map_eq_some_iff.1 known
    have bound := sound.pooled l' link was
    split
    · rw [stays]
      exact bound
    · exact bound

theorem send {k : Connection} (used : w.view.InUse l k) (sql : List Char) :
    (w.send l sql).2.Sound := by
  obtain ⟨link, known, -⟩ := view_inUse.1 used
  obtain ⟨servers, database, same, -⟩ := send_cases known sql
  rw [same]
  exact sound.relink used ({ · with database }) (fun _ => rfl) servers

theorem lease (id : PoolId) : (w.lease id).2.Sound := by
  obtain ⟨f, same⟩ | ⟨l, rest, idle, same⟩ | ⟨pool, found, same⟩ := w.lease_cases id
  · rw [same]
    exact sound
  · rw [same]
    refine sound.modify (fun q _ l' taken => sound.linked id l' ?_) fun q _ => ?_
    · rw [idle]
      exact List.mem_cons_of_mem l taken
    · have nodup := sound.nodup id
      rw [idle] at nodup
      exact nodup.of_cons
  · rw [same]
    refine ⟨fun p l idle => ?_, sound.nodup, fun l k known => ?_⟩
    · obtain ⟨k, known, fits⟩ := sound.linked p l idle
      exact ⟨k, (List.getElem?_append_left (List.getElem?_eq_some_iff.1 known).1).trans known, fits⟩
    · obtain old | new := List.mem_append.1 (List.mem_of_getElem? known)
      · obtain ⟨l', old⟩ := List.getElem?_of_mem old
        exact sound.pooled l' k old
      · rw [List.mem_singleton.1 new]
        exact (List.getElem?_eq_some_iff.1 found).1

theorem evolves_lease (id : PoolId) :
    w.view.Evolves ⟨.lease id, (w.lease id).1⟩ (w.lease id).2.view := by
  obtain ⟨f, same⟩ | ⟨l, rest, idle, same⟩ | ⟨pool, found, same⟩ := w.lease_cases id
  · rw [same]
    exact .of_aside (.of_frame (fun _ _ => rfl) rfl (by simp)) rfl
  · rw [same]
    have nodup := sound.nodup id
    rw [idle] at nodup
    obtain ⟨k, known, rfl, fresh⟩ := sound.linked id l (by simp [idle])
    have left (p : PoolId) : idleOf { w with pools := w.pools.modify k.pool ({ · with idle := rest }) } p =
        if k.pool = p then rest else w.idleOf p := by
      rw [idleOf_modify]
      split
      · next here =>
        subst here
        cases found : w.pools[k.pool]? with
        | none => simp [idleOf, found] at idle
        | some q => rfl
      · rfl
    refine .of_lease k.database (.of_frame (fun l' other => connections_eq rfl fun p => ?_)
      (home_modify w ({ · with idle := rest }) (fun _ => rfl) _) (by simp)) ?_ (.inl ?_)
    · have other : l' ≠ l := by
        rintro rfl
        exact other rfl
      rw [left]
      split
      · next here =>
        subst here
        rw [idle]
        simp [other]
      · rfl
    · have busy : l ∉ rest := (List.nodup_cons.1 nodup).1
      simp [view, known, whereabouts, left, busy, fresh]
    · simp [view, known, whereabouts, idle]
  · rw [same]
    have busy : w.links.length ∉ w.idleOf id := fun idle =>
      Nat.lt_irrefl _ (sound.lt_length idle)
    refine .of_lease pool.options.database (.of_frame (fun l other => connections_eq ?_ fun p => Iff.rfl)
      rfl (by simp)) ?_ (.inr ⟨?_, ?_⟩)
    · exact getElem?_concat_ne fun new => other (by rw [new]; rfl)
    · simp [view, whereabouts, idleOf] at busy ⊢
      simp [busy]
    · simp [view]
    · simp [view, found]

theorem release {k : Connection} (used : w.view.InUse l k) : (w.release l).Sound := by
  unfold World.release
  obtain ⟨link, known, -⟩ := view_inUse.1 used
  rw [known]
  dsimp only
  split
  · exact sound
  · next stays =>
    refine sound.modify (fun q found l' back => ?_) fun q found => ?_
    · obtain rfl | old := List.mem_cons.1 back
      · exact ⟨link, known, rfl, by simpa using stays⟩
      · rw [← idleOf_of_found found] at old
        exact sound.linked link.pool l' old
    · rw [← idleOf_of_found found]
      exact List.nodup_cons.2 ⟨sound.not_idle used link.pool, sound.nodup link.pool⟩

end Sound

/-- Only the connection that is given back changes. -/
theorem frame_release (w : World) {l' : LeaseId} (other : l ≠ l') :
    (w.release l).view.connections l' = w.view.connections l' := by
  unfold release
  split
  · rfl
  split
  · rfl
  refine connections_eq rfl fun p => ?_
  rw [idleOf_modify]
  split
  · simp only [idleOf]
    cases w.pools[p]? <;> simp [other.symm]
  · rfl

theorem home_release (w : World) (l : LeaseId) : (w.release l).view.home = w.view.home := by
  unfold release
  split
  · rfl
  split
  · rfl
  exact home_modify w (fun p => { p with idle := l :: p.idle }) (fun _ => rfl) _

/-- A connection that was retired is not idle again. -/
theorem evolves_release (w : World) (l : LeaseId) :
    w.view.Evolves ⟨.release l, ()⟩ (w.release l).view where
  toAside := .of_frame (fun l' other => w.frame_release fun same => other (same ▸ rfl))
    (w.home_release l) (by simp)
  leased := by simp
  retired := by simp
  executed := by simp
  fetched := by simp
  released := by
    rintro l r k ⟨⟩ used k' known idle
    obtain ⟨link, linked, busy, rfl⟩ := view_inUse.1 used
    unfold release at known
    rw [linked] at known
    dsimp only at known
    split at known
    · rw [used.1] at known
      cases known
      exact absurd idle used.2
    · next stays =>
      simp only [view, linked, Option.map_some, Option.some.injEq] at known
      subst known
      exact ⟨by simp [stays], rfl, rfl⟩

/-! ## Retiring and sending -/

theorem frame_relink (w : World) (f : Link → Link) (servers : List Server) {l' : LeaseId}
    (other : l ≠ l') :
    (view { w with servers, links := w.links.modify l f }).connections l' =
      w.view.connections l' :=
  connections_eq (List.getElem?_modify_ne _ _ other) fun _ => Iff.rfl

theorem connections_relink {link : Link} (known : w.links[l]? = some link) (f : Link → Link)
    (stays : (f link).pool = link.pool) (busy : l ∉ w.idleOf link.pool) (servers : List Server) :
    (view { w with servers, links := w.links.modify l f }).connections l =
      some ⟨link.pool, (f link).database, if (f link).retired then .retired else .away⟩ := by
  have busy' : l ∉ idleOf { w with servers, links := w.links.modify l f } link.pool := busy
  simp [view, known, whereabouts, stays, busy']

theorem evolves_retire (w : World) (l : LeaseId) :
    w.view.Evolves ⟨.retire l, ()⟩ (w.retire l).view where
  toAside := .of_frame (fun l' other => w.frame_relink _ w.servers fun same => other (same ▸ rfl))
    rfl (by simp)
  leased := by simp
  retired := by
    rintro l r k ⟨⟩ used
    obtain ⟨link, known, busy, rfl⟩ := view_inUse.1 used
    exact connections_relink known ({ · with retired := true }) rfl busy w.servers
  executed := by simp
  fetched := by simp
  released := by simp

theorem send_unlinked (none : w.links[l]? = none) (sql : List Char) :
    w.send l sql = (.silence, w) := by
  simp [send, none]

theorem aside_send {a : Act} (w : World) (l : LeaseId) (sql : List Char)
    (on : a.connection? = some l) (old : ∀ options limits, a.step ≠ .openPool options limits) :
    w.view.Aside a (w.send l sql).2.view := by
  cases known : w.links[l]? with
  | none =>
    rw [send_unlinked known]
    exact .of_frame (fun _ _ => rfl) rfl old
  | some link =>
    obtain ⟨servers, database, same, -⟩ := send_cases known sql
    rw [same]
    exact .of_frame (fun l' other => w.frame_relink _ servers fun same => other (same ▸ on)) rfl old

/-- A text that is sent changes the schema of its connection at most. -/
theorem sends {k : Connection} (used : w.view.InUse l k) (sql : List Char) : ∃ schema,
    (w.send l sql).2.view.connections l = some { k with schema } ∧
      (∀ d, usedSchema? sql = some d → (w.send l sql).1.isSuccess → schema = some d) ∧
      (usedSchema? sql = none → schema = k.schema) := by
  obtain ⟨link, known, busy, rfl⟩ := view_inUse.1 used
  obtain ⟨servers, database, same, switches, stays⟩ := send_cases known sql
  refine ⟨database, ?_, switches, stays⟩
  rw [same]
  exact connections_relink known ({ · with database }) rfl busy servers

theorem evolves_execute (w : World) (l : LeaseId) (sql : List Char) :
    w.view.Evolves ⟨.execute l sql, (w.send l sql).1.outcome⟩ (w.send l sql).2.view where
  toAside := w.aside_send l sql rfl (by simp)
  leased := by simp
  retired := by simp
  executed := by
    rintro l sql r k ⟨⟩ used
    obtain ⟨schema, now, switches, -⟩ := sends used sql
    refine ⟨schema, now, fun name quoted isQuoted same took => ?_⟩
    exact switches name (same ▸ usedSchema?_of_quoted isQuoted) (Reply.isSuccess_of_outcome took)
  fetched := by simp
  released := by simp

theorem evolves_fetch (w : World) (l : LeaseId) (sql : List Char) :
    w.view.Evolves ⟨.fetch l sql, (w.send l sql).1.stream⟩ (w.send l sql).2.view where
  toAside := w.aside_send l sql rfl (by simp)
  leased := by simp
  retired := by simp
  executed := by simp
  fetched := by
    rintro l sql r k ⟨⟩ used
    obtain ⟨schema, now, -, stays⟩ := sends used sql
    refine ⟨schema, now, fun safe => stays ?_⟩
    exact Option.eq_none_iff_forall_ne_some.2 fun d switches =>
      safe (maySwitch_of_usedSchema? switches)
  released := by simp

/-! ## Pools as a whole -/

/-- Steps on neither pools nor connections. -/
theorem Sound.unconnected (sound : w.Sound) {w' : World} {s : Step} {r : s.Result}
    (pools : w'.pools = w.pools) (links : w'.links = w.links)
    (none : (⟨s, r⟩ : Act).connection? = none) (old : ∀ options limits, s ≠ .openPool options limits) :
    w'.Sound ∧ w.view.Evolves ⟨s, r⟩ w'.view := by
  have idle : w'.idleOf = w.idleOf := by
    funext p
    simp only [idleOf, pools]
  have same : w'.view = w.view := by simp only [view, whereabouts, idle, pools, links]
  constructor
  · constructor
    · simpa only [idle, links] using sound.linked
    · simpa only [idle] using sound.nodup
    · simpa only [pools, links] using sound.pooled
  · rw [same]
    exact .of_aside (.of_frame (fun _ _ => rfl) rfl old) none

theorem Sound.ping (sound : w.Sound) (id : PoolId) :
    (w.ping id).2.Sound ∧ w.view.Evolves ⟨.ping id, (w.ping id).1⟩ (w.ping id).2.view := by
  obtain ⟨f, failed⟩ | ⟨l, between, taken⟩ :
      (∃ f, w.lease id = (.failed f, w)) ∨ ∃ l between, w.lease id = (.ok l, between) := by
    obtain failed | ⟨l, rest, -, taken⟩ | ⟨pool, -, taken⟩ := w.lease_cases id
    · exact .inl failed
    · exact .inr ⟨_, _, taken⟩
    · exact .inr ⟨_, _, taken⟩
  · rw [World.ping, failed]
    exact sound.unconnected rfl rfl rfl (by simp)
  · have soundBetween := sound.lease id
    have leases := sound.evolves_lease id
    rw [taken] at soundBetween leases
    rw [World.ping, taken]
    obtain ⟨schema, known, -⟩ := leases.leased id l rfl
    exact ⟨soundBetween.release ⟨known, by simp⟩, leases.ping (between.evolves_release l)
      fun l' other => between.frame_release other⟩

theorem idleOf_closePool (w : World) (id : PoolId) :
    idleOf { w with pools := w.pools.modify id fun p => { p with idle := [], closed := true } } p =
      if id = p then [] else w.idleOf p := by
  rw [idleOf_modify]
  split
  · cases w.pools[p]? <;> rfl
  · rfl

theorem Sound.closePool (sound : w.Sound) (id : PoolId) :
    let closed := { w with pools := w.pools.modify id fun p => { p with idle := [], closed := true } }
    closed.Sound ∧ w.view.Evolves ⟨.closePool id, ()⟩ closed.view := by
  have homes := home_modify w (fun p => { p with idle := [], closed := true }) (fun _ => rfl) id
  refine ⟨sound.modify (by simp) (by simp), .of_aside ⟨fun l k _ used => ?_, fun l k _ known idle => ?_,
    by simp, fun p _ => by rw [homes]⟩ rfl⟩
  · obtain ⟨link, linked, busy, rfl⟩ := view_inUse.1 used
    simp [view, linked, whereabouts, idleOf_closePool, busy]
  · obtain ⟨link, linked, rfl⟩ := Option.map_eq_some_iff.1 known
    have still := whereabouts_eq_idle.1 idle
    rw [idleOf_closePool] at still
    split at still
    · cases still
    · next other =>
      left
      simp [view, linked, whereabouts, idleOf_closePool, other]

theorem Sound.openPool (sound : w.Sound) (options : Dsn.Options) (limits : PoolOptions) :
    (w.openPool options limits).2.Sound ∧
      w.view.Evolves ⟨.openPool options limits, (w.openPool options limits).1⟩
        (w.openPool options limits).2.view := by
  have idle (p : PoolId) : (w.openPool options limits).2.idleOf p = w.idleOf p := by
    by_cases new : p = w.pools.length
    · simp [World.openPool, idleOf, new]
    · simp only [World.openPool, idleOf, getElem?_concat_ne new]
  have connections (l : LeaseId) :
      (w.openPool options limits).2.view.connections l = w.view.connections l :=
    connections_eq rfl fun p => by rw [idle]
  refine ⟨⟨fun p l h => sound.linked p l (idle p ▸ h), fun p => (idle p).symm ▸ sound.nodup p, ?_⟩, .of_aside
    ⟨fun l k _ used => (connections l).trans used.1,
      fun l k _ known _ => .inl ((connections l).symm.trans known), ?_, ?_⟩ rfl⟩
  · intro l k known
    rw [World.openPool, List.length_append]
    exact Nat.lt_add_right _ (sound.pooled l k known)
  · rintro options' limits' pool same
    cases same
    refine ⟨by simp [World.openPool, view], fun l k known pool => ?_⟩
    obtain ⟨link, linked, rfl⟩ := Option.map_eq_some_iff.1 known
    exact Nat.ne_of_lt (sound.pooled l link linked) pool
  · intro p other
    have old : p ≠ w.pools.length := fun new => other options limits (by rw [new]; rfl)
    simp only [World.openPool, view, getElem?_concat_ne old]

/-- Every step leaves a world sound, and its pools do as they should, if
connections that a step is done on are in use. -/
theorem Sound.answer (sound : w.Sound) (s : Step)
    (ready : ∀ l, (⟨s, (answer s w).1⟩ : Act).connection? = some l →
      (∃ k, w.view.InUse l k) ∨ ∃ pool, (⟨s, (answer s w).1⟩ : Act) = ⟨.lease pool, .ok l⟩) :
    (answer s w).2.Sound ∧ w.view.Evolves ⟨s, (answer s w).1⟩ (answer s w).2.view := by
  cases s with
  | openPool options limits => exact sound.openPool options limits
  | ping pool => exact sound.ping pool
  | closePool pool => exact sound.closePool pool
  | lease pool => exact ⟨sound.lease pool, sound.evolves_lease pool⟩
  | retire l =>
    obtain ⟨k, used⟩ | ⟨pool, same⟩ := ready l rfl
    · exact ⟨sound.relink used ({ · with retired := true }) (fun _ => rfl) w.servers, w.evolves_retire l⟩
    · cases same
  | execute l sql =>
    obtain ⟨k, used⟩ | ⟨pool, same⟩ := ready l rfl
    · exact ⟨sound.send used sql, w.evolves_execute l sql⟩
    · cases same
  | fetch l sql =>
    obtain ⟨k, used⟩ | ⟨pool, same⟩ := ready l rfl
    · exact ⟨sound.send used sql, w.evolves_fetch l sql⟩
    · cases same
  | release l =>
    obtain ⟨k, used⟩ | ⟨pool, same⟩ := ready l rfl
    · exact ⟨sound.release used, w.evolves_release l⟩
    · cases same
  | log | isTaken | active | summaries => exact sound.unconnected rfl rfl rfl (by simp)
  | insert entry =>
    simp only [World.answer]
    split <;> exact sound.unconnected rfl rfl rfl (by simp)
  | setActive name =>
    simp only [World.answer]
    split <;> exact sound.unconnected rfl rfl rfl (by simp)
  | close =>
    simp only [World.answer]
    split <;> exact sound.unconnected rfl rfl rfl (by simp)

/-! ## All schedules -/

theorem sound_start (servers : List Server) (hosts : List (List Char × String)) :
    (start servers hosts).Sound := by
  constructor <;> simp [start, idleOf]

theorem atHome_start (servers : List Server) (hosts : List (List Char × String)) :
    (start servers hosts).view.AtHome := by
  simp [start, view, Pools.AtHome]

/-- Calls do steps on connections they hold only, so a world stays sound. -/
theorem lawful (x : Executor) (sound : w.Sound) (atHome : w.view.AtHome) (moves : List Move) :
    (environment.interleave x w moves).state.Sound ∧
      ∀ h ∈ (environment.interleave x w moves).history, h.before.view.Evolves h.act h.after.view := by
  refine environment.reached_invariant
    (P := fun m => Sound m.state ∧ ∀ h ∈ m.history, h.before.view.Evolves h.act h.after.view)
    ⟨sound, by simp⟩ (fun moves call old => old)
    (fun moves i call s next found ⟨sound, lawful⟩ => ?_) moves
  have tidy := environment.tidy atHome moves lawful
  have strides := environment.strides_task moves found
    (answer s (environment.interleave x w moves).state).1
  obtain ⟨soundAfter, evolves⟩ := sound.answer s fun l on => by
    obtain held | taken := strides.connection? on
    · exact .inl (tidy.inUse held)
    · exact .inr taken
  refine ⟨soundAfter, fun h hm => ?_⟩
  obtain earlier | now := List.mem_append.1 hm
  · exact lawful h earlier
  · rw [List.mem_singleton.1 now]
    exact evolves

end Scripted.World

end QueryGate
