import HostAgent.Central.State
import HostAgent.Proofs.Agent.Questions
import HostAgent.Proofs.Central.Steps
import HostAgent.Proofs.Reconcile.Fleet

/-!
# Ignore entries that are purged

A full sync lists the containers, syncs each, and then removes the ignore
entries of containers that it has not listed. Meanwhile containers appear and
vanish, and ignore entries come and go.

What is purged was listed as ignored and was not in the list of containers. That
list is older than the list of ignore entries: a container that has appeared in
between is in none of the lists that count, and may have an ignore entry
nevertheless.

## Main results

* `fullSync_purges`: what has been replied when an ignore entry is about to be removed.
* `present_since`: a container that is there now but was not listed has appeared since.
* `purge_of_present_iff`: when the purge is about to remove the entry of a container that is there.
* `purge_of_live_container`: a course of events in which it does.
-/

namespace HostAgent.Reconcile

/-! ## Surroundings of a full sync -/

/-- A runtime, and the ids of the ignore entries that the central server has for its containers. -/
structure Grounds where
  fleet : Fleet
  ignored : List String

inductive GroundsMove
  | fleet (m : FleetMove)
  /-- The central server adds an ignore entry for a container that is there. -/
  | ignore (id : String)
  /-- An ignore entry is removed by someone else. -/
  | unignore (id : String)

/-- What the runtime and the list of ignore entries say is true; a call may also fail. -/
def purgeScene : Scene Grounds Unit Action.Reply GroundsMove
  | s, .asked _ ⟨.engine call, reply⟩, s' => s' = s ∧ s.fleet.Tells call reply
  | s, .asked _ ⟨.central .listIgnored, reply⟩, s' =>
    s' = s ∧ ∀ entries, reply = .ok entries →
      (entries.map IgnoreEntry.containerId).Perm s.ignored
  | s, .asked _ ⟨.central (.removeIgnored id), reply⟩, s' =>
    s'.fleet = s.fleet ∧ (s'.ignored = s.ignored.filter (· ≠ id) ∨
      reply.isOk = false ∧ s'.ignored = s.ignored)
  | s, .asked _ _, s' => s' = s
  | s, .moved (.fleet m), s' => s.fleet.Moves s'.fleet m ∧ s'.ignored = s.ignored
  | s, .moved (.ignore id), s' =>
    s'.fleet = s.fleet ∧ s.fleet.Present id ∧ s'.ignored = id :: s.ignored
  | s, .moved (.unignore id), s' =>
    s'.fleet = s.fleet ∧ s'.ignored = s.ignored.filter (· ≠ id)

/-! ## How a full sync comes to purge -/

/-- Actions that have nothing to do with the ignore list. -/
def IsApart : Action → Prop
  | .central (.removeIgnored _) => False
  | _ => True

theorem not_isApart (id : String) : ¬ IsApart (.central (.removeIgnored id)) := fun h => h

theorem syncOne_isApart (hostId id : String) : (syncOne hostId id).Asking IsApart := by
  refine (syncOne_asking hostId id).mono fun a ha => ?_
  cases a with
  | central call => cases call <;> trivial
  | _ => trivial

theorem syncEach_isApart (hostId : String) (wait : Duration) (refs : List ContainerRef)
    (r : FullSyncReport) : (syncEach hostId wait refs r).Asking IsApart := by
  induction refs generalizing r with
  | nil => exact .done _
  | cons c cs ih =>
      cases cs with
      | nil => exact (syncOne_isApart hostId c.id).bind fun _ => .done _
      | cons c' cs =>
          exact (syncOne_isApart hostId c.id).bind fun _ => .ask trivial fun _ => ih _

theorem afterPurge_isApart (hostId : String) (started : Duration) (report : FullSyncReport) :
    (afterPurge hostId started report).Asking IsApart :=
  .ask trivial fun _ => .ask trivial fun _ => .ask trivial fun _ => .ask trivial fun _ => .done _

/-- The next entry to be removed is one of those that were asked for. -/
theorem removeEntries_next {entries : List IgnoreEntry} {past : List (Asked Action.Reply)}
    {id : String} {k : Action.Reply (.central (.removeIgnored id)) → Work Nat}
    (h : (removeEntries entries).Reaches past (.ask (.central (.removeIgnored id)) k)) :
    id ∈ entries.map IgnoreEntry.containerId := by
  induction entries generalizing past k with
  | nil => cases h
  | cons e es ih =>
      cases h with
      | here => exact List.mem_cons_self
      | ask _ _ removed hrest =>
          obtain ⟨k', hk'⟩ := Program.Asking.next_first (fun rest => .done _) (not_isApart id) hrest
          exact List.mem_cons_of_mem _ (ih hk')

theorem purge_next {present : List String} {past : List (Asked Action.Reply)} {id : String}
    {k : Action.Reply (.central (.removeIgnored id)) → Work Nat}
    (h : (purge present).Reaches past (.ask (.central (.removeIgnored id)) k)) :
    id ∉ present ∧ ∃ entries, ⟨.central .listIgnored, .ok entries⟩ ∈ past ∧
      id ∈ entries.map IgnoreEntry.containerId := by
  cases h with
  | ask _ _ reply hrest =>
      cases reply with
      | error e => cases hrest
      | ok entries =>
          obtain ⟨e, he, rfl⟩ := List.mem_map.1 (removeEntries_next hrest)
          obtain ⟨hmem, habsent⟩ := List.mem_filter.1 he
          refine ⟨by simpa using habsent, entries, List.mem_cons_self, ?_⟩
          exact List.mem_map_of_mem hmem

/-- When an ignore entry is about to be removed, the containers have been listed and it is of none
of them, and after that the ignore entries have been listed and it is one of them. -/
theorem fullSync_purges {hostId : String} {wait : Duration} {past : List (Asked Action.Reply)}
    {id : String}
    {k : Action.Reply (.central (.removeIgnored id)) → Work (Except SyncError FullSyncReport)}
    (h : (fullSync hostId wait).Reaches past (.ask (.central (.removeIgnored id)) k)) :
    ∃ started refs more, past = ⟨.now, started⟩ :: ⟨.engine (.list true), .ok refs⟩ :: more ∧
      id ∉ refs.map ContainerRef.id ∧ ∃ entries, ⟨.central .listIgnored, .ok entries⟩ ∈ more ∧
        id ∈ entries.map IgnoreEntry.containerId := by
  cases h with
  | ask _ _ started hlist =>
      cases hlist with
      | ask _ _ reply hrest =>
          cases reply with
          | error e => cases hrest
          | ok refs =>
              obtain ⟨first, rest, report, rfl, -, hpurge⟩ :=
                (syncEach_isApart hostId wait refs _).next_bind (not_isApart id) hrest
              obtain ⟨k', hk'⟩ := Program.Asking.next_first (fun purged => afterPurge_isApart hostId
                started { report with purged }) (not_isApart id) hpurge
              obtain ⟨habsent, entries, hentries, hid⟩ := purge_next hk'
              exact ⟨started, refs, _, rfl, habsent, entries,
                List.mem_append_right _ hentries, hid⟩

/-! ## Containers since the listing -/

theorem fleet_step {s s' : Grounds} {x : Happening Unit Action.Reply GroundsMove}
    (h : purgeScene s x s') (id : String) :
    s'.fleet.Present id ↔ (∃ d, x = .moved (.fleet (.appear d)) ∧ d.id = id) ∨
      (s.fleet.Present id ∧ x ≠ .moved (.fleet (.vanish id))) := by
  cases x with
  | moved m =>
      cases m with
      | fleet m => simpa using @Fleet.Moves.present_iff _ _ _ id h.1
      | ignore id' => simp [h.1]
      | unignore id' => simp [h.1]
  | asked who e =>
      have hsame : s'.fleet = s.fleet := by
        obtain ⟨q, reply⟩ := e
        cases q with
        | engine call => rw [h.1]
        | central call =>
            cases call with
            | listIgnored => rw [h.1]
            | removeIgnored id => exact h.1
            | _ => rw [show s' = s from h]
        | _ => rw [show s' = s from h]
      simp [hsame]

/-- A container is there if it has appeared and not vanished since, or was there before and never
vanished. -/
theorem present_since {s s' : Grounds} {hs : List (Happening Unit Action.Reply GroundsMove)}
    (h : Trail purgeScene s hs s') (id : String) :
    s'.fleet.Present id ↔
      (∃ before d after, hs = before ++ .moved (.fleet (.appear d)) :: after ∧ d.id = id ∧
        .moved (.fleet (.vanish id)) ∉ after) ∨
        (s.fleet.Present id ∧ .moved (.fleet (.vanish id)) ∉ hs) := by
  rw [h.switch (P := fun s => s.fleet.Present id) fun s x s' _ hx => fleet_step hx id]
  constructor
  · rintro (⟨before, _, after, hsplit, ⟨d, rfl, hd⟩, hkept⟩ | ⟨hpresent, hkept⟩)
    · exact .inl ⟨before, d, after, hsplit, hd, fun hmem => hkept _ hmem rfl⟩
    · exact .inr ⟨hpresent, fun hmem => hkept _ hmem rfl⟩
  · rintro (⟨before, d, after, hsplit, hd, hkept⟩ | ⟨hpresent, hkept⟩)
    · exact .inl ⟨before, _, after, hsplit, ⟨d, rfl, hd⟩, fun y hy heq => hkept (heq ▸ hy)⟩
    · exact .inr ⟨hpresent, fun y hy heq => hkept (heq ▸ hy)⟩

/-- A full sync is about to remove an ignore entry. Then its container was not in the list of
containers, and its entry was in the list of ignore entries. The container is there at this moment
if and only if it has appeared after the containers were listed, and not vanished since. -/
theorem purge_of_present_iff {hostId : String} {wait : Duration} {s now : Grounds}
    {hs : List (Happening Unit Action.Reply GroundsMove)}
    {left : Unit → Work (Except SyncError FullSyncReport)}
    (h : Interleaving purgeScene (fun _ => fullSync hostId wait) s hs left now) {id : String}
    {k : Action.Reply (.central (.removeIgnored id)) → Work (Except SyncError FullSyncReport)}
    (hnext : left () = .ask (.central (.removeIgnored id)) k) :
    ∃ refs before after,
      hs = before ++ .asked () ⟨.engine (.list true), .ok refs⟩ :: after ∧
      id ∉ refs.map ContainerRef.id ∧
      (∃ entries, .asked () ⟨.central .listIgnored, .ok entries⟩ ∈ after ∧
        id ∈ entries.map IgnoreEntry.containerId) ∧
      (now.fleet.Present id ↔
        ∃ since d later, after = since ++ .moved (.fleet (.appear d)) :: later ∧ d.id = id ∧
          .moved (.fleet (.vanish id)) ∉ later) := by
  have hown := h.own ()
  rw [hnext] at hown
  obtain ⟨started, refs, more, hpast, habsent, entries, hentries, hid⟩ := fullSync_purges hown
  have hsplit : ownHistory () hs =
      [⟨Action.now, started⟩] ++ ⟨Action.engine (.list true), .ok refs⟩ :: more := hpast
  obtain ⟨before, after, rfl, -, hafter⟩ := ownHistory_split hsplit
  have hmem : .asked () ⟨.central .listIgnored, .ok entries⟩ ∈ after := by
    rw [← mem_ownHistory, hafter]
    exact hentries
  refine ⟨refs, before, after, rfl, habsent, ⟨entries, hmem, hid⟩, ?_⟩
  obtain ⟨mid, -, hrest⟩ := (Trail.append_iff _ _).1 h.trail
  obtain ⟨mid', hlist, htrail⟩ := (Trail.cons_iff _ _).1 hrest
  obtain ⟨rfl, hlisted⟩ := hlist
  have hnot : ¬ mid'.fleet.Present id := by
    intro hpresent
    have hkeys : id ∈ mid'.fleet.containers.keys := (KeyMap.mem_keys_iff _ _).2 hpresent
    exact habsent (List.Perm.mem_iff hlisted |>.2 hkeys)
  rw [present_since htrail id]
  constructor
  · rintro (hsince | ⟨hpresent, -⟩)
    · exact hsince
    · exact absurd hpresent hnot
  · exact .inl

/-! ## A purge that is too hasty

A full sync finds no container. Then one appears and is put on the ignore list, and only then the
ignore entries are listed. -/

def hastyPurge : List (Happening Unit Action.Reply GroundsMove) :=
  [.asked () ⟨.now, .zero⟩, .asked () ⟨.engine (.list true), .ok []⟩,
    .moved (.fleet (.appear web)), .moved (.ignore "x"),
    .asked () ⟨.central .listIgnored, .ok [CentralState.entry "x"]⟩]

/-- What is left of the full sync then. -/
def hastyRest : Work (Except SyncError FullSyncReport) :=
  (removeEntries [CentralState.entry "x"]).bind fun purged =>
    afterPurge "h1" .zero { (default : FullSyncReport) with purged }

theorem hastyPurge_interleaving :
    Interleaving purgeScene (fun _ => fullSync "h1" .zero) ⟨.empty [], []⟩ hastyPurge
      (fun _ => hastyRest) ⟨.single web, ["x"]⟩ where
  trail := by
    have hlisted : purgeScene ⟨.empty [], []⟩
        (.asked () ⟨.engine (.list true), .ok []⟩) ⟨.empty [], []⟩ := ⟨rfl, .nil⟩
    have happear : purgeScene ⟨.empty [], []⟩
        (.moved (.fleet (.appear web))) ⟨.single web, []⟩ := ⟨⟨List.not_mem_nil, rfl, rfl⟩, rfl⟩
    have hignore : purgeScene ⟨.single web, []⟩ (.moved (.ignore "x")) ⟨.single web, ["x"]⟩ :=
      ⟨rfl, ⟨web, rfl⟩, rfl⟩
    have hignored : purgeScene ⟨.single web, ["x"]⟩
        (.asked () ⟨.central .listIgnored, .ok [CentralState.entry "x"]⟩)
        ⟨.single web, ["x"]⟩ := by
      refine ⟨rfl, ?_⟩
      rintro entries ⟨⟩
      exact .refl _
    exact .cons rfl (.cons hlisted (.cons happear (.cons hignore (.cons hignored (.nil _)))))
  own := fun _ => .ask _ _ _ (.ask _ _ _ (.ask _ _ _ (.here _)))

/-- A full sync is about to remove the ignore entry of a container that is there. -/
theorem purge_of_live_container :
    ∃ s hs left now k,
      Interleaving purgeScene (fun _ => fullSync "h1" .zero) s hs left now ∧
        left () = .ask (.central (.removeIgnored "x")) k ∧ now.fleet.Present "x" ∧
        "x" ∈ now.ignored :=
  ⟨_, _, _, _, _, hastyPurge_interleaving, rfl, ⟨web, rfl⟩, List.mem_cons_self⟩

/-- The container has appeared after the listing. -/
theorem purge_of_present_hasty :
    ∃ refs before after,
      hastyPurge = before ++ .asked () ⟨.engine (.list true), .ok refs⟩ :: after ∧
      ∃ since d later, after = since ++ .moved (.fleet (.appear d)) :: later ∧ d.id = "x" ∧
        .moved (.fleet (.vanish "x")) ∉ later := by
  obtain ⟨refs, before, after, hsplit, -, -, hpresent⟩ :=
    purge_of_present_iff hastyPurge_interleaving rfl
  exact ⟨refs, before, after, hsplit, hpresent.1 ⟨web, rfl⟩⟩

end HostAgent.Reconcile
