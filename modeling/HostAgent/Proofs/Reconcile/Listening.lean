import Mathlib.Data.List.Forall2
import HostAgent.Proofs.Agent.Questions
import HostAgent.Proofs.Agent.Schedules
import HostAgent.Proofs.Health.History
import HostAgent.Proofs.Reconcile.Fleet
import HostAgent.World.Simulation

/-!
# What the event loop does

The engine has a sequence of subscriptions. Each yields events and errors, in
order, and then ends or stays open. The event loop takes one subscription after
the other: it handles its events up to the first error, and tells once that it
broke off, waits once and opens the next. So a history of the loop consists of
chapters, one for each subscription, and the last may be incomplete. What the
counter, the log and the health of the stream show follows from the reasons for
which subscriptions broke off, one for each chapter.

## Main results

* `Feed.serves_append`: replies of the engine can be cut anywhere.
* `LoopRun.told`: the chapters of a run.
* `EventLoop.Told.noted`: what the counter, the log and the health show of a run.
* `events_delivered`: what the loop did with each subscription, at every wait, and that it goes on.
-/

namespace HostAgent

open List (Forall₂)

/-! ## Subscriptions -/

namespace Subscription

/-- What a subscription yields, without the waits. -/
def yields (s : Subscription) : List (Except EngineError LifecycleEvent) := s.items.map Prod.snd

/-- The events before the first error. -/
def served : List (Except EngineError LifecycleEvent) → List LifecycleEvent
  | .ok e :: rest => e :: served rest
  | _ => []

/-- The first error. -/
def error? : List (Except EngineError LifecycleEvent) → Option EngineError
  | .ok _ :: rest => error? rest
  | .error e :: _ => some e
  | [] => none

theorem served_append (events : List LifecycleEvent)
    (rest : List (Except EngineError LifecycleEvent)) :
    served (events.map .ok ++ rest) = events ++ served rest := by
  induction events with
  | nil => rfl
  | cons e events ih => exact congrArg (e :: ·) ih

theorem error?_append (events : List LifecycleEvent)
    (rest : List (Except EngineError LifecycleEvent)) :
    error? (events.map .ok ++ rest) = error? rest := by
  induction events with
  | nil => rfl
  | cons e events ih => exact ih

/-- What a subscription yields last before the loop gives it up, and the reason that it tells.
A subscription without an error that stays open is not given up. -/
inductive Breaks (s : Subscription) : Option (Except EngineError LifecycleEvent) → String → Prop
  | failed {e : EngineError} : error? s.yields = some e → Breaks s (some (.error e)) e.message
  | closed : error? s.yields = none → s.staysOpen = false → Breaks s none "event stream closed"

end Subscription

namespace Subscription

variable {s left : Subscription} {events : List LifecycleEvent}

theorem breaks_of_error {e : EngineError} (hyields : s.yields = events.map .ok ++ left.yields)
    (herror : left.yields.head? = some (.error e)) :
    served s.yields = events ∧ s.Breaks (some (.error e)) e.message := by
  obtain ⟨rest, hrest⟩ := List.head?_eq_some_iff.1 herror
  rw [hrest] at hyields
  refine ⟨?_, .failed ?_⟩
  · rw [hyields, served_append]
    exact List.append_nil events
  · rw [hyields, error?_append]
    rfl

theorem breaks_of_end (hyields : s.yields = events.map .ok ++ left.yields)
    (hend : left.yields = []) (hclosed : s.staysOpen = false) :
    served s.yields = events ∧ s.Breaks none "event stream closed" := by
  rw [hend] at hyields
  refine ⟨?_, .closed ?_ hclosed⟩
  · rw [hyields, served_append]
    exact List.append_nil events
  · rw [hyields, error?_append]
    rfl

end Subscription

/-- Where the engine is in a sequence of subscriptions: how many of them were opened, and what the
last has still to yield. -/
structure Feed where
  opened : Nat
  current : Subscription

namespace Feed

/-- Nothing was opened. -/
def start : Feed := ⟨0, .silent⟩

/-- Does a reply agree with what there is to yield? Only items of a subscription are looked at. -/
def Allows (f : Feed) : Asked Action.Reply → Prop
  | ⟨.nextEvent, some item⟩ => f.current.yields.head? = some item
  | ⟨.nextEvent, none⟩ => f.current.yields = [] ∧ f.current.staysOpen = false
  | _ => True

variable (subs : Nat → Subscription)

def next (f : Feed) : Asked Action.Reply → Feed
  | ⟨.subscribe, _⟩ => ⟨f.opened + 1, subs f.opened⟩
  | ⟨.nextEvent, _⟩ => { f with current := { f.current with items := f.current.items.tail } }
  | _ => f

def after (f : Feed) (past : List (Asked Action.Reply)) : Feed := past.foldl (next subs) f

/-- All replies of a history agree with a sequence of subscriptions. -/
def Serves : Feed → List (Asked Action.Reply) → Prop
  | _, [] => True
  | f, e :: past => f.Allows e ∧ Serves (f.next subs e) past

variable {subs}

theorem yields_next (f : Feed) (item : Option (Except EngineError LifecycleEvent)) :
    (f.next subs ⟨.nextEvent, item⟩).current.yields = f.current.yields.tail := by
  simp [next, Subscription.yields, List.map_tail]

theorem after_append (f : Feed) (first second : List (Asked Action.Reply)) :
    f.after subs (first ++ second) = (f.after subs first).after subs second :=
  List.foldl_append

theorem serves_append (f : Feed) (first second : List (Asked Action.Reply)) :
    f.Serves subs (first ++ second) ↔
      f.Serves subs first ∧ (f.after subs first).Serves subs second := by
  induction first generalizing f with
  | nil => simp [Serves, after]
  | cons e first ih => simp [Serves, after, ih, and_assoc]

end Feed

/-- A handler takes nothing from a subscription. -/
theorem Feed.after_handler {subs : Nat → Subscription} {hostId : String} (f : Feed)
    {work : List (Asked Action.Reply)} (h : ∀ a ∈ work, a.question.OfHandler hostId) :
    f.after subs work = f := by
  induction work with
  | nil => rfl
  | cons a work ih =>
      have hnext : f.next subs a = f := by
        obtain ⟨q, r⟩ := a
        cases q with
        | subscribe => exact (h _ List.mem_cons_self).elim
        | nextEvent => exact (h _ List.mem_cons_self).elim
        | _ => rfl
      rw [after, List.foldl_cons, hnext]
      exact ih fun a ha => h a (List.mem_cons_of_mem _ ha)

/-! ## Chapters -/

namespace EventLoop

/-- A subscription is opened, and the stream is well. -/
def opening : List (Asked Action.Reply) :=
  [⟨.subscribe, ()⟩, ⟨.notice (.health (.put "event_stream" .healthy none)), ()⟩]

/-- A line of the log after a failure. -/
def complaint : Except SyncError Unit → List (Asked Action.Reply)
  | .ok _ => []
  | .error _ => [⟨.notice (.line "Event-driven sync failed"), ()⟩]

/-- An event is taken and handled, with any outcome. -/
def Handled (hostId : String) (e : LifecycleEvent) (past : List (Asked Action.Reply)) : Prop :=
  ∃ work outcome, (Reconcile.handle hostId e).Yields work outcome ∧
    (∀ a ∈ work, a.question.OfHandler hostId) ∧
    past = ⟨.nextEvent, some (.ok e)⟩ :: (work ++ complaint outcome)

/-- Events are handled one after the other. -/
def HandledAll (hostId : String) (events : List LifecycleEvent)
    (past : List (Asked Action.Reply)) : Prop :=
  ∃ parts, Forall₂ (Handled hostId) events parts ∧ past = parts.flatten

/-- A subscription broke off at some instant: this is counted, logged and shown. -/
def breaking (hostId : String) (delay : Duration)
    (last : Option (Except EngineError LifecycleEvent)) (reason : String) (instant : Duration) :
    List (Asked Action.Reply) :=
  [⟨.nextEvent, last⟩,
    ⟨.notice (.series .reconnected), ()⟩,
    ⟨.notice (.event hostId (.streamReconnect reason delay.secs)), ()⟩,
    ⟨.notice (.health (.put "event_stream" .degraded (some reason))), ()⟩,
    ⟨.now, instant⟩]

/-- What the loop did with a subscription up to a wait, and what the subscription has still to
yield. -/
inductive Standing (hostId : String) (delay : Duration) (s : Subscription) :
    Subscription → EventLoop → List (Asked Action.Reply) → Prop
  | listening {left : Subscription} {events : List LifecycleEvent}
      {handled : List (Asked Action.Reply)} :
      s.yields = events.map .ok ++ left.yields → left.staysOpen = s.staysOpen →
      HandledAll hostId events handled →
      Standing hostId delay s left .listening (opening ++ handled)
  | pausing {left : Subscription} {handled : List (Asked Action.Reply)}
      {last : Option (Except EngineError LifecycleEvent)} {reason : String} (instant : Duration) :
      HandledAll hostId (Subscription.served s.yields) handled → s.Breaks last reason →
      Standing hostId delay s left (.pausing (instant + delay))
        (opening ++ handled ++ breaking hostId delay last reason instant)

/-- What the loop did with a subscription from its opening to the end of the wait after it. -/
def Chapter (hostId : String) (delay : Duration) (s : Subscription)
    (past : List (Asked Action.Reply)) : Prop :=
  ∃ left instant told, Standing hostId delay s left (.pausing instant) told ∧
    past = told ++ [⟨.sleepUntil instant, ()⟩]

variable {hostId : String} {delay : Duration} {past : List (Asked Action.Reply)}
  {loop : EventLoop}

/-! ## Turns -/

theorem HandledAll.snoc {events : List LifecycleEvent} {e : LifecycleEvent}
    {more : List (Asked Action.Reply)} (h : HandledAll hostId events past)
    (he : Handled hostId e more) : HandledAll hostId (events ++ [e]) (past ++ more) := by
  obtain ⟨parts, hparts, rfl⟩ := h
  exact ⟨parts ++ [more], List.rel_append hparts (.cons he .nil), by simp⟩

/-- At first nothing was handled, and everything is still to be yielded. -/
theorem Standing.opened (s : Subscription) : Standing hostId delay s s .listening opening := by
  have hnone : HandledAll hostId [] [] := ⟨[], .nil, rfl⟩
  exact .listening rfl rfl hnone

theorem open_yields (h : open_.Yields past loop) : past = opening ∧ loop = .listening := by
  obtain ⟨_, _, rfl, hhealth⟩ := (Program.yields_ask _ _ _ _).1 h
  obtain ⟨_, _, rfl, hdone⟩ := (Program.yields_ask _ _ _ _).1 hhealth
  obtain ⟨rfl, rfl⟩ := (Program.yields_done _ _ _).1 hdone
  exact ⟨rfl, rfl⟩

theorem interrupted_yields {reason : String}
    (last : Option (Except EngineError LifecycleEvent))
    (h : (interrupted hostId delay reason).Yields past loop) :
    ∃ instant, ⟨.nextEvent, last⟩ :: past = breaking hostId delay last reason instant ∧
      loop = .pausing (instant + delay) := by
  obtain ⟨_, _, rfl, hlog⟩ := (Program.yields_ask _ _ _ _).1 h
  obtain ⟨_, _, rfl, hhealth⟩ := (Program.yields_ask _ _ _ _).1 hlog
  obtain ⟨_, _, rfl, hnow⟩ := (Program.yields_ask _ _ _ _).1 hhealth
  obtain ⟨instant, _, rfl, hdone⟩ := (Program.yields_ask _ _ _ _).1 hnow
  obtain ⟨rfl, rfl⟩ := (Program.yields_done _ _ _).1 hdone
  exact ⟨instant, rfl, rfl⟩

theorem handled_yields {e : LifecycleEvent}
    (h : (resume hostId delay .listening (some (.ok e))).Yields past loop) :
    Handled hostId e (⟨.nextEvent, some (.ok e)⟩ :: past) ∧ loop = .listening := by
  obtain ⟨work, rest, outcome, rfl, hwork, hrest⟩ := (Program.yields_bind _ _ _ _).1 h
  obtain ⟨hquiet, -⟩ := (Reconcile.handle_asking hostId e).of_reaches hwork
  have hcomplaint : rest = complaint outcome ∧ loop = .listening := by
    cases outcome with
    | ok _ =>
        obtain ⟨rfl, rfl⟩ := (Program.yields_done _ _ _).1 hrest
        exact ⟨rfl, rfl⟩
    | error err =>
        obtain ⟨_, _, rfl, hdone⟩ := (Program.yields_ask _ _ _ _).1 hrest
        obtain ⟨rfl, rfl⟩ := (Program.yields_done _ _ _).1 hdone
        exact ⟨rfl, rfl⟩
  obtain ⟨rfl, rfl⟩ := hcomplaint
  exact ⟨⟨work, outcome, hwork, hquiet, rfl⟩, rfl⟩

/-! ## Runs -/

/-- What the loop did up to a wait, chapter by chapter. -/
structure Told (subs : Nat → Subscription) (hostId : String) (delay : Duration)
    (past : List (Asked Action.Reply)) (loop : EventLoop)
    (chapters : List (List (Asked Action.Reply))) (last : List (Asked Action.Reply)) : Prop where
  past_eq : past = ⟨.notice (.line "Starting runtime event loop"), ()⟩ :: (chapters.flatten ++ last)
  complete : Forall₂ (Chapter hostId delay) ((List.range chapters.length).map subs) chapters
  opened : (Feed.start.after subs past).opened = chapters.length + 1
  standing : Standing hostId delay (subs chapters.length) (Feed.start.after subs past).current
    loop last

namespace Told

variable {subs : Nat → Subscription} {chapters : List (List (Asked Action.Reply))}
  {last more : List (Asked Action.Reply)}

/-- An event is handled, with any outcome, and the loop listens on. -/
theorem handled {e : LifecycleEvent} (h : Told subs hostId delay past .listening chapters last)
    (hallows : (Feed.start.after subs past).Allows ⟨.nextEvent, some (.ok e)⟩)
    (he : Handled hostId e more) :
    Told subs hostId delay (past ++ more) .listening chapters (last ++ more) := by
  obtain ⟨hpast, hcomplete, hopened, hstanding⟩ := h
  have hfeed : Feed.start.after subs (past ++ more) =
      (Feed.start.after subs past).next subs ⟨.nextEvent, some (.ok e)⟩ := by
    obtain ⟨work, outcome, -, hquiet, rfl⟩ := he
    rw [Feed.after_append, Feed.after, List.foldl_cons, ← Feed.after, Feed.after_append,
      Feed.after_handler _ hquiet]
    cases outcome <;> rfl
  refine { past_eq := by simp [hpast], complete := hcomplete, opened := ?_, standing := ?_ }
  · rw [hfeed]
    exact hopened
  · rw [hfeed]
    cases hstanding with
    | listening hyields hopen hall =>
        rw [List.append_assoc]
        refine .listening ?_ hopen (hall.snoc he)
        obtain ⟨tail, htail⟩ := List.head?_eq_some_iff.1 hallows
        rw [hyields, Feed.yields_next, htail]
        simp

/-- The subscription broke off, and the loop waits. -/
theorem interrupted {item : Option (Except EngineError LifecycleEvent)} {reason : String}
    {instant : Duration} (h : Told subs hostId delay past .listening chapters last)
    (hbreaks : ∀ (s : Subscription) (events : List LifecycleEvent),
      s.yields = events.map .ok ++ (Feed.start.after subs past).current.yields →
      (Feed.start.after subs past).current.staysOpen = s.staysOpen →
      Subscription.served s.yields = events ∧ s.Breaks item reason) :
    Told subs hostId delay (past ++ breaking hostId delay item reason instant)
      (.pausing (instant + delay)) chapters
      (last ++ breaking hostId delay item reason instant) := by
  obtain ⟨hpast, hcomplete, hopened, hstanding⟩ := h
  have hfeed : Feed.start.after subs (past ++ breaking hostId delay item reason instant) =
      (Feed.start.after subs past).next subs ⟨.nextEvent, item⟩ := by
    rw [Feed.after_append]
    rfl
  refine { past_eq := by simp [hpast], complete := hcomplete, opened := ?_, standing := ?_ }
  · rw [hfeed]
    exact hopened
  · cases hstanding with
    | listening hyields hopen hall =>
        obtain ⟨hserved, hreason⟩ := hbreaks _ _ hyields hopen
        exact .pausing instant (hserved ▸ hall) hreason

/-- The wait is over, and the next subscription is opened. -/
theorem reopened {instant : Duration}
    (h : Told subs hostId delay past (.pausing instant) chapters last) :
    Told subs hostId delay (past ++ ⟨.sleepUntil instant, ()⟩ :: opening) .listening
      (chapters ++ [last ++ [⟨.sleepUntil instant, ()⟩]]) opening := by
  obtain ⟨hpast, hcomplete, hopened, hstanding⟩ := h
  have hfeed : Feed.start.after subs (past ++ ⟨.sleepUntil instant, ()⟩ :: opening) =
      ⟨chapters.length + 2, subs (chapters.length + 1)⟩ := by
    rw [← hopened, show chapters.length + 2 = (Feed.start.after subs past).opened + 1 by omega,
      Feed.after_append]
    rfl
  refine { past_eq := by simp [hpast], complete := ?_, opened := ?_, standing := ?_ }
  · rw [List.length_append, List.length_singleton, List.range_succ, List.map_append]
    exact List.rel_append hcomplete (.cons ⟨_, instant, last, hstanding, rfl⟩ .nil)
  · simp [hfeed]
  · rw [hfeed, List.length_append, List.length_singleton]
    exact .opened _

/-- A turn that the replies of the engine allow keeps the story of the loop. -/
theorem turn {loop' : EventLoop} (h : Told subs hostId delay past loop chapters last)
    (reply : loop.wait.Reply)
    (hallows : (Feed.start.after subs past).Allows ⟨loop.wait, reply⟩)
    (hturn : (loop.resume hostId delay reply).Yields more loop') :
    ∃ chapters' last',
      Told subs hostId delay (past ++ ⟨loop.wait, reply⟩ :: more) loop' chapters' last' := by
  cases loop with
  | pausing instant =>
      obtain ⟨rfl, rfl⟩ := open_yields hturn
      exact ⟨_, _, h.reopened⟩
  | listening =>
      match reply, hallows, hturn with
      | some (.ok e), hallows, hturn =>
          obtain ⟨he, rfl⟩ := handled_yields hturn
          exact ⟨_, _, h.handled hallows he⟩
      | some (.error e), hallows, hturn =>
          obtain ⟨instant, hmore, rfl⟩ := interrupted_yields (some (.error e)) hturn
          rw [hmore]
          exact ⟨_, _, h.interrupted fun s events hyields _ =>
            Subscription.breaks_of_error hyields hallows⟩
      | none, hallows, hturn =>
          obtain ⟨instant, hmore, rfl⟩ := interrupted_yields none hturn
          rw [hmore]
          exact ⟨_, _, h.interrupted fun s events hyields hopen =>
            Subscription.breaks_of_end hyields hallows.1 (hopen ▸ hallows.2)⟩

end Told

/-! ## What is seen from outside -/

/-- The entry of the log for a subscription that broke off. -/
def interruption (hostId : String) (delay : Duration) (reason : String) : LogEntry :=
  { level := .warn
    text := "Runtime event stream interrupted, resubscribing"
    fields := [("event", .string "event_stream_reconnect"), ("host_id", .string hostId),
      ("reason", .string reason), ("delay_secs", .nat delay.secs)] }

/-- What a history leaves behind: for each of these reasons the counter has grown by one and an
entry was logged, and these changes were made to the health. -/
structure Leaves (hostId : String) (delay : Duration) (past : List (Asked Action.Reply))
    (reasons : List String) (changes : List HealthChange) : Prop where
  counted : ∀ s : Series, (s.after past).streamReconnects = s.streamReconnects + reasons.length
  logged : Agent.loggedOf past = reasons.map (interruption hostId delay)
  changed : Agent.changesOf past = changes

theorem Leaves.append {first second : List (Asked Action.Reply)} {reasons reasons' : List String}
    {changes changes' : List HealthChange} (h : Leaves hostId delay first reasons changes)
    (h' : Leaves hostId delay second reasons' changes') :
    Leaves hostId delay (first ++ second) (reasons ++ reasons') (changes ++ changes') where
  counted s := by
    rw [Series.after_append, h'.counted, h.counted, List.length_append, Nat.add_assoc]
  logged := by rw [Agent.loggedOf_append, h.logged, h'.logged, List.map_append]
  changed := by rw [Agent.changesOf_append, h.changed, h'.changed]

/-- A handler tells nothing of the stream. -/
theorem Leaves.of_handler {a : Asked Action.Reply} (h : a.question.OfHandler hostId) :
    Leaves hostId delay [a] [] [] := by
  obtain ⟨q, r⟩ := a
  cases q with
  | notice n =>
      cases n with
      | series change =>
          refine ⟨fun s => ?_, rfl, rfl⟩
          cases change with
          | reconnected => exact absurd rfl h
          | _ => rfl
      | _ => exact h.elim
  | engine call | central call => exact ⟨fun _ => rfl, rfl, rfl⟩
  | _ => exact h.elim

theorem Leaves.of_work {work : List (Asked Action.Reply)}
    (h : ∀ a ∈ work, a.question.OfHandler hostId) : Leaves hostId delay work [] [] := by
  induction work with
  | nil => exact ⟨fun _ => rfl, rfl, rfl⟩
  | cons a work ih =>
      have hone : Leaves hostId delay [a] [] [] := .of_handler (h a List.mem_cons_self)
      exact hone.append (ih fun a' ha' => h a' (List.mem_cons_of_mem _ ha'))

theorem HandledAll.leaves {events : List LifecycleEvent} (h : HandledAll hostId events past) :
    Leaves hostId delay past [] [] := by
  obtain ⟨parts, hparts, rfl⟩ := h
  induction hparts with
  | nil => exact ⟨fun _ => rfl, rfl, rfl⟩
  | @cons e part events parts hpart _ ih =>
      obtain ⟨work, outcome, -, hwork, rfl⟩ := hpart
      have hitem : Leaves hostId delay [⟨.nextEvent, some (.ok e)⟩] [] [] :=
        ⟨fun _ => rfl, rfl, rfl⟩
      have hcomplaint : Leaves hostId delay (complaint outcome) [] [] := by
        cases outcome <;> exact ⟨fun _ => rfl, rfl, rfl⟩
      exact (hitem.append ((Leaves.of_work hwork).append hcomplaint)).append ih

/-- A subscription is opened, and at its end it is told why it broke off. -/
theorem Standing.leaves {s left : Subscription} {told : List (Asked Action.Reply)}
    (h : Standing hostId delay s left loop told) :
    (loop = .listening ∧
      Leaves hostId delay told [] ([] ++ [.put "event_stream" .healthy none])) ∨
    ∃ instant last reason, loop = .pausing instant ∧ s.Breaks last reason ∧
      Leaves hostId delay told [reason]
        ([.put "event_stream" .healthy none] ++ [.put "event_stream" .degraded (some reason)]) := by
  have hopening : Leaves hostId delay opening [] [.put "event_stream" .healthy none] :=
    ⟨fun _ => rfl, rfl, rfl⟩
  cases h with
  | listening _ _ hall => exact .inl ⟨rfl, hopening.append hall.leaves⟩
  | @pausing _ last reason instant hall hbreaks =>
      have hbreaking : Leaves hostId delay (breaking hostId delay last reason instant) [reason]
          [.put "event_stream" .degraded (some reason)] := ⟨fun _ => rfl, rfl, rfl⟩
      exact .inr ⟨_, last, reason, rfl, hbreaks, (hopening.append hall.leaves).append hbreaking⟩

theorem leaves_chapters {ss : List Subscription} {chapters : List (List (Asked Action.Reply))}
    (h : Forall₂ (Chapter hostId delay) ss chapters) :
    ∃ reasons changes, Forall₂ (fun s reason => ∃ last, s.Breaks last reason) ss reasons ∧
      Leaves hostId delay chapters.flatten reasons changes := by
  induction h with
  | nil => exact ⟨[], [], .nil, fun _ => rfl, rfl, rfl⟩
  | cons hchapter _ ih =>
      obtain ⟨left, instant, told, hstanding, rfl⟩ := hchapter
      obtain ⟨reasons, changes, hbreaks, hleaves⟩ := ih
      rcases hstanding.leaves with ⟨hloop, -⟩ | ⟨_, last, reason, -, hbreak, htold⟩
      · cases hloop
      · have hwait : Leaves hostId delay [⟨.sleepUntil instant, ()⟩] [] [] :=
          ⟨fun _ => rfl, rfl, rfl⟩
        exact ⟨reason :: reasons, _, .cons ⟨last, hbreak⟩ hbreaks,
          (htold.append hwait).append hleaves⟩

/-- What is seen of a loop that has given up subscriptions for these reasons. Each was counted and
logged once. While the loop listens, the stream is well and its last subscription goes on; while it
waits, the stream is degraded for the last of the reasons. -/
structure Noted (subs : Nat → Subscription) (hostId : String) (delay : Duration)
    (past : List (Asked Action.Reply)) (loop : EventLoop) (reasons : List String) : Prop where
  broken : Forall₂ (fun s reason => ∃ last, s.Breaks last reason)
    ((List.range reasons.length).map subs) reasons
  counted : ∀ s : Series, (s.after past).streamReconnects = s.streamReconnects + reasons.length
  logged : Agent.loggedOf past = reasons.map (interruption hostId delay)
  well : loop = .listening → (Feed.start.after subs past).opened = reasons.length + 1 ∧
    ∀ r, HealthRegistry.After (Agent.changesOf past) r →
      r.wordOn? "event_stream" = some (.healthy, none)
  ill : ∀ instant, loop = .pausing instant →
    (Feed.start.after subs past).opened = reasons.length ∧
    ∃ reason, reasons.getLast? = some reason ∧
      ∀ r, HealthRegistry.After (Agent.changesOf past) r →
        r.wordOn? "event_stream" = some (.degraded, some reason)

theorem Told.noted {subs : Nat → Subscription} {chapters : List (List (Asked Action.Reply))}
    {last : List (Asked Action.Reply)} (h : Told subs hostId delay past loop chapters last) :
    ∃ reasons, Noted subs hostId delay past loop reasons := by
  obtain ⟨reasons, changes, hbroken, hchapters⟩ := leaves_chapters h.complete
  have hlength : reasons.length = chapters.length := by simpa using hbroken.length_eq.symm
  have hstart : Leaves hostId delay [⟨.notice (.line "Starting runtime event loop"), ()⟩] [] [] :=
    ⟨fun _ => rfl, rfl, rfl⟩
  have hbefore := hstart.append hchapters
  have hpast : past = [⟨.notice (.line "Starting runtime event loop"), ()⟩] ++ chapters.flatten ++
      last := h.past_eq
  have hopened := h.opened
  rw [hpast] at hopened ⊢
  rcases h.standing.leaves with ⟨hloop, hlast⟩ | ⟨instant, item, reason, hloop, hbreaks, hlast⟩
  · have hleaves := hbefore.append hlast
    rw [List.append_nil] at hleaves
    refine ⟨reasons, hlength ▸ hbroken, hleaves.counted, hleaves.logged, ?_, ?_⟩
    · intro _
      refine ⟨hlength ▸ hopened, fun r hr => ?_⟩
      rw [hleaves.changed, ← List.append_assoc] at hr
      exact hr.wordOn?_last rfl
    · rintro instant hpausing
      cases hloop.symm.trans hpausing
  · have hleaves := hbefore.append hlast
    refine ⟨reasons ++ [reason], ?_, hleaves.counted, hleaves.logged, ?_, ?_⟩
    · rw [List.length_append, List.length_singleton, List.range_succ, List.map_append]
      exact List.rel_append (hlength ▸ hbroken) (.cons ⟨item, hlength ▸ hbreaks⟩ .nil)
    · intro hlistening
      cases hloop.symm.trans hlistening
    · rintro _ -
      refine ⟨?_, reason, List.getLast?_concat, fun r hr => ?_⟩
      · rw [hopened, List.length_append, List.length_singleton, hlength]
      · rw [hleaves.changed, ← List.append_assoc] at hr
        exact hr.wordOn?_last rfl

end EventLoop

/-- A run of the event loop up to a wait consists of chapters. -/
theorem LoopRun.told {subs : Nat → Subscription} {hostId : String} {settings : AgentSettings}
    {kept : Unreported} {past : List (Asked Action.Reply)} {rest : Work LoopState} {s : LoopState}
    (h : LoopRun hostId settings kept .events past rest) (hrest : rest = .done s)
    (hserves : Feed.start.Serves subs past) :
    ∃ loop chapters last, s = .events loop ∧
      EventLoop.Told subs hostId settings.reconcile.eventRetryDelay past loop chapters last := by
  induction h generalizing s with
  | begun hbegun =>
      obtain ⟨_, _, rfl, hopen⟩ := (Program.yields_ask _ _ _ _).1 (hrest ▸ hbegun)
      change (EventLoop.open_.bind fun loop => .done (.events loop)).Yields _ s at hopen
      obtain ⟨first, second, loop, rfl, hfirst, hsecond⟩ := (Program.yields_bind _ _ _ _).1 hopen
      obtain ⟨rfl, rfl⟩ := (Program.yields_done _ _ _).1 hsecond
      obtain ⟨rfl, rfl⟩ := EventLoop.open_yields hfirst
      exact ⟨.listening, [], EventLoop.opening, rfl, rfl, .nil, rfl, .opened _⟩
  | @turn past more s₀ rest reply hbefore hturn ih =>
      obtain ⟨hpast, hmore⟩ := (Feed.serves_append _ _ _).1 hserves
      obtain ⟨loop, chapters, last, rfl, htold⟩ := ih rfl hpast
      obtain ⟨first, second, loop', rfl, hfirst, hsecond⟩ :=
        (Program.yields_bind _ _ _ _).1 (hrest ▸ hturn)
      obtain ⟨rfl, rfl⟩ := (Program.yields_done _ _ _).1 hsecond
      obtain ⟨chapters', last', htold'⟩ := htold.turn reply hmore.1 hfirst
      rw [List.append_nil]
      exact ⟨loop', chapters', last', rfl, htold'⟩

/-- Whatever the subscriptions are, however handling an event ends and wherever the loop waits: it
has gone through the subscriptions one by one. Of each it handled the events before the first error,
and nothing after that; then it told once why the subscription broke off, waited once and opened the
next. Of the last it has handled what was yielded so far. Each break has made the counter grow by
one and is one entry of the log, with its reason; the stream is degraded for that reason up to the
end of the wait, and well from the next opening on. The loop does not end before the agent is told
to stop. -/
theorem events_delivered {subs : Nat → Subscription} {hostId : String} {settings : AgentSettings}
    {kept : Unreported} {past : List (Asked Action.Reply)} {s : LoopState}
    (hrun : LoopRun hostId settings kept .events past (.done s))
    (hserves : Feed.start.Serves subs past) :
    (∃ loop chapters last reasons, s = .events loop ∧
      EventLoop.Told subs hostId settings.reconcile.eventRetryDelay past loop chapters last ∧
      EventLoop.Noted subs hostId settings.reconcile.eventRetryDelay past loop reasons) ∧
    ∀ (W : Type) (env : Surroundings W), env.Heeds →
      ∀ host w time enough limit fuel,
      ∃ strand ∈
        (Schedule.advance enough limit fuel
          (Schedule.begun env.recorded host settings w time)).strands,
        strand.kind = .events ∧ ¬ strand.activity.IsEnded := by
  obtain ⟨loop, chapters, last, hloop, htold⟩ := hrun.told rfl hserves
  obtain ⟨reasons, hnoted⟩ := htold.noted
  refine ⟨⟨loop, chapters, last, reasons, hloop, htold, hnoted⟩, ?_⟩
  intro W env hheeds host w time enough limit fuel
  exact Schedule.advance_endures hheeds settings host w time enough limit fuel .events

/-! ## A subscription that fails

The engine cannot be asked about the container of the first event, and then the subscription breaks
off with more to yield. -/

def patient : AgentSettings :=
  { (default : AgentSettings) with
    reconcile := { (default : ReconcileSettings) with eventRetryDelay := .ofSecs 5 } }

/-- A subscription with an event behind its error, and then one that stays open. -/
def failing : Nat → Subscription
  | 0 => ⟨[(0, .ok { action := "start", containerId := "x" }), (0, .error (.unavailable "gone")),
      (0, .ok { action := "die", containerId := "x" })], false⟩
  | _ => .silent

/-- The event of the first subscription is taken, and handling it fails. -/
def failingHandled : List (Asked Action.Reply) :=
  [⟨.nextEvent, some (.ok { action := "start", containerId := "x" })⟩,
    ⟨.engine (.inspect "x"), .error (.unavailable "gone")⟩,
    ⟨.notice (.line "Event-driven sync failed"), ()⟩]

/-- The first subscription breaks off after a minute. -/
def failingBroken : List (Asked Action.Reply) :=
  EventLoop.breaking "h1" (.ofSecs 5) (some (.error (.unavailable "gone")))
    "runtime unavailable: gone" (.ofSecs 60)

def failingPast : List (Asked Action.Reply) :=
  ⟨.notice (.line "Starting runtime event loop"), ()⟩ :: EventLoop.opening ++ failingHandled ++
    failingBroken ++ ⟨.sleepUntil (.ofSecs 60 + .ofSecs 5), ()⟩ :: EventLoop.opening

theorem failing_run :
    LoopRun "h1" patient ∅ .events failingPast (.done (.events .listening)) := by
  have hopened : LoopRun "h1" patient ∅ .events
      (⟨.notice (.line "Starting runtime event loop"), ()⟩ :: EventLoop.opening)
      (.done (.events .listening)) :=
    .begun (.ask _ _ _ (.ask _ _ _ (.ask _ _ _ (.here _))))
  have hhandled : LoopRun "h1" patient ∅ .events
      (⟨.notice (.line "Starting runtime event loop"), ()⟩ :: EventLoop.opening ++ failingHandled)
      (.done (.events .listening)) :=
    .turn (s := .events .listening) (some (.ok { action := "start", containerId := "x" })) hopened
      (.ask _ _ _ (.ask _ _ _ (.here _)))
  have hnow :
      (.ask .now fun t => .done (.events (.pausing (t + .ofSecs 5))) : Work LoopState).Reaches
      [⟨.now, .ofSecs 60⟩] (.done (.events (.pausing (.ofSecs 60 + .ofSecs 5)))) :=
    .ask _ _ _ (.here _)
  have hbroken : LoopRun "h1" patient ∅ .events
      (⟨.notice (.line "Starting runtime event loop"), ()⟩ :: EventLoop.opening ++ failingHandled ++
        failingBroken) (.done (.events (.pausing (.ofSecs 60 + .ofSecs 5)))) :=
    .turn (s := .events .listening) (some (.error (.unavailable "gone"))) hhandled
      (.ask _ _ _ (.ask _ _ _ (.ask _ _ _ hnow)))
  exact .turn (s := .events (.pausing (.ofSecs 60 + .ofSecs 5))) () hbroken
    (.ask _ _ _ (.ask _ _ _ (.here _)))

/-- A world in which nothing happens. -/
def quietWorld : World :=
  { engine := ⟨default, ∅, ∅, 0⟩, central := ⟨∅, [], []⟩, listed := none, subscriptions := []
    current := .silent, faults := [], delays := [], calls := [], health := .initial
    series := .initial, events := [] }

/-- The event is handled, the one behind the error is not, and the loop listens again. What has gone
wrong is counted and logged. In a quiet world the loop goes on as long as it is let. -/
theorem events_delivered_failing :
    (∃ chapters last reasons,
      EventLoop.Told failing "h1" (.ofSecs 5) failingPast .listening chapters last ∧
      EventLoop.Noted failing "h1" (.ofSecs 5) failingPast .listening reasons) ∧
    ∃ strand ∈
      (Schedule.advance (fun _ => false) none 100 (Schedule.begun World.surroundings.recorded
        (HostRecord.ofFacts default default none) patient (quietWorld, []) 0)).strands,
      strand.kind = .events ∧ ¬ strand.activity.IsEnded := by
  have hserves : Feed.start.Serves failing failingPast :=
    ⟨trivial, trivial, trivial, rfl, trivial, trivial, rfl, trivial, trivial, trivial, trivial,
      trivial, trivial, trivial, trivial⟩
  have hheeds : World.surroundings.Heeds := fun _ _ _ => Option.some_ne_none 0
  obtain ⟨⟨loop, chapters, last, reasons, hloop, htold, hnoted⟩, hgoes⟩ :=
    events_delivered failing_run hserves
  cases hloop
  exact ⟨⟨chapters, last, reasons, htold, hnoted⟩,
    hgoes World World.surroundings hheeds _ _ _ _ _ _⟩

end HostAgent
